import SurveyQuests.Proofs.Grammar.Syntax

/-!
# What the parser accepts, token by token

`Accepts s ks q` says that the parser, from the state `s`, takes tokens of the kinds `ks` and then
the end of the text, and gives the query `q`.  Offsets play no part in it, since they only occur in
errors; `run_eq_ok_iff` ties it to the parser that does keep them.

For every phase in which a condition is read there is one equivalence: the parser accepts from there
exactly if a part of the grammar comes next and the parser accepts what follows from the state after
that part.  The grammar of conditions is not recursive, so these equivalences go by cases.  The
expressions around conditions are in `SurveyQuests.Proofs.Grammar.Parsing`.

A condition such as a bare key ends where the next token does not continue it.  The equivalences
need no side condition for this: after an operand no token that continues a condition is accepted.
-/

set_option autoImplicit false

namespace SurveyQuests.ParserState

open Grammar

/-! ## Acceptance -/

/-- Does the parser take tokens of these kinds, and then the end, to this query? -/
def Accepts (s : ParserState) : List TokenKind → Query → Prop
  | [], q => s.finish ⟨.eof, 0⟩ = .ok q
  | k :: ks, q => ∃ t, s.step ⟨k, 0⟩ = .ok t ∧ Accepts t ks q

/-- The state without the offset that a pending minus sign is remembered with. -/
def unplaced (s : ParserState) : ParserState :=
  match s.phase with
  | .valueAfterMinus use _ => s.enter (.valueAfterMinus use 0)
  | _ => s

theorem toOption_useValue (s : ParserState) (use : ValueUse) (value : String) (p : Phase)
    (i j : Nat) :
    (s.useValue use value i).toOption.map unplaced
      = ((s.enter p).useValue use value j).toOption := by
  cases use with
  | keyPattern negated => simp only [useValue]; split <;> rfl
  | valuePattern key negated => simp only [useValue]; split <;> rfl
  | member key negated before => rfl

theorem toOption_takeAfterOperand (κ : KindSet) (l : Level) (o : List Level) (t : Token) :
    ((⟨κ, l, o, .afterOperand⟩ : ParserState).takeAfterOperand t).toOption.map unplaced
      = ((⟨κ, l, o, .afterOperand⟩ : ParserState).takeAfterOperand ⟨t.kind, 0⟩).toOption := by
  simp only [takeAfterOperand]
  split
  · rfl
  · rfl
  · split <;> rfl
  · rfl

/-- Where a token stands makes no difference to the step, but for the offset of a pending minus. -/
theorem step_unplaced (s : ParserState) (t : Token) :
    (s.step t).toOption.map unplaced = (s.unplaced.step ⟨t.kind, 0⟩).toOption := by
  obtain ⟨κ, l, o, p⟩ := s
  obtain ⟨k, pos⟩ := t
  cases p with
  | kind =>
    simp only [step, settled, take, unplaced, takeKind]
    split
    · split <;> rfl
    · rfl
  | afterKind =>
    simp only [step, settled, take, unplaced, takeAfterKind]
    split
    · rfl
    · split <;> rfl
    · rfl
  | operand =>
    simp only [step, settled, take, unplaced, takeOperand]
    split <;> rfl
  | afterBang =>
    simp only [step, settled, take, unplaced, takeAfterBang]
    split <;> rfl
  | afterKey key =>
    simp only [step, settled, unplaced]
    split
    · simp only [take, takeAfterKey]
      split <;> rfl
    · exact toOption_takeAfterOperand ..
  | value use =>
    simp only [step, settled, take, unplaced, takeValue]
    split
    · exact toOption_useValue ..
    · exact toOption_useValue ..
    · exact toOption_useValue ..
    · exact toOption_useValue ..
    · rfl
    · rfl
  | valueAfterMinus use minus =>
    simp only [step, settled, take, unplaced, takeValueAfterMinus, enter]
    split
    · exact toOption_useValue ..
    · rfl
  | afterValue key negated newest before =>
    simp only [step, settled, unplaced]
    split
    · rfl
    · exact toOption_takeAfterOperand ..
  | number key op negative =>
    simp only [step, settled, take, unplaced, takeNumber]
    split
    · rfl
    · split <;> rfl
  | anchor target direction =>
    simp only [step, settled, take, unplaced, takeAnchor]
    split
    · rfl
    · rfl
    · split <;> rfl
    · rfl
  | afterToday target direction =>
    simp only [step, settled, unplaced]
    split
    · rfl
    · exact toOption_takeAfterOperand ..
  | magnitude target direction =>
    simp only [step, settled, take, unplaced, takeMagnitude]
    split <;> rfl
  | unit target direction magnitude =>
    simp only [step, settled, take, unplaced, takeUnit]
    split
    · split <;> rfl
    · rfl
  | afterOperand => exact toOption_takeAfterOperand ..

theorem eq_ok_iff_toOption {ε α : Type} {x : Except ε α} {a : α} :
    x = .ok a ↔ x.toOption = some a := by
  cases x <;> simp [Except.toOption]

theorem finish_unplaced (s : ParserState) (t : Token) :
    (s.finish t).toOption = (s.unplaced.finish ⟨.eof, 0⟩).toOption := by
  obtain ⟨κ, l, o, p⟩ := s
  cases p <;> cases o <;> rfl

/-- **The parser accepts a list of tokens exactly if it accepts their kinds.**  The list has the
token for the end of the text at its end and nowhere else. -/
theorem run_eq_ok_iff {ts : List Token} {e : Token} (hts : ∀ t ∈ ts, t.kind ≠ .eof)
    (he : e.kind = .eof) (s : ParserState) (last : Nat) (q : Query) :
    s.run last (ts ++ [e]) = .ok q ↔ s.unplaced.Accepts (ts.map Token.kind) q := by
  induction ts generalizing s last with
  | nil =>
    have hrun : s.run last [e] = s.finish e := if_pos he
    rw [List.nil_append, hrun, eq_ok_iff_toOption, finish_unplaced, ← eq_ok_iff_toOption]
    rfl
  | cons t ts ih =>
    have ht : t.kind ≠ .eof := hts t List.mem_cons_self
    have hstep := step_unplaced s t
    rw [List.cons_append, run, if_neg ht, List.map_cons, Accepts]
    cases hs : s.step t with
    | error err =>
      rw [hs] at hstep
      constructor
      · intro h
        cases h
      · rintro ⟨t', ht', -⟩
        rw [ht'] at hstep
        cases hstep
    | ok s' =>
      rw [hs] at hstep
      rw [eq_ok_iff_toOption.2 hstep.symm]
      refine (ih (fun t' ht' ↦ hts t' (List.mem_cons_of_mem t ht')) s' t.pos).trans ?_
      simp

/-! ## Steps -/

variable {κ : KindSet} {l : Level} {o : List Level} {ks : List TokenKind} {q : Query}

/-- No state takes a mark of the end. -/
theorem step_eof_ne_ok (s t : ParserState) (pos : Nat) : s.step ⟨.eof, pos⟩ ≠ .ok t := by
  obtain ⟨κ, l, o, p⟩ := s
  intro h
  cases p <;> cases h

theorem accepts_cons_iff {s t : ParserState} {k : TokenKind} (h : s.step ⟨k, 0⟩ = .ok t) :
    Accepts s (k :: ks) q ↔ Accepts t ks q := by
  simp [Accepts, h]

/-- A state with a complete condition left open accepts what it accepts once the next token has
closed the condition. -/
theorem accepts_settled_iff {s t : ParserState} (hp : t.phase = .afterOperand)
    (h : s.settled (ks.headD .eof) = t) : Accepts s ks q ↔ Accepts t ks q := by
  have ht : ∀ k, t.settled k = t := by
    intro k
    rw [settled, hp]
  cases ks with
  | nil => rw [Accepts, Accepts, finish, finish, ht, ← h]; rfl
  | cons k ks =>
    have h' : s.settled k = t := h
    rw [Accepts, Accepts, step, step, h', ht]

theorem accepts_and_iff : Accepts ⟨κ, l, o, .afterOperand⟩ (.keyword .and :: ks) q ↔
    Accepts ⟨κ, l, o, .operand⟩ ks q := accepts_cons_iff rfl

theorem accepts_or_iff : Accepts ⟨κ, l, o, .afterOperand⟩ (.keyword .or :: ks) q ↔
    Accepts ⟨κ, l.closeAlternative, o, .operand⟩ ks q := accepts_cons_iff rfl

theorem accepts_rightParen_iff {around : Level} :
    Accepts ⟨κ, l, around :: o, .afterOperand⟩ (.rightParen :: ks) q ↔
      Accepts ⟨κ, around.addOperand l.filter, o, .afterOperand⟩ ks q := accepts_cons_iff rfl

theorem accepts_afterOperand_cases (h : Accepts ⟨κ, l, o, .afterOperand⟩ ks q) :
    (ks = [] ∧ o = [] ∧ q = ⟨κ, l.filter.simplify⟩) ∨
    (∃ r, ks = .keyword .and :: r ∧ Accepts ⟨κ, l, o, .operand⟩ r q) ∨
    (∃ r, ks = .keyword .or :: r ∧ Accepts ⟨κ, l.closeAlternative, o, .operand⟩ r q) ∨
    ∃ r around outer, ks = .rightParen :: r ∧ o = around :: outer ∧
      Accepts ⟨κ, around.addOperand l.filter, outer, .afterOperand⟩ r q := by
  cases ks with
  | nil =>
    cases o with
    | nil =>
      cases h
      exact .inl ⟨rfl, rfl, rfl⟩
    | cons around outer => cases h
  | cons k r =>
    obtain ⟨t, ht, ha⟩ := h
    simp only [step, settled, take, takeAfterOperand] at ht
    split at ht
    · cases ht
      exact .inr (.inl ⟨r, rfl, ha⟩)
    · cases ht
      exact .inr (.inr (.inl ⟨r, rfl, ha⟩))
    · split at ht
      · cases ht
        exact .inr (.inr (.inr ⟨r, _, _, rfl, rfl, ha⟩))
      · cases ht
    · cases ht

theorem goesOn_of_accepts {s : ParserState} (hp : s.phase = .afterOperand)
    (h : Accepts s ks q) : GoesOn endsOperand ks := by
  obtain ⟨κ, l, o, p⟩ := s
  cases hp
  obtain ⟨rfl, -, -⟩ | ⟨r, rfl, -⟩ | ⟨r, rfl, -⟩ | ⟨r, around, outer, rfl, -, -⟩ :=
    accepts_afterOperand_cases h <;> rfl

/-- No token that is accepted after an operand continues the condition that is left open. -/
theorem accepts_of_settled {s t : ParserState} (hp : t.phase = .afterOperand)
    (h : ∀ k, endsOperand k = true → s.settled k = t) (ha : Accepts t ks q) : Accepts s ks q :=
  (accepts_settled_iff hp (h _ (goesOn_of_accepts hp ha))).2 ha

/-- The state after a condition. -/
abbrev after (κ : KindSet) (l : Level) (o : List Level) (c : Condition) : ParserState :=
  ⟨κ, l.addOperand (.condition c), o, .afterOperand⟩

/-! ## Dates -/

theorem finiteNumber?_eq_some_iff {k : TokenKind} {x : Binary64} :
    finiteNumber? k = some x ↔ ∃ n : Numeral, k = .number n.digits ∧ x = n.number := by
  constructor
  · intro h
    cases k with
    | number text => exact ⟨⟨text, x, h⟩, rfl, rfl⟩
    | _ => cases h
  · rintro ⟨n, rfl, rfl⟩
    exact n.reads

theorem accepts_afterToday_iff {target : DateTarget} {direction : Direction} :
    Accepts ⟨κ, l, o, .afterToday target direction⟩ ks q ↔
      Accepts (after κ l o (.date target direction today)) ks q ∨
      ∃ (n : Numeral) (u : DateUnit) (rest : List TokenKind),
        ks = .minus :: .number n.digits :: .keyword u.keyword :: rest ∧
        Accepts (after κ l o (.date target direction (.relative n.number u))) rest q := by
  constructor
  · intro h
    by_cases hm : ks.headD .eof = .minus
    · obtain _ | ⟨k, r⟩ := ks
      · cases hm
      obtain rfl : k = .minus := hm
      rw [accepts_cons_iff (t := ⟨κ, l, o, .magnitude target direction⟩) rfl] at h
      obtain _ | ⟨k, r⟩ := r
      · cases h
      obtain ⟨t, ht, ha⟩ := h
      simp only [step, settled, take, takeMagnitude] at ht
      split at ht
      · rename_i x hx
        cases ht
        obtain ⟨n, rfl, rfl⟩ := finiteNumber?_eq_some_iff.1 hx
        obtain _ | ⟨k, r⟩ := r
        · cases ha
        obtain ⟨t, ht, ha⟩ := ha
        simp only [enter, step, settled, take, takeUnit] at ht
        split at ht
        · split at ht
          · rename_i u hu
            cases ht
            rw [unit?_eq_some_iff.1 hu]
            exact .inr ⟨n, u, r, rfl, ha⟩
          · cases ht
        · cases ht
      · cases ht
    · refine .inl ((accepts_settled_iff rfl ?_).1 h)
      exact if_neg hm
  · rintro (h | ⟨n, u, rest, rfl, h⟩)
    · refine accepts_of_settled rfl (fun k hk ↦ if_neg ?_) h
      rintro rfl
      cases hk
    · refine (accepts_cons_iff (t := ⟨κ, l, o, .magnitude target direction⟩) rfl).2 ?_
      refine (accepts_cons_iff (t := ⟨κ, l, o, .unit target direction n.number⟩) ?_).2 ?_
      · simp only [step, settled, take, takeMagnitude, n.reads, enter]
      · refine (accepts_cons_iff ?_).2 h
        simp only [step, settled, take, takeUnit, DateUnit.unit?_keyword]
        rfl

theorem accepts_anchor_iff {target : DateTarget} {direction : Direction} :
    Accepts ⟨κ, l, o, .anchor target direction⟩ ks q ↔
      ∃ (a : Anchor) (rest : List TokenKind), ks = a.tokens ++ rest ∧
        Accepts (after κ l o (.date target direction a.anchor)) rest q := by
  constructor
  · intro h
    obtain _ | ⟨k, r⟩ := ks
    · cases h
    obtain ⟨t, ht, ha⟩ := h
    have hword : ∀ w : TodayWord, Accepts ⟨κ, l, o, .afterToday target direction⟩ r q →
        ∃ (a : Anchor) (rest : List TokenKind), .keyword w.keyword :: r = a.tokens ++ rest ∧
          Accepts (after κ l o (.date target direction a.anchor)) rest q := by
      intro w hw
      obtain hr | ⟨n, u, rest, rfl, hr⟩ := accepts_afterToday_iff.1 hw
      · exact ⟨.today w, r, rfl, hr⟩
      · exact ⟨.before w n u, rest, rfl, hr⟩
    simp only [step, settled, take, takeAnchor] at ht
    split at ht
    · cases ht
      exact hword .today ha
    · cases ht
      exact hword .now ha
    · split at ht
      · rename_i text _ d hd
        cases ht
        exact ⟨.day text d hd, r, rfl, ha⟩
      · cases ht
    · cases ht
  · rintro ⟨a, rest, rfl, h⟩
    cases a with
    | today w =>
      refine (accepts_cons_iff (t := ⟨κ, l, o, .afterToday target direction⟩) ?_).2
        (accepts_afterToday_iff.2 (.inl h))
      cases w <;> rfl
    | before w n u =>
      refine (accepts_cons_iff (t := ⟨κ, l, o, .afterToday target direction⟩) ?_).2
        (accepts_afterToday_iff.2 (.inr ⟨n, u, rest, rfl, h⟩))
      cases w <;> rfl
    | day text d hd =>
      refine (accepts_cons_iff ?_).2 h
      simp only [step, settled, take, takeAnchor, hd]
      rfl

/-! ## Values and patterns -/

theorem useValue_eq_ok_iff {use : ValueUse} {value : String} {i : Nat} {p : Phase}
    {t : ParserState} :
    (⟨κ, l, o, p⟩ : ParserState).useValue use value i = .ok t ↔
      (⟨κ, l, o, .operand⟩ : ParserState).useValue use value 0 = .ok t := by
  cases use with
  | keyPattern negated => simp only [useValue]; split <;> simp; rfl
  | valuePattern key negated => simp only [useValue]; split <;> simp; rfl
  | member key negated before => simp only [useValue, enter]

theorem accepts_value_iff {use : ValueUse} :
    Accepts ⟨κ, l, o, .value use⟩ ks q ↔
      ∃ (v : Value) (rest : List TokenKind) (t : ParserState), ks = v.tokens ++ rest ∧
        (⟨κ, l, o, .operand⟩ : ParserState).useValue use v.text 0 = .ok t ∧ Accepts t rest q := by
  constructor
  · intro h
    obtain _ | ⟨k, r⟩ := ks
    · cases h
    obtain ⟨t, ht, ha⟩ := h
    simp only [step, settled, take, takeValue] at ht
    split at ht
    · exact ⟨.ident _, r, t, rfl, useValue_eq_ok_iff.1 ht, ha⟩
    · exact ⟨.str _, r, t, rfl, useValue_eq_ok_iff.1 ht, ha⟩
    · exact ⟨.number _, r, t, rfl, useValue_eq_ok_iff.1 ht, ha⟩
    · exact ⟨.date _, r, t, rfl, useValue_eq_ok_iff.1 ht, ha⟩
    · cases ht
      obtain _ | ⟨k, r⟩ := r
      · cases ha
      obtain ⟨t, ht, ha⟩ := ha
      simp only [enter, step, settled, take, takeValueAfterMinus] at ht
      split at ht
      · exact ⟨.negative _, r, t, rfl, useValue_eq_ok_iff.1 ht, ha⟩
      · cases ht
    · cases ht
  · rintro ⟨v, rest, t, rfl, ht, ha⟩
    cases v with
    | negative digits =>
      exact ⟨⟨κ, l, o, .valueAfterMinus use 0⟩, rfl, t, useValue_eq_ok_iff.2 ht, ha⟩
    | _ => exact ⟨t, useValue_eq_ok_iff.2 ht, ha⟩

theorem accepts_pattern_iff {use : ValueUse} {c : Pattern → Condition}
    (hu : ∀ (s : ParserState) (value : String) (start : Nat), s.useValue use value start =
      match Pattern.compile? value with
      | some pattern => .ok (s.addCondition (c pattern))
      | none => .error ⟨start, .validPattern, .pattern value⟩) :
    Accepts ⟨κ, l, o, .value use⟩ ks q ↔
      ∃ (p : PatternText) (rest : List TokenKind), ks = p.value.tokens ++ rest ∧
        Accepts (after κ l o (c p.pattern)) rest q := by
  rw [accepts_value_iff]
  constructor
  · rintro ⟨v, rest, t, rfl, ht, ha⟩
    rw [hu] at ht
    split at ht
    · rename_i p hp
      cases ht
      exact ⟨⟨v, p, hp⟩, rest, rfl, ha⟩
    · cases ht
  · rintro ⟨p, rest, rfl, ha⟩
    refine ⟨p.value, rest, _, rfl, ?_, ha⟩
    rw [hu, p.compiles]
    rfl

/-! ## Numbers -/

theorem accepts_signed_iff {key : String} {op : Comparison} {negative : Bool} :
    Accepts ⟨κ, l, o, .number key op negative⟩ ks q ↔
      (negative = false ∧ ∃ rest, ks = .minus :: rest ∧
        Accepts ⟨κ, l, o, .number key op true⟩ rest q) ∨
      ∃ (n : Numeral) (rest : List TokenKind), ks = .number n.digits :: rest ∧
        Accepts (after κ l o (.numeric key op (n.signed negative))) rest q := by
  constructor
  · intro h
    obtain _ | ⟨k, r⟩ := ks
    · cases h
    obtain ⟨t, ht, ha⟩ := h
    simp only [step, settled, take, takeNumber] at ht
    split at ht
    · rename_i hm
      cases ht
      exact .inl ⟨hm.2, r, by rw [hm.1], ha⟩
    · split at ht
      · rename_i x hx
        cases ht
        obtain ⟨n, rfl, rfl⟩ := finiteNumber?_eq_some_iff.1 hx
        exact .inr ⟨n, r, rfl, ha⟩
      · cases ht
  · rintro (⟨rfl, rest, rfl, ha⟩ | ⟨n, rest, rfl, ha⟩)
    · exact ⟨_, rfl, ha⟩
    · refine (accepts_cons_iff ?_).2 ha
      simp only [step, settled, take, takeNumber, n.reads, reduceCtorEq, false_and, if_false]
      rfl

theorem accepts_number_iff {key : String} {op : Comparison} :
    Accepts ⟨κ, l, o, .number key op false⟩ ks q ↔
      ∃ (negative : Bool) (n : Numeral) (rest : List TokenKind),
        ks = minusTokens negative ++ .number n.digits :: rest ∧
        Accepts (after κ l o (.numeric key op (n.signed negative))) rest q := by
  rw [accepts_signed_iff]
  constructor
  · rintro (⟨-, rest, rfl, ha⟩ | ⟨n, rest, rfl, ha⟩)
    · obtain ⟨h, -⟩ | ⟨n, r, rfl, hr⟩ := accepts_signed_iff.1 ha
      · cases h
      · exact ⟨true, n, r, rfl, hr⟩
    · exact ⟨false, n, rest, rfl, ha⟩
  · rintro ⟨negative, n, rest, rfl, ha⟩
    cases negative with
    | true => exact .inl ⟨rfl, _, rfl, accepts_signed_iff.2 (.inr ⟨n, rest, rfl, ha⟩)⟩
    | false => exact .inr ⟨n, rest, rfl, ha⟩

/-! ## Lists of values -/

/-- The condition that the value of a key is the one value, or one of several. -/
def membershipOf (key : String) (negated : Bool) : List String → Condition
  | [value] => .compares key (if negated then .ne else .eq) value
  | values => .oneOf key values negated

theorem membership_eq (key : String) (negated : Bool) (newest : String) (before : List String) :
    membership key negated newest before = membershipOf key negated (newest :: before).reverse := by
  cases before with
  | nil => rfl
  | cons b bs =>
    have h : ∀ values : List String, 2 ≤ values.length →
        membershipOf key negated values = .oneOf key values negated := by
      intro values hv
      match values, hv with
      | _ :: _ :: _, _ => rfl
    rw [h _ (by simp)]
    rfl

theorem condition_among (key : String) (negated : Bool) (first : Value) (more : List Value) :
    (Clause.among negated first more).condition key =
      membershipOf key negated ((first :: more).map Value.text) := by
  cases more <;> rfl

theorem accepts_afterValue_iff {key : String} {negated : Bool} {newest : String}
    {before : List String} :
    Accepts ⟨κ, l, o, .afterValue key negated newest before⟩ ks q ↔
      Accepts (after κ l o (membership key negated newest before)) ks q ∨
      ∃ rest, ks = .comma :: rest ∧
        Accepts ⟨κ, l, o, .value (.member key negated (newest :: before))⟩ rest q := by
  constructor
  · intro h
    by_cases hc : ks.headD .eof = .comma
    · obtain _ | ⟨k, r⟩ := ks
      · cases hc
      obtain rfl : k = .comma := hc
      exact .inr ⟨r, rfl, (accepts_cons_iff rfl).1 h⟩
    · refine .inl ((accepts_settled_iff rfl ?_).1 h)
      exact if_neg hc
  · rintro (h | ⟨rest, rfl, h⟩)
    · refine accepts_of_settled rfl (fun k hk ↦ if_neg ?_) h
      rintro rfl
      cases hk
    · exact ⟨_, rfl, h⟩

theorem accepts_members_of {key : String} {negated : Bool} (more : List Value) (first : Value)
    (before : List String)
    (h : Accepts (after κ l o
      (membershipOf key negated (before.reverse ++ (first :: more).map Value.text))) ks q) :
    Accepts ⟨κ, l, o, .value (.member key negated before)⟩
      (first.tokens ++ moreTokens more ++ ks) q := by
  induction more generalizing first before with
  | nil =>
    refine accepts_value_iff.2 ⟨first, ks, _, by simp [moreTokens], rfl, ?_⟩
    refine accepts_afterValue_iff.2 (.inl ?_)
    rw [membership_eq, List.reverse_cons]
    exact h
  | cons v more ih =>
    have hassoc := List.append_assoc first.tokens (moreTokens (v :: more)) ks
    refine accepts_value_iff.2 ⟨first, moreTokens (v :: more) ++ ks, _, hassoc, rfl, ?_⟩
    refine accepts_afterValue_iff.2 (.inr ⟨v.tokens ++ moreTokens more ++ ks, rfl, ih v _ ?_⟩)
    rw [List.reverse_cons, List.append_assoc]
    exact h

theorem members_of_accepts {key : String} {negated : Bool} {before : List String}
    (h : Accepts ⟨κ, l, o, .value (.member key negated before)⟩ ks q) :
    ∃ (first : Value) (more : List Value) (rest : List TokenKind),
      ks = first.tokens ++ moreTokens more ++ rest ∧
      Accepts (after κ l o
        (membershipOf key negated (before.reverse ++ (first :: more).map Value.text))) rest q := by
  induction hn : ks.length using Nat.strongRecOn generalizing ks before with
  | ind n ih =>
    obtain ⟨v, r, t, rfl, ht, ha⟩ := accepts_value_iff.1 h
    cases ht
    obtain hr | ⟨rest, rfl, hr⟩ := accepts_afterValue_iff.1 ha
    · refine ⟨v, [], r, by simp [moreTokens], ?_⟩
      rw [membership_eq, List.reverse_cons] at hr
      exact hr
    · have hlt : rest.length < n := by
        rw [← hn, List.length_append, List.length_cons]
        omega
      obtain ⟨w, more, r, rfl, hw⟩ := ih _ hlt hr rfl
      refine ⟨v, w :: more, r, by simp [moreTokens], ?_⟩
      rw [List.reverse_cons, List.append_assoc] at hw
      exact hw

/-! ## Conditions -/

theorem endsOperand_of_continuesKey {k : TokenKind} (h : continuesKey k = true) :
    endsOperand k = false := by
  revert h
  fun_cases continuesKey k
  all_goals first | exact fun _ ↦ rfl | exact fun h ↦ by cases h

theorem accepts_afterKey_iff {key : String} :
    Accepts ⟨κ, l, o, .afterKey key⟩ ks q ↔
      ∃ (c : Clause) (rest : List TokenKind), ks = c.tokens ++ rest ∧
        Accepts (after κ l o (c.condition key)) rest q := by
  constructor
  · intro h
    by_cases hc : continuesKey (ks.headD .eof) = true
    · obtain _ | ⟨k, r⟩ := ks
      · cases hc
      have hs : (⟨κ, l, o, .afterKey key⟩ : ParserState).settled k = ⟨κ, l, o, .afterKey key⟩ :=
        if_pos hc
      obtain ⟨t, ht, ha⟩ := h
      simp only [step, hs, take, takeAfterKey] at ht
      have hmember : ∀ negated : Bool, Accepts ⟨κ, l, o, .value (.member key negated [])⟩ r q →
          ∃ (c : Clause) (rest : List TokenKind), equalityToken negated :: r = c.tokens ++ rest ∧
            Accepts (after κ l o (c.condition key)) rest q := by
        intro negated hm
        obtain ⟨first, more, rest, rfl, hr⟩ := members_of_accepts hm
        refine ⟨.among negated first more, rest, rfl, ?_⟩
        rw [condition_among]
        exact hr
      have hpattern : ∀ negated : Bool, Accepts ⟨κ, l, o, .value (.valuePattern key negated)⟩ r q →
          ∃ (c : Clause) (rest : List TokenKind), matchToken negated :: r = c.tokens ++ rest ∧
            Accepts (after κ l o (c.condition key)) rest q := by
        intro negated hm
        obtain ⟨p, rest, rfl, hr⟩ := (accepts_pattern_iff fun _ _ _ ↦ rfl).1 hm
        exact ⟨.matching negated p, rest, rfl, hr⟩
      have hnumber : ∀ sign : OrderSign, Accepts ⟨κ, l, o, .number key sign.comparison false⟩ r q →
          ∃ (c : Clause) (rest : List TokenKind), sign.token :: r = c.tokens ++ rest ∧
            Accepts (after κ l o (c.condition key)) rest q := by
        intro sign hm
        obtain ⟨negative, n, rest, rfl, hr⟩ := accepts_number_iff.1 hm
        exact ⟨.numeric sign negative n, rest, by simp [Clause.tokens], hr⟩
      have hdated : ∀ d : Direction, Accepts ⟨κ, l, o, .anchor (.tag (.ofKey key)) d⟩ r q →
          ∃ (c : Clause) (rest : List TokenKind), .keyword d.keyword :: r = c.tokens ++ rest ∧
            Accepts (after κ l o (c.condition key)) rest q := by
        intro d hm
        obtain ⟨a, rest, rfl, hr⟩ := accepts_anchor_iff.1 hm
        exact ⟨.dated d a, rest, rfl, hr⟩
      split at ht <;> cases ht
      · exact hmember false ha
      · exact hmember true ha
      · exact hpattern false ha
      · exact hpattern true ha
      · exact hnumber .lt ha
      · exact hnumber .le ha
      · exact hnumber .gt ha
      · exact hnumber .ge ha
      · exact hdated .older ha
      · exact hdated .newer ha
    · refine ⟨.present, ks, rfl, (accepts_settled_iff rfl ?_).1 h⟩
      exact if_neg hc
  · rintro ⟨c, rest, rfl, ha⟩
    cases c with
    | present =>
      refine accepts_of_settled rfl (fun k hk ↦ if_neg ?_) ha
      intro hc
      rw [endsOperand_of_continuesKey hc] at hk
      cases hk
    | among negated first more =>
      rw [condition_among] at ha
      refine (accepts_cons_iff (t := ⟨κ, l, o, .value (.member key negated [])⟩) ?_).2
        (accepts_members_of more first [] ha)
      cases negated <;> rfl
    | matching negated p =>
      refine (accepts_cons_iff (t := ⟨κ, l, o, .value (.valuePattern key negated)⟩) ?_).2
        ((accepts_pattern_iff fun _ _ _ ↦ rfl).2 ⟨p, rest, rfl, ha⟩)
      cases negated <;> rfl
    | numeric sign negative n =>
      refine (accepts_cons_iff (t := ⟨κ, l, o, .number key sign.comparison false⟩) ?_).2
        (accepts_number_iff.2 ⟨negative, n, rest, by simp, ha⟩)
      cases sign <;> rfl
    | dated d a =>
      refine (accepts_cons_iff (t := ⟨κ, l, o, .anchor (.tag (.ofKey key)) d⟩) ?_).2
        (accepts_anchor_iff.2 ⟨a, rest, rfl, ha⟩)
      cases d <;> rfl

theorem accepts_afterBang_iff :
    Accepts ⟨κ, l, o, .afterBang⟩ ks q ↔
      (∃ (key : Key) (rest : List TokenKind), ks = key.token :: rest ∧
        Accepts (after κ l o (.hasKey key.text true)) rest q) ∨
      (ks.head?.any startsNegatable = true ∧ Accepts ⟨κ, l.addNegation, o, .operand⟩ ks q) := by
  constructor
  · intro h
    obtain _ | ⟨k, r⟩ := ks
    · cases h
    obtain ⟨t, ht, ha⟩ := h
    simp only [step, settled, take, takeAfterBang] at ht
    split at ht <;> cases ht
    · exact .inl ⟨.ident _, r, rfl, ha⟩
    · exact .inl ⟨.str _, r, rfl, ha⟩
    · exact .inr ⟨rfl, _, rfl, ha⟩
    · exact .inr ⟨rfl, _, rfl, ha⟩
    · exact .inr ⟨rfl, _, rfl, ha⟩
  · rintro (⟨key, rest, rfl, ha⟩ | ⟨hk, ha⟩)
    · cases key <;> exact ⟨_, rfl, ha⟩
    · obtain _ | ⟨k, r⟩ := ks
      · cases hk
      obtain ⟨t, ht, ha⟩ := ha
      refine ⟨t, ?_, ha⟩
      revert hk ht
      simp only [List.head?_cons, Option.any_some]
      fun_cases startsNegatable k
      · exact fun _ ht ↦ ht
      · exact fun _ ht ↦ ht
      · exact fun _ ht ↦ ht
      · exact fun hk ↦ by cases hk

theorem accepts_operand_iff :
    Accepts ⟨κ, l, o, .operand⟩ ks q ↔
      (∃ r, ks = .keyword .not :: r ∧ Accepts ⟨κ, l.addNegation, o, .operand⟩ r q) ∨
      (∃ r, ks = .bang :: r ∧ r.head?.any startsNegatable = true ∧
        Accepts ⟨κ, l.addNegation, o, .operand⟩ r q) ∨
      (∃ r, ks = .leftParen :: r ∧ Accepts ⟨κ, {}, l :: o, .operand⟩ r q) ∨
      ∃ (a : Atom) (rest : List TokenKind), ks = a.tokens ++ rest ∧
        Accepts (after κ l o a.condition) rest q := by
  constructor
  · intro h
    obtain _ | ⟨k, r⟩ := ks
    · cases h
    obtain ⟨t, ht, ha⟩ := h
    simp only [step, settled, take, takeOperand] at ht
    split at ht <;> cases ht
    · exact .inl ⟨r, rfl, ha⟩
    · obtain ⟨key, rest, rfl, hr⟩ | ⟨hk, hr⟩ := accepts_afterBang_iff.1 ha
      · exact .inr (.inr (.inr ⟨.absent key, rest, rfl, hr⟩))
      · exact .inr (.inl ⟨r, rfl, hk, hr⟩)
    · exact .inr (.inr (.inl ⟨r, rfl, ha⟩))
    · obtain ⟨p, rest, rfl, hr⟩ := (accepts_pattern_iff fun _ _ _ ↦ rfl).1 ha
      exact .inr (.inr (.inr ⟨.keyMatching false p, rest, rfl, hr⟩))
    · obtain ⟨p, rest, rfl, hr⟩ := (accepts_pattern_iff fun _ _ _ ↦ rfl).1 ha
      exact .inr (.inr (.inr ⟨.keyMatching true p, rest, rfl, hr⟩))
    · obtain ⟨a, rest, rfl, hr⟩ := accepts_anchor_iff.1 ha
      exact .inr (.inr (.inr ⟨.edited .older a, rest, rfl, hr⟩))
    · obtain ⟨a, rest, rfl, hr⟩ := accepts_anchor_iff.1 ha
      exact .inr (.inr (.inr ⟨.edited .newer a, rest, rfl, hr⟩))
    · obtain ⟨c, rest, rfl, hr⟩ := accepts_afterKey_iff.1 ha
      exact .inr (.inr (.inr ⟨.tagged (.ident _) c, rest, rfl, hr⟩))
    · obtain ⟨c, rest, rfl, hr⟩ := accepts_afterKey_iff.1 ha
      exact .inr (.inr (.inr ⟨.tagged (.str _) c, rest, rfl, hr⟩))
  · rintro (⟨r, rfl, ha⟩ | ⟨r, rfl, hk, ha⟩ | ⟨r, rfl, ha⟩ | ⟨a, rest, rfl, ha⟩)
    · exact ⟨_, rfl, ha⟩
    · exact ⟨_, rfl, accepts_afterBang_iff.2 (.inr ⟨hk, ha⟩)⟩
    · exact ⟨_, rfl, ha⟩
    · cases a with
      | absent key =>
        exact ⟨_, rfl, accepts_afterBang_iff.2 (.inl ⟨key, rest, rfl, ha⟩)⟩
      | keyMatching negated p =>
        refine (accepts_cons_iff (t := ⟨κ, l, o, .value (.keyPattern negated)⟩) ?_).2
          ((accepts_pattern_iff fun _ _ _ ↦ rfl).2 ⟨p, rest, rfl, ha⟩)
        cases negated <;> rfl
      | edited d a =>
        refine (accepts_cons_iff (t := ⟨κ, l, o, .anchor .element d⟩) ?_).2
          (accepts_anchor_iff.2 ⟨a, rest, rfl, ha⟩)
        cases d <;> rfl
      | tagged key c =>
        refine (accepts_cons_iff (t := ⟨κ, l, o, .afterKey key.text⟩) ?_).2
          (accepts_afterKey_iff.2 ⟨c, rest, rfl, ha⟩)
        cases key <;> rfl

end SurveyQuests.ParserState
