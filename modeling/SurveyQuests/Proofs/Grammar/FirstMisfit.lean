import Mathlib.Data.List.Nodup
import SurveyQuests.Proofs.Filter.Layout
import SurveyQuests.Proofs.Grammar.Parsing

/-!
# Where the parser finds fault

The parser stops at the first token that does not fit: what stands before it could have been gone on
with, and with it there is no way to go on.

Both halves are about the state that the tokens before lead to (`ParserState.Leads`).  Every state
has a way out, whatever has led to it: the condition that is being read can be brought to an end,
and then the open parentheses are closed (`ParserState.exists_accepts`).  And a state that rejects a
token rejects it whatever comes next, since the parser does not look ahead.

The one exception is a minus sign that should start a value.  The parser takes it, and blames it,
not the token behind it, if no number follows.  So the state before it and the token that a value
was expected by have to be found again.  Both this and where all other errors stand is told by one
look at every step (`ParserState.fair_step`).

## What is here

* `ParserState.exists_accepts` — every state has a way out;
* `ParserState.Leads`, `ParserState.Rejects`, `ParserState.exists_rejects` — the token at which the
  parser stops;
* `ParserState.Fair`, `ParserState.fair_step` — what a step leads to, and what it blames;
* `ParserState.Rejects.position_cases` — where the parser says that it has stopped;
* `CanGoOn`, `IsDeadEnd`, `IsLoneMinus`, `IsFirstMisfit`;
* `parse_error_isFirstMisfit` — **parse errors stand at the first token that does not fit**.
-/

set_option autoImplicit false

namespace SurveyQuests.ParserState

open Grammar

/-! ## Every state has a way out -/

/-- Open parentheses can be closed behind an operand. -/
theorem exists_accepts_afterOperand (κ : KindSet) (l : Level) (o : List Level) :
    ∃ ks q, Accepts ⟨κ, l, o, .afterOperand⟩ ks q := by
  induction o generalizing l with
  | nil => exact ⟨[], _, rfl⟩
  | cons around o ih =>
    obtain ⟨ks, q, h⟩ := ih (around.addOperand l.filter)
    exact ⟨.rightParen :: ks, q, accepts_rightParen_iff.2 h⟩

/-- A value that is a pattern too can be used in all ways. -/
theorem exists_accepts_useValue (s : ParserState) (use : ValueUse) (value : String) (start : Nat)
    (h : (Pattern.compile? value).isSome) :
    ∃ t, s.useValue use value start = .ok t ∧ ∃ ks q, Accepts t ks q := by
  obtain ⟨p, hp⟩ := Option.isSome_iff_exists.1 h
  have after (c : Condition) : ∃ ks q, Accepts (s.addCondition c) ks q :=
    exists_accepts_afterOperand s.kinds (s.level.addOperand (.condition c)) s.outer
  cases use with
  | keyPattern negated => exact ⟨_, by simp only [useValue, hp], after (.keyMatches p negated)⟩
  | valuePattern key negated =>
    exact ⟨_, by simp only [useValue, hp], after (.valueMatches key p negated)⟩
  | member key negated before =>
    obtain ⟨ks, q, h⟩ := after (membership key negated value before)
    exact ⟨_, rfl, ks, q, accepts_afterValue_iff.2 (.inl h)⟩

/-- The number zero. -/
def zeroNumeral : Numeral := ⟨"0", .zero, by decide +kernel⟩

/-- **From every state there is a way to the end of a query.** -/
theorem exists_accepts (s : ParserState) : ∃ ks q, Accepts s ks q := by
  obtain ⟨κ, l, o, p⟩ := s
  have after (c : Condition) := exists_accepts_afterOperand κ (l.addOperand (.condition c)) o
  cases p with
  | kind => exact ⟨[.ident "nodes"], _, _, rfl, rfl⟩
  | afterKind => exact ⟨[], _, rfl⟩
  | afterOperand => exact exists_accepts_afterOperand κ l o
  | operand =>
    obtain ⟨ks, q, h⟩ := after (.hasKey "x" false)
    exact ⟨.ident "x" :: ks, q,
      accepts_operand_iff.2 (.inr (.inr (.inr ⟨.tagged (.ident "x") .present, ks, rfl, h⟩)))⟩
  | afterBang =>
    obtain ⟨ks, q, h⟩ := after (.hasKey "x" true)
    exact ⟨.ident "x" :: ks, q, accepts_afterBang_iff.2 (.inl ⟨.ident "x", ks, rfl, h⟩)⟩
  | afterKey key =>
    obtain ⟨ks, q, h⟩ := after (.hasKey key false)
    exact ⟨ks, q, accepts_afterKey_iff.2 ⟨.present, ks, rfl, h⟩⟩
  | value use =>
    obtain ⟨t, ht, ks, q, h⟩ :=
      exists_accepts_useValue ⟨κ, l, o, .value use⟩ use "x" 0 (by decide +kernel)
    exact ⟨.ident "x" :: ks, q, t, ht, h⟩
  | valueAfterMinus use minus =>
    obtain ⟨t, ht, ks, q, h⟩ :=
      exists_accepts_useValue ⟨κ, l, o, .valueAfterMinus use minus⟩ use "-0" minus
        (by decide +kernel)
    exact ⟨.number "0" :: ks, q, t, ht, h⟩
  | afterValue key negated newest before =>
    obtain ⟨ks, q, h⟩ := after (membership key negated newest before)
    exact ⟨ks, q, accepts_afterValue_iff.2 (.inl h)⟩
  | number key op negative =>
    obtain ⟨ks, q, h⟩ := after (.numeric key op (zeroNumeral.signed negative))
    exact ⟨.number "0" :: ks, q, accepts_signed_iff.2 (.inr ⟨zeroNumeral, ks, rfl, h⟩)⟩
  | anchor target direction =>
    obtain ⟨ks, q, h⟩ := after (.date target direction today)
    exact ⟨.keyword .today :: ks, q, accepts_anchor_iff.2 ⟨.today .today, ks, rfl, h⟩⟩
  | afterToday target direction =>
    obtain ⟨ks, q, h⟩ := after (.date target direction today)
    exact ⟨ks, q, accepts_afterToday_iff.2 (.inl h)⟩
  | magnitude target direction =>
    obtain ⟨ks, q, h⟩ := after (.date target direction (.relative zeroNumeral.number .days))
    refine ⟨.number zeroNumeral.digits :: .keyword .days :: ks, q, ?_⟩
    refine ⟨⟨κ, l, o, .unit target direction zeroNumeral.number⟩, ?_, _, rfl, h⟩
    simp only [step, settled, take, takeMagnitude, zeroNumeral.reads, enter]
  | unit target direction magnitude =>
    obtain ⟨ks, q, h⟩ := after (.date target direction (.relative magnitude .days))
    exact ⟨.keyword .days :: ks, q, _, rfl, h⟩

theorem Accepts.ne_eof {s : ParserState} {ks : List TokenKind} {q : Query} (h : Accepts s ks q) :
    ∀ k ∈ ks, k ≠ .eof := by
  induction ks generalizing s with
  | nil => simp
  | cons k ks ih =>
    obtain ⟨t, hstep, hmore⟩ := h
    refine List.forall_mem_cons.2 ⟨?_, ih hmore⟩
    rintro rfl
    exact step_eof_ne_ok s t 0 hstep

/-! ## The token at which the parser stops -/

/-- Tokens lead from one state to another. -/
inductive Leads (s : ParserState) : List Token → ParserState → Prop where
  | refl : Leads s [] s
  | snoc {ts : List Token} {t u : ParserState} {x : Token} (front : Leads s ts t)
    (inner : x.kind ≠ .eof) (last : t.step x = .ok u) : Leads s (ts ++ [x]) u

/-- The parser goes on from the state that the tokens before lead to. -/
theorem Leads.run_append {s t : ParserState} {ts : List Token} (h : Leads s ts t) (last : Nat) :
    ∃ last', ∀ more, s.run last (ts ++ more) = t.run last' more := by
  induction h with
  | refl => exact ⟨last, fun _ ↦ rfl⟩
  | @snoc ts t u x _ hx hstep ih =>
    obtain ⟨last', hrun⟩ := ih
    refine ⟨x.pos, fun more ↦ ?_⟩
    rw [List.append_assoc, hrun, List.singleton_append, run, if_neg hx, hstep]

theorem Leads.ne_eof {s t : ParserState} {ts : List Token} (h : Leads s ts t) :
    ∀ x ∈ ts, x.kind ≠ .eof := by
  induction h with
  | refl => simp
  | snoc _ hx _ ih => simpa [or_imp, forall_and] using ⟨ih, hx⟩

/-- The state cannot take the token, or cannot take it as the end of the text. -/
def Rejects (s : ParserState) (x : Token) (e : ParseError) : Prop :=
  (x.kind = .eof ∧ s.finish x = .error e) ∨ (x.kind ≠ .eof ∧ s.step x = .error e)

/-- The parser does not look ahead. -/
theorem Rejects.run_eq {s : ParserState} {x : Token} {e : ParseError} (h : s.Rejects x e)
    (last : Nat) (back : List Token) : s.run last (x :: back) = .error e := by
  rw [run]
  obtain ⟨hx, hfinish⟩ | ⟨hx, hstep⟩ := h
  · rw [if_pos hx, hfinish]
  · rw [if_neg hx, hstep]

/-- **The parser stops at a token** that the state before it rejects. -/
theorem exists_rejects {s t : ParserState} {front rest : List Token} {last : Nat} {e : ParseError}
    (hfront : Leads s front t) (hend : ∃ x ∈ rest, x.kind = .eof)
    (h : t.run last rest = .error e) :
    ∃ front' x back u, front ++ rest = front' ++ x :: back ∧ Leads s front' u ∧ u.Rejects x e := by
  induction rest generalizing front t last with
  | nil => simp at hend
  | cons x rest ih =>
    rw [run] at h
    split at h
    · rename_i hx
      exact ⟨front, x, rest, t, rfl, hfront, .inl ⟨hx, h⟩⟩
    · rename_i hx
      split at h
      · rename_i u hu
        have hmore : ∃ y ∈ rest, y.kind = .eof := by simpa [hx] using hend
        obtain ⟨front', y, back, v, heq, hlead, hrejects⟩ := ih (hfront.snoc hx hu) hmore h
        exact ⟨front', y, back, v, by simpa using heq, hlead, hrejects⟩
      · rename_i e' he
        cases h
        exact ⟨front, x, rest, t, rfl, hfront, .inr ⟨hx, he⟩⟩

/-! ## What a step does -/

/-- May a value come behind a token of this kind? -/
def opensValue : TokenKind → Bool
  | .eq | .ne | .tilde | .bangTilde | .comma => true
  | _ => false

/-- A token by which a value is expected opens one, and a minus sign waits for its number only where
a value was expected. -/
def Opens (s : ParserState) (x : Token) (p : Phase) : Prop :=
  (∀ use, p = .value use → opensValue x.kind = true) ∧
    ∀ use minus, p = .valueAfterMinus use minus →
      s.phase = .value use ∧ x.kind = .minus ∧ x.pos = minus

/-- Does the phase have a value, or the rest of one, come next? -/
def awaitsValue : Phase → Bool
  | .value _ | .valueAfterMinus _ _ => true
  | _ => false

theorem opens_of_awaitsValue {s : ParserState} {x : Token} {p : Phase} (h : awaitsValue p = false) :
    Opens s x p := by
  constructor
  · rintro use rfl
    cases h
  · rintro use minus rfl
    cases h

/-- The next phase is one that the token opens, or the token is blamed, unless it should have been
the number of a value. -/
def Fair (s : ParserState) (x : Token) : Except ParseError ParserState → Prop
  | .ok t => Opens s x t.phase
  | .error e => (∀ use minus, s.phase ≠ .valueAfterMinus use minus) → e.position = x.pos

theorem fair_useValue (s : ParserState) (x : Token) (use : ValueUse) (value : String)
    (s' : ParserState) : Fair s x (s'.useValue use value x.pos) := by
  cases use with
  | member key negated before => exact opens_of_awaitsValue rfl
  | _ =>
    simp only [useValue]
    split
    · exact opens_of_awaitsValue rfl
    · exact fun _ ↦ rfl

theorem fair_takeAfterOperand (s : ParserState) (x : Token) (κ : KindSet) (l : Level)
    (o : List Level) :
    Fair s x ((⟨κ, l, o, .afterOperand⟩ : ParserState).takeAfterOperand x) := by
  simp only [takeAfterOperand]
  split
  · exact opens_of_awaitsValue rfl
  · exact opens_of_awaitsValue rfl
  · split
    · exact opens_of_awaitsValue rfl
    · exact fun _ ↦ rfl
  · exact fun _ ↦ rfl

/-- **Every step is fair.** -/
theorem fair_step (s : ParserState) (x : Token) : Fair s x (s.step x) := by
  obtain ⟨κ, l, o, p⟩ := s
  cases p with
  | kind =>
    simp only [step, settled, take, takeKind]
    split
    · split
      · exact opens_of_awaitsValue rfl
      · exact fun _ ↦ rfl
    · exact fun _ ↦ rfl
  | afterKind =>
    simp only [step, settled, take, takeAfterKind]
    split
    · exact opens_of_awaitsValue rfl
    · split
      · exact opens_of_awaitsValue rfl
      · exact fun _ ↦ rfl
    · exact fun _ ↦ rfl
  | operand =>
    simp only [step, settled, take, takeOperand]
    split
    case h_4 hx | h_5 hx => exact ⟨fun _ _ ↦ by rw [hx]; rfl, by rintro _ _ ⟨⟩⟩
    case h_10 => exact fun _ ↦ rfl
    all_goals exact opens_of_awaitsValue rfl
  | afterBang =>
    simp only [step, settled, take, takeAfterBang]
    split
    case h_6 => exact fun _ ↦ rfl
    all_goals exact opens_of_awaitsValue rfl
  | afterKey key =>
    simp only [step, settled]
    split
    · simp only [take, takeAfterKey]
      split
      case h_1 hx | h_2 hx | h_3 hx | h_4 hx =>
        exact ⟨fun _ _ ↦ by rw [hx]; rfl, by rintro _ _ ⟨⟩⟩
      case h_11 => exact fun _ ↦ rfl
      all_goals exact opens_of_awaitsValue rfl
    · exact fair_takeAfterOperand ..
  | value use =>
    simp only [step, settled, take, takeValue]
    split
    case h_5 hx => exact ⟨by rintro _ ⟨⟩, by rintro _ _ ⟨⟩; exact ⟨rfl, hx, rfl⟩⟩
    case h_6 => exact fun _ ↦ rfl
    all_goals exact fair_useValue ..
  | valueAfterMinus use minus =>
    simp only [step, settled, take, takeValueAfterMinus]
    split
    · cases use with
      | member key negated before => exact opens_of_awaitsValue rfl
      | _ =>
        simp only [useValue]
        split
        · exact opens_of_awaitsValue rfl
        · exact fun hp ↦ absurd rfl (hp _ _)
    · exact fun hp ↦ absurd rfl (hp _ _)
  | afterValue key negated newest before =>
    simp only [step, settled]
    split
    · rename_i hx
      exact ⟨fun _ _ ↦ by rw [hx]; rfl, by rintro _ _ ⟨⟩⟩
    · exact fair_takeAfterOperand ..
  | number key op negative =>
    simp only [step, settled, take, takeNumber]
    split
    · exact opens_of_awaitsValue rfl
    · split
      · exact opens_of_awaitsValue rfl
      · exact fun _ ↦ rfl
  | anchor target direction =>
    simp only [step, settled, take, takeAnchor]
    split
    · exact opens_of_awaitsValue rfl
    · exact opens_of_awaitsValue rfl
    · split
      · exact opens_of_awaitsValue rfl
      · exact fun _ ↦ rfl
    · exact fun _ ↦ rfl
  | afterToday target direction =>
    simp only [step, settled]
    split
    · exact opens_of_awaitsValue rfl
    · exact fair_takeAfterOperand ..
  | magnitude target direction =>
    simp only [step, settled, take, takeMagnitude]
    split
    · exact opens_of_awaitsValue rfl
    · exact fun _ ↦ rfl
  | unit target direction magnitude =>
    simp only [step, settled, take, takeUnit]
    split
    · split
      · exact opens_of_awaitsValue rfl
      · exact fun _ ↦ rfl
    · exact fun _ ↦ rfl
  | afterOperand => exact fair_takeAfterOperand ..

theorem opens_of_step {s t : ParserState} {x : Token} (h : s.step x = .ok t) :
    Opens s x t.phase := by
  have hfair := fair_step s x
  rwa [h] at hfair

/-! ## Where the parser says that it has stopped -/

theorem useValue_eq_error {s : ParserState} {use : ValueUse} {value : String} {start : Nat}
    {e : ParseError} (h : s.useValue use value start = .error e) :
    e.position = start ∧ Pattern.compile? value = none := by
  cases use with
  | member key negated before => cases h
  | _ =>
    simp only [useValue] at h
    split at h
    · cases h
    · cases h
      exact ⟨rfl, ‹_›⟩

/-- The text ends where the state, with its condition complete, rejects the end. -/
theorem finish_eq_error {s : ParserState} {x : Token} {e : ParseError}
    (h : s.finish x = .error e) : (s.settled .eof).rejection x = e := by
  simp only [finish] at h
  split at h
  · cases h
  · cases h
  · exact Except.error.inj h

/-- The end of the text is blamed, unless there should have been the number of a value. -/
theorem position_of_finish {s : ParserState} {x : Token} {e : ParseError}
    (h : s.finish x = .error e) (hp : ∀ use minus, s.phase ≠ .valueAfterMinus use minus) :
    e.position = x.pos := by
  have he := finish_eq_error h
  subst he
  obtain ⟨κ, l, o, p⟩ := s
  cases p with
  | valueAfterMinus use minus => exact absurd rfl (hp use minus)
  | _ => rfl

/-- **A token that is rejected is blamed**, but for one behind a minus sign that should have been
the number of a value: then the minus sign is. -/
theorem Rejects.position_cases {s : ParserState} {x : Token} {e : ParseError}
    (h : s.Rejects x e) :
    e.position = x.pos ∨ ∃ use, s.phase = .valueAfterMinus use e.position ∧
      ∀ digits, x.kind = .number digits → Pattern.compile? ("-" ++ digits) = none := by
  by_cases hp : ∃ use minus, s.phase = .valueAfterMinus use minus
  · right
    obtain ⟨κ, l, o, p⟩ := s
    obtain ⟨use, minus, rfl⟩ := hp
    refine ⟨use, ?_⟩
    obtain ⟨hx, hfinish⟩ | ⟨-, hstep⟩ := h
    · have he := finish_eq_error hfinish
      subst he
      exact ⟨rfl, fun digits hdigits ↦ by rw [hx] at hdigits; cases hdigits⟩
    · simp only [step, settled, take, takeValueAfterMinus] at hstep
      split at hstep
      · rename_i hx
        obtain ⟨hposition, hpattern⟩ := useValue_eq_error hstep
        rw [hposition]
        refine ⟨rfl, fun digits hdigits ↦ ?_⟩
        rw [hx] at hdigits
        cases hdigits
        exact hpattern
      · rename_i hx
        cases hstep
        exact ⟨rfl, fun digits hdigits ↦ absurd hdigits (hx digits)⟩
  · left
    simp only [not_exists] at hp
    obtain ⟨-, hfinish⟩ | ⟨-, hstep⟩ := h
    · exact position_of_finish hfinish hp
    · have hfair := fair_step s x
      rw [hstep] at hfair
      exact hfair hp

end SurveyQuests.ParserState

namespace SurveyQuests

open ParserState

/-! ## The first token that does not fit -/

/-- Tokens that start a query. -/
def CanGoOn (front : List Token) : Prop :=
  ∃ more last q, (∀ x ∈ front ++ more, x.kind ≠ .eof) ∧ last.kind = .eof ∧
    parse (front ++ more ++ [last]) = .ok q

/-- Tokens that no query starts with. -/
def IsDeadEnd (front : List Token) : Prop := ∀ more q, parse (front ++ more) ≠ .ok q

/-- The state that tokens lead to has a way out, so they start a query. -/
theorem canGoOn_of_leads {front : List Token} {s : ParserState} (h : Leads {} front s) :
    CanGoOn front := by
  obtain ⟨ks, q, haccepts⟩ := s.unplaced.exists_accepts
  obtain ⟨last, hrun⟩ := h.run_append 0
  have hmore : ∀ x ∈ ks.map (⟨·, 0⟩ : TokenKind → Token), x.kind ≠ .eof := by
    simpa using haccepts.ne_eof
  refine ⟨ks.map (⟨·, 0⟩), ⟨.eof, 0⟩, q, List.forall_mem_append.2 ⟨h.ne_eof, hmore⟩, rfl, ?_⟩
  rw [parse, List.append_assoc, hrun, run_eq_ok_iff hmore rfl, List.map_map]
  simpa [Function.comp_def] using haccepts

/-- With a token that the state rejects no query starts. -/
theorem isDeadEnd_of_rejects {front : List Token} {s : ParserState} {x : Token} {e : ParseError}
    (h : Leads {} front s) (hx : s.Rejects x e) : IsDeadEnd (front ++ [x]) := by
  intro more q
  obtain ⟨last, hrun⟩ := h.run_append 0
  rw [parse, List.append_assoc, hrun, List.singleton_append, hx.run_eq]
  simp

/-- A minus sign where a value comes next, with no number behind it that makes a value of it. -/
structure IsLoneMinus (front : List Token) (t : Token) (back : List Token) : Prop where
  minus : t.kind = .minus
  /-- The token before it opens a value, -/
  opener : ∃ before x, front = before ++ [x] ∧ opensValue x.kind = true
  /-- and a minus sign can start one there. -/
  fits : CanGoOn (front ++ [t])
  /-- But the next token, if it is a number at all, makes no pattern with the minus sign. -/
  next : ∃ x more, back = x :: more ∧ IsDeadEnd (front ++ [t, x]) ∧
    ∀ digits, x.kind = .number digits → Pattern.compile? ("-" ++ digits) = none

/-- The token is the first one that does not fit, and the error stands there. -/
structure IsFirstMisfit (ts : List Token) (e : ParseError) (front : List Token) (t : Token)
    (back : List Token) : Prop where
  tokens_eq : ts = front ++ t :: back
  position_eq : t.pos = e.position
  /-- No other token starts there. -/
  only : ∀ x ∈ ts, x.pos = e.position → x = t
  /-- The error does not come too late: -/
  not_late : CanGoOn front
  /-- and not too early. -/
  not_early : IsDeadEnd (front ++ [t]) ∨ IsLoneMinus front t back

/-- The state with a minus sign that waits for its number has been entered by this minus sign, and
the state before by a token that opens a value. -/
theorem isLoneMinus_of_leads {front : List Token} (back : List Token) {s : ParserState}
    {x : Token} {e : ParseError} {use : ValueUse} {minus : Nat} (hlead : Leads {} front s)
    (hphase : s.phase = .valueAfterMinus use minus) (hx : s.Rejects x e)
    (hdigits : ∀ digits, x.kind = .number digits → Pattern.compile? ("-" ++ digits) = none) :
    ∃ front' t, front = front' ++ [t] ∧ t.pos = minus ∧ CanGoOn front' ∧
      IsLoneMinus front' t (x :: back) := by
  cases hlead with
  | refl => cases hphase
  | @snoc front' r _ t hlead' ht hstep =>
    obtain ⟨hr, hkind, hpos⟩ := (opens_of_step hstep).2 use minus hphase
    refine ⟨front', t, rfl, hpos, canGoOn_of_leads hlead', hkind, ?_,
      canGoOn_of_leads (hlead'.snoc ht hstep), x, back, rfl, ?_, hdigits⟩
    · cases hlead' with
      | refl => cases hr
      | @snoc before _ _ y _ _ hstep' =>
        exact ⟨before, y, rfl, (opens_of_step hstep').1 use hr⟩
    · have h := isDeadEnd_of_rejects (hlead'.snoc ht hstep) hx
      rwa [List.append_assoc] at h

/-- The tokens of a source have ascending places, and the last one is the end. -/
theorem tokenize_ascending {source : String} {ts : List Token} (h : tokenize source = .ok ts) :
    ts.Pairwise (·.pos < ·.pos) ∧ ∃ x ∈ ts, x.kind = .eof := by
  obtain ⟨trail, pieces, -, hlaid, rfl⟩ := exists_laid_of_tokenizeFrom h
  obtain ⟨us, last, heq, -, hlast, -⟩ := tokenizeFrom_eq_ok h
  exact ⟨pairwise_placedFrom fun p hp ↦ Lexeme.text_ne_nil (hlaid.read?_text hp),
    last, by simp [heq], hlast⟩

theorem eq_of_pos_eq {ts : List Token} (h : ts.Pairwise (·.pos < ·.pos)) {x y : Token}
    (hx : x ∈ ts) (hy : y ∈ ts) (heq : x.pos = y.pos) : x = y := by
  have hnodup : (ts.map Token.pos).Nodup :=
    List.pairwise_map.2 (h.imp fun hlt ↦ Nat.ne_of_lt hlt)
  exact List.inj_on_of_nodup_map hnodup hx hy heq

/-- **Parse errors stand at the first token that does not fit.**  What stands before it starts a
query; with it no query starts, unless it is a minus sign in the place of a value with no number
behind it. -/
theorem parse_error_isFirstMisfit {source : String} {ts : List Token} {e : ParseError}
    (hts : tokenize source = .ok ts) (he : parse ts = .error e) :
    ∃ front t back, IsFirstMisfit ts e front t back := by
  obtain ⟨hpos, hend⟩ := tokenize_ascending hts
  obtain ⟨front, x, back, s, heq, hlead, hx⟩ := exists_rejects .refl hend he
  rw [List.nil_append] at heq
  obtain hposition | ⟨use, hphase, hdigits⟩ := hx.position_cases
  · exact ⟨front, x, back, heq, hposition.symm,
      fun y hy h ↦ eq_of_pos_eq hpos hy (by simp [heq]) (h.trans hposition),
      canGoOn_of_leads hlead, .inl (isDeadEnd_of_rejects hlead hx)⟩
  · obtain ⟨front, t, rfl, ht, hfront, hminus⟩ :=
      isLoneMinus_of_leads back hlead hphase hx hdigits
    exact ⟨front, t, x :: back, by simpa using heq, ht,
      fun y hy h ↦ eq_of_pos_eq hpos hy (by simp [heq]) (h.trans ht.symm), hfront, .inr hminus⟩

/-- A day that the calendar does not have, inside a parenthesis that is not closed either. -/
theorem parse_error_isFirstMisfit_noSuchDay :
    let source := "nodes with (shop older 2023-02-30"
    let ts : List Token := [⟨.ident "nodes", 0⟩, ⟨.ident "with", 6⟩, ⟨.leftParen, 11⟩,
      ⟨.ident "shop", 12⟩, ⟨.keyword .older, 17⟩, ⟨.date "2023-02-30", 23⟩, ⟨.eof, 33⟩]
    let e : ParseError := ⟨23, .calendarDate, .token (.date "2023-02-30")⟩
    tokenize source = .ok ts ∧ parse ts = .error e ∧
      ∃ front t back, IsFirstMisfit ts e front t back := by
  intro source ts e
  have hts : tokenize source = .ok ts := by decide +kernel
  have he : parse ts = .error e := rfl
  exact ⟨hts, he, parse_error_isFirstMisfit hts he⟩

end SurveyQuests
