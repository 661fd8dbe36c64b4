import SurveyQuests.Proofs.Grammar.Onward

/-!
# Following the parser by recursive descent

A reading by recursive descent comes to an end, stays in front of the first mark of the end, and
gives what the parser gives.  All three are one statement about a part of a reading, `Reads`, which
is put together from statements about smaller parts.  It names what the parser gives in the end, and
carries it along: as long as the reading goes on, that is what the parser gives from some later
place, and where the reading reports an error, it is that error.

The calls in progress are kept apart from this.  A rule is called only where every call in progress
has started at an earlier place, or at the same place for a rule that comes before it
(`MayCall`).  So no rule is called again at the same place.

## What is here

* `Nested`, `MayCall` — the calls in progress;
* `Tidy` — what a reading keeps to in all its states;
* `Reads`, with one rule for every way to go on;
* `reads_tagCondition`, and the lemmas before it — the parts of conditions, and conditions.
-/

set_option autoImplicit false

namespace SurveyQuests.Descent

open ParserState

/-! ## Calls in progress -/

/-- The order of the rules: without going on, a rule calls only those that come behind it. -/
def Rule.rank : Rule → Nat
  | .kind => 0
  | .disjunction => 1
  | .alternative => 2
  | .conjunction => 3
  | .conjunct => 4
  | .operand => 5
  | .primary => 6
  | .tagCondition => 7
  | .value => 8

theorem Rule.rank_le (rule : Rule) : rule.rank ≤ 8 := by
  cases rule <;> decide

/-- Between two calls in progress for the same rule the reader has gone on. -/
def Nested (calls : List Call) : Prop :=
  calls.Pairwise fun inner outer ↦ inner.rule = outer.rule → outer.start < inner.start

/-- A rule may be called at a place within the calls in progress, and `depth` further calls are
enough. -/
structure MayCall (ts : EndedTokens) (rule : Rule) (p : Nat) (active : List Call) (depth : Nat) :
    Prop where
  nested : Nested active
  before : ∀ c ∈ active, c.start < p ∨ c.start = p ∧ c.rule.rank < rule.rank
  enough : 9 * (ts.stop + 1 - p) ≤ depth + rule.rank

variable {ts : EndedTokens} {p depth : Nat} {active : List Call}

namespace MayCall

variable {rule : Rule}

theorem nested_cons (h : MayCall ts rule p active depth) : Nested (⟨rule, p⟩ :: active) := by
  refine List.Pairwise.cons (fun c hc hrule ↦ ?_) h.nested
  obtain hlt | ⟨-, hrank⟩ := h.before c hc
  · exact hlt
  · rw [← show rule = c.rule from hrule] at hrank
    exact absurd hrank (Nat.lt_irrefl _)

theorem inside (h : MayCall ts rule p active (depth + 1)) {inner : Rule} {q : Nat}
    (hq : p < q ∨ p = q ∧ rule.rank < inner.rank) :
    MayCall ts inner q (⟨rule, p⟩ :: active) depth where
  nested := h.nested_cons
  before := by
    rintro c (_ | ⟨_, hc⟩)
    · exact hq
    · obtain hlt | ⟨heq, hrank⟩ := h.before c hc <;> omega
  enough := by
    have henough := h.enough
    have hrank := rule.rank_le
    omega

/-- Behind its place a call may make further ones for all rules. -/
theorem later (h : MayCall ts rule p active (depth + 1)) (inner : Rule) {q : Nat} (hq : p < q) :
    MayCall ts inner q (⟨rule, p⟩ :: active) depth := h.inside (.inl hq)

/-- At its place it may make those for the rules that come behind its own. -/
theorem from_place (h : MayCall ts rule p active (depth + 1)) (inner : Rule)
    (hrank : rule.rank < inner.rank) {q : Nat} (hq : p ≤ q) :
    MayCall ts inner q (⟨rule, p⟩ :: active) depth :=
  h.inside ((Nat.lt_or_eq_of_le hq).imp_right (⟨·, hrank⟩))

end MayCall

/-! ## Parts of a reading -/

/-- The states of a reading that has not gone beyond the first mark of the end, and has called no
rule again without going on. -/
structure Tidy (ts : EndedTokens) (s : State) : Prop where
  place_le : s.place ≤ ts.stop
  earlier_le : ∀ q ∈ s.earlier, q ≤ ts.stop
  nested : ∀ calls ∈ s.record, Nested calls

/-- **A part of a reading comes to an end**, at the place that it starts from or behind it.  What
the parser gives in the end is `outcome`: an error is this one, and else `P` says how it comes
about from what has been read and the place where the reader is then. -/
def Reads (ts : EndedTokens) (outcome : Except ParseError Query) {α : Type} (x : Action α) (p : Nat)
    (P : α → Nat → Prop) : Prop :=
  ∀ s : State, s.place = p → Tidy ts s → ∃ r s', x.run.run s = some (r, s') ∧ Tidy ts s' ∧
    p ≤ s'.place ∧
    match r with
    | .ok a => P a s'.place
    | .error e => outcome = .error e

theorem run_advance {s : State} (h : s.place ≤ ts.front.length) :
    (advance ts).run.run s =
      some (.ok (), { s with place := s.place + 1, earlier := s.place :: s.earlier }) := by
  have hrun : (advance ts).run.run s = some (.ok (),
      if s.place ≤ ts.front.length then
        { s with place := s.place + 1, earlier := s.place :: s.earlier }
      else s) := rfl
  rw [hrun, if_pos h]

variable {R : Except ParseError Query}

namespace Reads

variable {α β : Type} {x : Action α} {f : α → Action β} {P : α → Nat → Prop} {Q : β → Nat → Prop}

/-- Where a call may be made, the limit to how deep calls are nested has not been reached. -/
theorem of_zero {rule : Rule} (hcall : MayCall ts rule p active 0) : Reads ts R x p P := by
  rintro s rfl hs
  have hle := hs.place_le
  have henough := hcall.enough
  have hrank := rule.rank_le
  omega

theorem pure {a : α} (h : P a p) : Reads ts R (pure a) p P := by
  rintro s rfl hs
  exact ⟨.ok a, s, rfl, hs, Nat.le_refl _, h⟩

theorem throw {e : ParseError} (h : R = .error e) : Reads ts R (throw e : Action α) p P := by
  rintro s rfl hs
  exact ⟨.error e, s, rfl, hs, Nat.le_refl _, h⟩

theorem bind (hx : Reads ts R x p P)
    (hf : ∀ a q, p ≤ q → P a q → Reads ts R (f a) q Q) : Reads ts R (x >>= f) p Q := by
  intro s hp hs
  obtain ⟨r, s', hrun, hs', hle, hr⟩ := hx s hp hs
  cases r with
  | error e =>
    refine ⟨.error e, s', ?_, hs', hle, hr⟩
    simp [ExceptT.run_bind, hrun]
  | ok a =>
    obtain ⟨r, t, hrun', ht, hle', hr'⟩ := hf a s'.place hle hr s' rfl hs'
    refine ⟨r, t, ?_, ht, Nat.le_trans hle hle', hr'⟩
    simp [ExceptT.run_bind, hrun, hrun']

theorem mono {Q : α → Nat → Prop} (hx : Reads ts R x p P) (h : ∀ a q, P a q → Q a q) :
    Reads ts R x p Q := by
  intro s hp hs
  obtain ⟨r, s', hrun, hs', hle, hr⟩ := hx s hp hs
  refine ⟨r, s', hrun, hs', hle, ?_⟩
  cases r with
  | error e => exact hr
  | ok a => exact h a _ hr

theorem peek_ahead_bind {n : Nat} {f : Token → Action β}
    (h : Reads ts R (f (ts.tokenAt (p + n))) p Q) : Reads ts R (peek ts n >>= f) p Q := by
  rintro s rfl hs
  exact h s rfl hs

theorem peek_bind {f : Token → Action β} (h : Reads ts R (f (ts.tokenAt p)) p Q) :
    Reads ts R (peek ts >>= f) p Q := .peek_ahead_bind h

/-- The reader goes on only where it is not at a mark of the end. -/
theorem advance_bind {f : Unit → Action β} (hp : (ts.tokenAt p).kind ≠ .eof)
    (h : Reads ts R (f ()) (p + 1) Q) : Reads ts R (advance ts >>= f) p Q := by
  rintro s rfl hs
  have hlt : s.place < ts.stop := ts.lt_stop hs.place_le hp
  have hle : s.place ≤ ts.front.length := Nat.le_trans hs.place_le ts.stop_le
  have hadvanced : Tidy ts { s with place := s.place + 1, earlier := s.place :: s.earlier } :=
    ⟨hlt, List.forall_mem_cons.2 ⟨hs.place_le, hs.earlier_le⟩, hs.nested⟩
  obtain ⟨r, t, hrun, ht, hle', hr⟩ := h _ rfl hadvanced
  refine ⟨r, t, ?_, ht, Nat.le_trans (Nat.le_succ _) hle', hr⟩
  simpa [ExceptT.run_bind, run_advance hle] using hrun

theorem enter_bind {rule : Rule} {f : List Call → Action β}
    (hcall : MayCall ts rule p active depth)
    (h : Reads ts R (f (⟨rule, p⟩ :: active)) p Q) : Reads ts R (enter rule active >>= f) p Q := by
  rintro s rfl hs
  exact h _ rfl ⟨hs.place_le, hs.earlier_le, List.forall_mem_cons.2 ⟨hcall.nested_cons, hs.nested⟩⟩

theorem reject {expected : Expectation}
    (h : R = .error ⟨(ts.tokenAt p).pos, expected, .token (ts.tokenAt p).kind⟩) :
    Reads ts R (Descent.reject ts expected : Action α) p P :=
  .peek_bind (.throw h)

end Reads

/-! ## Parts of conditions -/

variable {κ : KindSet} {l : Level} {o : List Level}

theorem reads_value {use : ValueUse} (hR : R = onward ⟨κ, l, o, .value use⟩ ts p) :
    Reads ts R (value ts) p fun v q ↦
      R = useValue ⟨κ, l, o, .value use⟩ use v (ts.tokenAt p).pos >>= fun t ↦ t.onward ts q := by
  have htaken (hminus : (ts.tokenAt p).kind = .minus) :
      R = onward ⟨κ, l, o, .valueAfterMinus use (ts.tokenAt p).pos⟩ ts (p + 1) :=
    hR.trans (onward_of_step hminus rfl)
  refine .peek_bind (.peek_ahead_bind ?_)
  split
  case h_1 digits hminus hdigits =>
    refine .advance_bind (by simp [hminus]) (.advance_bind (by simp [hdigits]) (.pure ?_))
    rw [htaken hminus, onward_take rfl]
    simp only [take, takeValueAfterMinus, hdigits]
    cases use <;> rfl
  case h_2 | h_3 | h_4 | h_5 =>
    rename_i v hk
    refine .advance_bind (by simp [hk]) (.pure ?_)
    rw [hR, onward_take rfl]
    simp only [take, takeValue, hk]
  case h_6 _ _ _ _ hdigits =>
    refine .reject ?_
    by_cases hminus : (ts.tokenAt p).kind = .minus
    · -- The parser has taken the minus sign, and finds out only now that no number follows.
      rw [htaken hminus, hminus]
      refine onward_of_take_error rfl ?_
      simp only [take, takeValueAfterMinus]
      split
      case h_1 digits hk => exact (hdigits digits hminus hk).elim
      case h_2 => rfl
    · rw [hR, onward_take rfl]
      simp only [take, takeValue]
      rfl

theorem reads_pattern {use : ValueUse} {c : Pattern → Condition}
    (hu : ∀ (s : ParserState) (v : String) (start : Nat), s.useValue use v start =
      match Pattern.compile? v with
      | some x => .ok (s.addCondition (c x))
      | none => .error ⟨start, .validPattern, .pattern v⟩)
    (hR : R = onward ⟨κ, l, o, .value use⟩ ts p) :
    Reads ts R (pattern ts) p fun x q ↦ R = (after κ l o (c x)).onward ts q := by
  refine .peek_bind (.bind (reads_value hR) fun v q _ hv ↦ ?_)
  rw [hu] at hv
  split
  · rename_i x hx
    rw [hx] at hv
    exact .pure hv
  · rename_i hx
    rw [hx] at hv
    exact .throw hv

/-- A number is read where the parser takes one. -/
theorem reads_number_of {s : Binary64 → ParserState}
    (hR : R = match finiteNumber? (ts.tokenAt p).kind with
      | some x => (s x).onward ts (p + 1)
      | none => .error ⟨(ts.tokenAt p).pos, .number, .token (ts.tokenAt p).kind⟩) :
    Reads ts R (number ts) p fun x q ↦ R = (s x).onward ts q := by
  refine .peek_bind ?_
  split
  · rename_i x hx
    rw [hx] at hR
    refine .advance_bind (fun heof ↦ ?_) (.pure hR)
    rw [heof] at hx
    cases hx
  · rename_i hx
    rw [hx] at hR
    exact .reject hR

theorem reads_number {key : String} {op : Comparison} {negative : Bool}
    (hsign : (ts.tokenAt p).kind = .minus → negative = true)
    (hR : R = onward ⟨κ, l, o, .number key op negative⟩ ts p) :
    Reads ts R (number ts) p fun x q ↦
      R = (after κ l o (.numeric key op (if negative then x.neg else x))).onward ts q := by
  refine reads_number_of ?_
  rw [hR, onward_take rfl]
  simp only [take, takeNumber]
  rw [if_neg (by simpa using hsign)]
  cases finiteNumber? (ts.tokenAt p).kind <;> rfl

theorem reads_magnitude {target : DateTarget} {direction : Direction}
    (hR : R = onward ⟨κ, l, o, .magnitude target direction⟩ ts p) :
    Reads ts R (number ts) p fun x q ↦
      R = onward ⟨κ, l, o, .unit target direction x⟩ ts q := by
  refine reads_number_of ?_
  rw [hR, onward_take rfl]
  simp only [take, takeMagnitude]
  cases finiteNumber? (ts.tokenAt p).kind <;> rfl

theorem reads_unit {target : DateTarget} {direction : Direction} {magnitude : Binary64}
    (hR : R = onward ⟨κ, l, o, .unit target direction magnitude⟩ ts p) :
    Reads ts R (unit ts) p fun u q ↦
      R = (after κ l o (.date target direction (.relative magnitude u))).onward ts q := by
  refine .peek_bind ?_
  rw [onward_take rfl] at hR
  split
  · rename_i k hk
    simp only [take, takeUnit, hk] at hR
    split
    · rename_i u hu
      rw [hu] at hR
      exact .advance_bind (by simp [hk]) (.pure hR)
    · rename_i hu
      rw [hu] at hR
      exact .reject hR
  · rename_i hk
    simp only [take, takeUnit] at hR
    exact .reject hR

theorem reads_anchor {target : DateTarget} {direction : Direction}
    (hR : R = onward ⟨κ, l, o, .anchor target direction⟩ ts p) :
    Reads ts R (anchor ts) p fun a q ↦
      R = (after κ l o (.date target direction a)).onward ts q := by
  refine .peek_bind ?_
  split
  case h_1 hk | h_2 hk =>
    refine .advance_bind (by simp [hk]) (.peek_bind ?_)
    replace hR : R = onward ⟨κ, l, o, .afterToday target direction⟩ ts (p + 1) :=
      hR.trans (onward_of_step hk rfl)
    split
    · rename_i hminus
      refine .advance_bind (by simp [hminus]) ?_
      refine .bind (reads_magnitude (hR.trans (onward_of_step hminus rfl))) fun x q _ hx ↦ ?_
      exact .bind (reads_unit hx) fun u q _ hu ↦ .pure hu
    · rename_i hminus
      exact .pure (hR.trans (onward_of_settled (if_neg hminus)))
  case h_3 text hk =>
    rw [onward_take rfl] at hR
    simp only [take, takeAnchor, hk] at hR
    split
    · rename_i d hd
      rw [hd] at hR
      exact .advance_bind (by simp [hk]) (.pure hR)
    · rename_i hd
      rw [hd] at hR
      exact .reject (by rw [hR, hk]; rfl)
  case h_4 =>
    refine .reject ?_
    rw [hR, onward_take rfl]
    simp only [take, takeAnchor]
    rfl

/-! ## Conditions -/

theorem reads_moreValues {key : String} {negated : Bool} {newest : String} {before : List String}
    (hcall : MayCall ts .value p active depth)
    (hR : R = onward ⟨κ, l, o, .afterValue key negated newest before⟩ ts p) :
    Reads ts R (moreValues ts depth active (newest :: before)) p fun values q ↦
      R = (after κ l o (membershipOf key negated values)).onward ts q := by
  induction depth generalizing p active newest before with
  | zero => exact .of_zero hcall
  | succ depth ih =>
    rw [moreValues]
    refine .enter_bind hcall (.peek_bind ?_)
    split
    · rename_i hcomma
      refine .advance_bind (by simp [hcomma]) ?_
      refine .bind (reads_value (hR.trans (onward_of_step hcomma rfl))) fun v q hle hv ↦ ?_
      exact ih (hcall.later _ hle) hv
    · rename_i hcomma
      refine .pure ?_
      rw [← membership_eq]
      exact hR.trans (onward_of_settled (if_neg hcomma))

theorem reads_equality {key : String} {negated : Bool} (hk : (ts.tokenAt p).kind ≠ .eof)
    (hcall : ∀ q, p < q → MayCall ts .value q active depth)
    (hR : R = onward ⟨κ, l, o, .value (.member key negated [])⟩ ts (p + 1)) :
    Reads ts R (equality ts depth active key negated) p fun c q ↦
      R = (after κ l o c).onward ts q := by
  refine .advance_bind hk (.bind (reads_value hR) fun v q hle hv ↦ ?_)
  refine .bind (reads_moreValues (hcall q hle) hv) fun values q _ hvalues ↦ ?_
  split
  · exact .pure hvalues
  · simp only [membershipOf] at hvalues
    exact .pure hvalues

theorem reads_order {key : String} {op : Comparison} (hk : (ts.tokenAt p).kind ≠ .eof)
    (hR : R = onward ⟨κ, l, o, .number key op false⟩ ts (p + 1)) :
    Reads ts R (order ts key op) p fun c q ↦ R = (after κ l o c).onward ts q := by
  refine .advance_bind hk (.peek_bind ?_)
  split
  · rename_i hminus
    refine .advance_bind (by simp [hminus]) ?_
    replace hR : R = onward ⟨κ, l, o, .number key op true⟩ ts (p + 1 + 1) :=
      hR.trans (onward_of_step hminus rfl)
    exact .bind (reads_number (fun _ ↦ rfl) hR) fun x q _ hx ↦ .pure hx
  · rename_i hminus
    exact .bind (reads_number (fun h ↦ (hminus h).elim) hR) fun x q _ hx ↦ .pure hx

theorem reads_likeness {use : ValueUse} {c : Pattern → Condition}
    (hk : (ts.tokenAt p).kind ≠ .eof)
    (hu : ∀ (s : ParserState) (v : String) (start : Nat), s.useValue use v start =
      match Pattern.compile? v with
      | some x => .ok (s.addCondition (c x))
      | none => .error ⟨start, .validPattern, .pattern v⟩)
    (hR : R = onward ⟨κ, l, o, .value use⟩ ts (p + 1)) :
    Reads ts R (likeness ts c) p fun c q ↦ R = (after κ l o c).onward ts q :=
  .advance_bind hk (.bind (reads_pattern hu hR) fun _ _ _ hx ↦ .pure hx)

theorem reads_age {target : DateTarget} {direction : Direction}
    (hk : (ts.tokenAt p).kind ≠ .eof)
    (hR : R = onward ⟨κ, l, o, .anchor target direction⟩ ts (p + 1)) :
    Reads ts R (age ts target direction) p fun c q ↦ R = (after κ l o c).onward ts q :=
  .advance_bind hk (.bind (reads_anchor hR) fun _ _ _ ha ↦ .pure ha)

theorem reads_tagCondition {key : String} (hcall : MayCall ts .tagCondition p active depth)
    (hR : R = onward ⟨κ, l, o, .afterKey key⟩ ts p) :
    Reads ts R (tagCondition ts depth active key) p fun c q ↦
      R = (after κ l o c).onward ts q := by
  cases depth with
  | zero => exact .of_zero hcall
  | succ depth =>
    rw [tagCondition]
    refine .enter_bind hcall (.peek_bind ?_)
    split
    case h_1 hk | h_2 hk =>
      exact reads_equality (by simp [hk]) (fun q hq ↦ hcall.later _ hq)
        (hR.trans (onward_of_step hk rfl))
    case h_3 hk | h_4 hk =>
      exact reads_likeness (by simp [hk]) (fun _ _ _ ↦ rfl)
        (hR.trans (onward_of_step hk rfl))
    case h_5 hk | h_6 hk | h_7 hk | h_8 hk =>
      exact reads_order (by simp [hk]) (hR.trans (onward_of_step hk rfl))
    case h_9 hk | h_10 hk =>
      exact reads_age (by simp [hk]) (hR.trans (onward_of_step hk rfl))
    case h_11 =>
      have hends : ¬ continuesKey (ts.tokenAt p).kind = true := by
        simp only [continuesKey]
        exact Bool.false_ne_true
      exact .pure (hR.trans (onward_of_settled (if_neg hends)))

end SurveyQuests.Descent
