import Mathlib.Data.List.Basic
import SurveyQuests.Proofs.Grammar.Acceptance
import SurveyQuests.Query.Descent

/-!
# What the parser gives from a place on

`ParserState.onward` is what the parser gives from a state for the tokens from a place on.  Here is
what it does with the token at the place, phase by phase, so that a reading of the same tokens by
recursive descent can be followed along with it.

In most phases the parser needs a token, and the mark of the end is a token like any other that does
not fit (`ParserState.onward_take`).  In the others it may be at the end, or the token may belong to
what comes after a condition that is then complete (`ParserState.onward_of_settled`).

## What is here

* `EndedTokens.stop` — the place of the first mark of the end;
* `ParserState.onward`, with one lemma for each way to go on from a phase.
-/

set_option autoImplicit false

namespace SurveyQuests

namespace EndedTokens

variable (ts : EndedTokens)

/-! ## Places -/

/-- The place of the first token that marks the end. -/
def stop : Nat := ts.front.findIdx fun t ↦ t.kind == .eof

theorem tokenAt_of_lt {p : Nat} (h : p < ts.front.length) : ts.tokenAt p = ts.front[p] := by
  rw [tokenAt, List.getD_eq_getElem?_getD, List.getElem?_eq_getElem h, Option.getD_some]

theorem tokenAt_of_le {p : Nat} (h : ts.front.length ≤ p) : ts.tokenAt p = ts.last := by
  rw [tokenAt, List.getD_eq_getElem?_getD, List.getElem?_eq_none h, Option.getD_none]

theorem kind_stop : (ts.tokenAt ts.stop).kind = .eof := by
  by_cases h : ts.stop < ts.front.length
  · have heof := List.findIdx_getElem (w := h)
    rw [tokenAt_of_lt ts h]
    exact eq_of_beq heof
  · rw [tokenAt_of_le ts (Nat.le_of_not_lt h), ts.kind_last]

theorem lt_stop {p : Nat} (hle : p ≤ ts.stop) (h : (ts.tokenAt p).kind ≠ .eof) : p < ts.stop := by
  refine Nat.lt_of_le_of_ne hle ?_
  rintro rfl
  exact h ts.kind_stop

theorem stop_le : ts.stop ≤ ts.front.length := List.findIdx_le_length

/-- The first mark of the end is where it was before a mark was added. -/
theorem stop_ofList (tokens : List Token) :
    (ofList tokens).stop = tokens.findIdx fun t ↦ t.kind == .eof := by
  rw [ofList]
  split
  · rename_i hnil
    rw [List.getLast?_eq_none_iff.1 hnil]
    rfl
  · rename_i t hlast
    split
    · rename_i heof
      obtain ⟨front, rfl⟩ := List.getLast?_eq_some_iff.1 hlast
      rw [stop, List.dropLast_concat, List.findIdx_append]
      have hle : front.findIdx (fun t ↦ t.kind == .eof) ≤ front.length := List.findIdx_le_length
      split
      · rfl
      · simp only [List.findIdx_cons, heof, beq_self_eq_true, cond_true]
        omega
    · rfl

end EndedTokens

namespace ParserState

/-! ## The parser from a place on -/

/-- What the parser gives from a state for the tokens from a place on. -/
def onward (s : ParserState) (ts : EndedTokens) (p : Nat) : Except ParseError Query :=
  s.run 0 (ts.front.drop p ++ [ts.last])

/-- Where the text would end without a mark of the end is of no importance if there is one. -/
theorem run_append_singleton (s : ParserState) (i j : Nat) (ts : List Token) (t : Token) :
    s.run i (ts ++ [t]) = s.run j (ts ++ [t]) := by
  cases ts <;> rfl

/-- A mark of the end that is added makes no difference. -/
theorem run_append_eof (s : ParserState) (i : Nat) (ts : List Token) :
    s.run i (ts ++ [⟨.eof, (ts.getLast?.map Token.pos).getD i⟩]) = s.run i ts := by
  induction ts generalizing s i with
  | nil => rfl
  | cons t ts ih =>
    have hlast : ((t :: ts).getLast?.map Token.pos).getD i =
        (ts.getLast?.map Token.pos).getD t.pos := by
      rw [List.getLast?_cons]
      cases ts.getLast? <;> rfl
    rw [hlast, List.cons_append, run, run]
    split
    · rfl
    · split
      · exact ih _ _
      · rfl

theorem parse_eq_onward (tokens : List Token) :
    parse tokens = onward {} (.ofList tokens) 0 := by
  rw [parse, onward, List.drop_zero, EndedTokens.ofList]
  split
  · rename_i hnil
    rw [List.getLast?_eq_none_iff.1 hnil]
    rfl
  · rename_i t hlast
    split
    · obtain ⟨front, rfl⟩ := List.getLast?_eq_some_iff.1 hlast
      rw [List.dropLast_concat]
    · have hrun := run_append_eof {} 0 tokens
      rw [hlast] at hrun
      exact hrun.symm

section

variable {ts : EndedTokens} {s t : ParserState} {p : Nat} {e : ParseError}

theorem onward_eq (s : ParserState) (ts : EndedTokens) (p : Nat) :
    s.onward ts p =
      if (ts.tokenAt p).kind = .eof then s.finish (ts.tokenAt p)
      else
        match s.step (ts.tokenAt p) with
        | .ok t => t.onward ts (p + 1)
        | .error e => .error e := by
  by_cases h : p < ts.front.length
  · rw [ts.tokenAt_of_lt h, onward, List.drop_eq_getElem_cons h, List.cons_append, run]
    split
    · rfl
    · cases s.step ts.front[p] with
      | ok t => exact run_append_singleton ..
      | error e => rfl
  · rw [ts.tokenAt_of_le (Nat.le_of_not_lt h), onward,
      List.drop_eq_nil_of_le (Nat.le_of_not_lt h), List.nil_append, run]
    rw [if_pos ts.kind_last, if_pos ts.kind_last]

/-- The parser goes on where it takes the token. -/
theorem onward_of_step {k : TokenKind} (hk : (ts.tokenAt p).kind = k)
    (h : s.step ⟨k, (ts.tokenAt p).pos⟩ = .ok t) : s.onward ts p = t.onward ts (p + 1) := by
  have hne : (ts.tokenAt p).kind ≠ .eof := by
    intro heof
    rw [← hk, heof] at h
    exact step_eof_ne_ok s t _ h
  subst hk
  rw [onward_eq, if_neg hne, show s.step (ts.tokenAt p) = .ok t from h]

/-! ## Phases that need a token -/

/-- Does the phase need a token, whatever it is? -/
def needsToken : Phase → Bool
  | .afterKind | .afterKey _ | .afterValue _ _ _ _ | .afterToday _ _ | .afterOperand => false
  | _ => true

theorem settled_of_needsToken (h : needsToken s.phase = true) (k : TokenKind) :
    s.settled k = s := by
  obtain ⟨κ, l, o, p⟩ := s
  cases p <;> first | rfl | cases h

theorem finish_of_needsToken (h : needsToken s.phase = true) (x : Token) :
    s.finish x = .error (s.rejection x) := by
  obtain ⟨κ, l, o, p⟩ := s
  cases p <;> first | rfl | cases h

/-- The mark of the end is not taken by such a phase. -/
theorem take_of_needsToken (h : needsToken s.phase = true) {x : Token} (hx : x.kind = .eof) :
    s.take x = .error (s.rejection x) := by
  obtain ⟨κ, l, o, p⟩ := s
  obtain ⟨k, pos⟩ := x
  subst hx
  cases p <;> first | rfl | cases h

/-- **In a phase that needs a token the parser takes the token at the place**, also if it marks the
end. -/
theorem onward_take (h : needsToken s.phase = true) :
    s.onward ts p = s.take (ts.tokenAt p) >>= fun t ↦ t.onward ts (p + 1) := by
  rw [onward_eq]
  split
  · rename_i heof
    rw [finish_of_needsToken h, take_of_needsToken h heof]
    rfl
  · rw [step, settled_of_needsToken h]
    cases s.take (ts.tokenAt p) <;> rfl

theorem onward_of_take_error (h : needsToken s.phase = true)
    (he : s.take (ts.tokenAt p) = .error e) : s.onward ts p = .error e := by
  rw [onward_take h, he]
  rfl

/-! ## Conditions that are complete -/

theorem settled_settled (s : ParserState) (k : TokenKind) :
    (s.settled k).settled k = s.settled k := by
  obtain ⟨κ, l, o, p⟩ := s
  cases p with
  | afterKey key =>
    by_cases hk : continuesKey k = true <;> simp [settled, hk, addCondition, addOperand]
  | afterValue key negated newest before =>
    by_cases hk : k = .comma <;> simp [settled, hk, addCondition, addOperand]
  | afterToday target direction =>
    by_cases hk : k = .minus <;> simp [settled, hk, addCondition, addOperand]
  | _ => rfl

/-- **A condition that the token does not continue is complete.** -/
theorem onward_of_settled (h : s.settled (ts.tokenAt p).kind = t) :
    s.onward ts p = t.onward ts p := by
  subst h
  rw [onward_eq, onward_eq (s.settled _)]
  split
  · rename_i heof
    rw [heof, finish, finish, settled_settled]
  · rw [step, step, settled_settled]

/-! ## After an operand -/

variable {κ : KindSet} {l around : Level} {o : List Level}

/-- Inside a parenthesis an operand is followed by *and*, *or* or the other parenthesis. -/
theorem onward_unclosed (hand : (ts.tokenAt p).kind ≠ .keyword .and)
    (hor : (ts.tokenAt p).kind ≠ .keyword .or) (hright : (ts.tokenAt p).kind ≠ .rightParen) :
    onward ⟨κ, l, around :: o, .afterOperand⟩ ts p =
      .error ⟨(ts.tokenAt p).pos, .closingParen, .token (ts.tokenAt p).kind⟩ := by
  rw [onward_eq]
  split
  · rfl
  · simp only [step, settled, take, takeAfterOperand]
    rfl

/-- Outside of all parentheses it is followed by *and*, *or* or the end. -/
theorem onward_last (hand : (ts.tokenAt p).kind ≠ .keyword .and)
    (hor : (ts.tokenAt p).kind ≠ .keyword .or) :
    onward ⟨κ, l, [], .afterOperand⟩ ts p =
      if (ts.tokenAt p).kind = .eof then .ok ⟨κ, l.filter.simplify⟩
      else .error ⟨(ts.tokenAt p).pos, .connective, .token (ts.tokenAt p).kind⟩ := by
  have htake : step ⟨κ, l, [], .afterOperand⟩ (ts.tokenAt p) =
      .error ⟨(ts.tokenAt p).pos, .connective, .token (ts.tokenAt p).kind⟩ := by
    simp only [step, settled, take, takeAfterOperand]
    split
    case h_1 h => exact (hand h).elim
    case h_2 h => exact (hor h).elim
    case h_3 | h_4 => rfl
  rw [onward_eq, htake]
  rfl

end

end ParserState

end SurveyQuests
