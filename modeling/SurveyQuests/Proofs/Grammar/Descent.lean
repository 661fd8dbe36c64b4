import SurveyQuests.Proofs.Grammar.Derivation
import SurveyQuests.Proofs.Grammar.Following

/-!
# Recursive descent and the parser

Reading by recursive descent gives what the parser gives, for all lists of tokens, and never gets
beyond the first mark of the end.

The rules for expressions call each other, so they are followed together, by induction on how deep
calls may still be nested.  A level of the parser is told by what has been read of the expressions
around the reader: its operands in the normal form are those that the calls in progress have
returned.  That is enough, since the normal form of the whole is made from the normal forms of its
parts.

## What is here

* `ReadsOperand` to `ReadsDisjunction`, `reads_expressions` — expressions;
* `reads_query` — queries;
* `parseByDescent_eq` — both readings give the same;
* `parse_stops_at_end` — **parsing comes to an end, at the first mark of the end at the latest**.
-/

set_option autoImplicit false

namespace SurveyQuests.Descent

open ParserState Grammar

/-! ## Expressions -/

/-- An operand has been read where the parser has one: the two are the same in the normal form. -/
def OperandRead (ts : EndedTokens) (R : Except ParseError Query) (κ : KindSet) (l : Level)
    (o : List Level) (f : Filter) (q : Nat) : Prop :=
  ∃ g : Filter, g.simplify = f ∧ R = onward ⟨κ, l.addOperand g, o, .afterOperand⟩ ts q

/-- An operand that no negation stands in front of is read as one. -/
def ReadsPrimary (ts : EndedTokens) (depth : Nat) : Prop :=
  ∀ (R : Except ParseError Query) (κ : KindSet) (l : Level) (o : List Level) (p : Nat)
    (active : List Call), MayCall ts .primary p active depth →
    (ts.tokenAt p).kind ≠ .keyword .not →
    ((ts.tokenAt p).kind = .bang → startsNegatable (ts.tokenAt (p + 1)).kind = false) →
    R = onward ⟨κ, l, o, .operand⟩ ts p →
    Reads ts R (primary ts depth active) p (OperandRead ts R κ l o)

/-- An operand is read as one. -/
def ReadsOperand (ts : EndedTokens) (depth : Nat) : Prop :=
  ∀ (R : Except ParseError Query) (κ : KindSet) (l : Level) (o : List Level) (p : Nat)
    (active : List Call), MayCall ts .operand p active depth →
    R = onward ⟨κ, l, o, .operand⟩ ts p →
    Reads ts R (operand ts depth active) p (OperandRead ts R κ l o)

/-- Behind operands of an *and* all those that follow are read. -/
def ReadsMoreConjuncts (ts : EndedTokens) (depth : Nat) : Prop :=
  ∀ (R : Except ParseError Query) (κ : KindSet) (alternatives gs : List Filter) (o : List Level)
    (p : Nat) (active : List Call), MayCall ts .conjunct p active depth →
    R = onward ⟨κ, addOperands { alternatives } gs, o, .afterOperand⟩ ts p →
    Reads ts R (moreConjuncts ts depth active (gs.map Filter.simplify).reverse) p fun fs q ↦
      ∃ gs : List Filter, gs.map Filter.simplify = fs ∧
        R = onward ⟨κ, addOperands { alternatives } gs, o, .afterOperand⟩ ts q ∧
        (ts.tokenAt q).kind ≠ .keyword .and

/-- An *and* is read with all its operands. -/
def ReadsConjunction (ts : EndedTokens) (depth : Nat) : Prop :=
  ∀ (R : Except ParseError Query) (κ : KindSet) (alternatives : List Filter) (o : List Level)
    (p : Nat) (active : List Call), MayCall ts .conjunction p active depth →
    R = onward ⟨κ, { alternatives }, o, .operand⟩ ts p →
    Reads ts R (conjunction ts depth active) p fun f q ↦
      ∃ gs : List Filter, (Filter.all gs).simplify = f ∧
        R = onward ⟨κ, addOperands { alternatives } gs, o, .afterOperand⟩ ts q ∧
        (ts.tokenAt q).kind ≠ .keyword .and

/-- Behind operands of an *or* all those that follow are read. -/
def ReadsMoreAlternatives (ts : EndedTokens) (depth : Nat) : Prop :=
  ∀ (R : Except ParseError Query) (κ : KindSet) (l : Level) (o : List Level) (p : Nat)
    (active : List Call), MayCall ts .alternative p active depth →
    (ts.tokenAt p).kind ≠ .keyword .and →
    R = onward ⟨κ, l, o, .afterOperand⟩ ts p →
    Reads ts R
      (moreAlternatives ts depth active (l.closeAlternative.alternatives.map Filter.simplify)) p
      fun fs q ↦ ∃ l : Level, l.closeAlternative.alternatives.reverse.map Filter.simplify = fs ∧
        R = onward ⟨κ, l, o, .afterOperand⟩ ts q ∧
        (ts.tokenAt q).kind ≠ .keyword .and ∧ (ts.tokenAt q).kind ≠ .keyword .or

/-- An *or* is read with all its operands. -/
def ReadsDisjunction (ts : EndedTokens) (depth : Nat) : Prop :=
  ∀ (R : Except ParseError Query) (κ : KindSet) (o : List Level) (p : Nat) (active : List Call),
    MayCall ts .disjunction p active depth →
    R = onward ⟨κ, {}, o, .operand⟩ ts p →
    Reads ts R (disjunction ts depth active) p fun f q ↦
      ∃ l : Level, l.filter.simplify = f ∧ R = onward ⟨κ, l, o, .afterOperand⟩ ts q ∧
        (ts.tokenAt q).kind ≠ .keyword .and ∧ (ts.tokenAt q).kind ≠ .keyword .or

variable {ts : EndedTokens} {depth p : Nat} {active : List Call} {R : Except ParseError Query}
  {κ : KindSet} {l : Level} {o : List Level}

theorem reads_key (hnot : startsNegatable (ts.tokenAt p).kind = false)
    (hR : R = onward ⟨κ, l, o, .afterBang⟩ ts p) :
    Reads ts R (key ts .keyAfterBang) p fun key q ↦
      R = (after κ l o (.hasKey key true)).onward ts q := by
  refine .peek_bind ?_
  split
  case h_1 hk | h_2 hk =>
    exact .advance_bind (by simp [hk]) (.pure (hR.trans (onward_of_step hk rfl)))
  case h_3 =>
    refine .reject ?_
    rw [hR, onward_take rfl]
    simp only [take, takeAfterBang]
    split
    case h_1 | h_2 | h_3 | h_4 | h_5 => simp_all [startsNegatable]
    case h_6 => rfl

theorem ReadsDisjunction.primary (h : ReadsDisjunction ts depth) : ReadsPrimary ts (depth + 1) := by
  intro R κ l o p active hcall hnot hbang hR
  rw [Descent.primary]
  refine .enter_bind hcall (.peek_bind ?_)
  split
  case h_1 hk =>
    refine .advance_bind (by simp [hk]) ?_
    refine .bind (h R κ (l :: o) _ _ (hcall.later _ (Nat.lt_succ_self p))
      (hR.trans (onward_of_step hk rfl))) ?_
    rintro f q - ⟨inner, hf, hR, hand, hor⟩
    refine .peek_bind ?_
    split
    · rename_i hright
      exact .advance_bind (by simp [hright])
        (.pure ⟨inner.filter, hf, hR.trans (onward_of_step hright rfl)⟩)
    · rename_i hright
      exact .reject (hR.trans (onward_unclosed hand hor hright))
  case h_2 hk =>
    refine .advance_bind (by simp [hk]) ?_
    refine .bind (reads_key (hbang hk) (hR.trans (onward_of_step hk rfl))) ?_
    exact fun key q _ hkey ↦ .pure ⟨_, rfl, hkey⟩
  case h_3 hk | h_4 hk =>
    refine .bind (reads_likeness (by simp [hk]) (fun _ _ _ ↦ rfl)
      (hR.trans (onward_of_step hk rfl))) ?_
    exact fun c q _ hc ↦ .pure ⟨_, rfl, hc⟩
  case h_5 hk | h_6 hk =>
    refine .bind (reads_age (by simp [hk]) (hR.trans (onward_of_step hk rfl))) ?_
    exact fun c q _ hc ↦ .pure ⟨_, rfl, hc⟩
  case h_7 hk | h_8 hk =>
    refine .advance_bind (by simp [hk]) ?_
    refine .bind (reads_tagCondition (hcall.later _ (Nat.lt_succ_self p))
      (hR.trans (onward_of_step hk rfl))) ?_
    exact fun c q _ hc ↦ .pure ⟨_, rfl, hc⟩
  case h_9 =>
    refine .reject ?_
    rw [hR, onward_take rfl]
    simp only [take, takeOperand]
    rfl

/-- The operand behind a negation. -/
theorem ReadsOperand.negated (h : ReadsOperand ts depth)
    (hcall : MayCall ts .operand p active depth)
    (hR : R = onward ⟨κ, l.addNegation, o, .operand⟩ ts p) :
    Reads ts R (do return .not (← operand ts depth active)) p (OperandRead ts R κ l o) := by
  refine .bind (h R κ l.addNegation o p active hcall hR) ?_
  rintro f q - ⟨g, rfl, hg⟩
  rw [addOperand_addNegation] at hg
  exact .pure ⟨.not g, rfl, hg⟩

theorem ReadsPrimary.operand (hprimary : ReadsPrimary ts depth) (h : ReadsOperand ts depth) :
    ReadsOperand ts (depth + 1) := by
  intro R κ l o p active hcall hR
  rw [Descent.operand]
  have hinner := hcall.later .operand (Nat.lt_succ_self p)
  have hsame := hcall.from_place .primary (by decide) (Nat.le_refl p)
  refine .enter_bind hcall (.peek_bind ?_)
  split
  case h_1 hk =>
    exact .advance_bind (by simp [hk])
      (h.negated hinner (hR.trans (onward_of_step hk rfl)))
  case h_2 hk =>
    refine .peek_ahead_bind ?_
    split
    case h_1 hnext | h_2 hnext | h_3 hnext =>
      refine .advance_bind (by simp [hk]) (h.negated hinner ?_)
      -- What negates the operand is the exclamation mark, now that the token behind it is known.
      rw [hR, onward_of_step hk rfl, onward_take rfl, onward_take rfl]
      simp only [take, takeAfterBang, takeOperand, hnext]
      rfl
    case h_4 =>
      refine hprimary R κ l o p _ hsame (by simp [hk]) (fun _ ↦ ?_) hR
      simp only [startsNegatable]
  case h_3 hnot hbang =>
    exact hprimary R κ l o p _ hsame hnot (fun h ↦ (hbang h).elim) hR

theorem addOperand_addOperands (l : Level) (fs : List Filter) (f : Filter) :
    (addOperands l fs).addOperand f = addOperands l (fs ++ [f]) := by
  simp [addOperands, Level.addOperand, Level.negate]

theorem ReadsOperand.moreConjuncts (hoperand : ReadsOperand ts depth)
    (h : ReadsMoreConjuncts ts depth) : ReadsMoreConjuncts ts (depth + 1) := by
  intro R κ alternatives gs o p active hcall hR
  rw [Descent.moreConjuncts]
  refine .enter_bind hcall (.peek_bind ?_)
  split
  · rename_i hand
    refine .advance_bind (by simp [hand]) ?_
    replace hR : R = onward ⟨κ, addOperands { alternatives } gs, o, .operand⟩ ts (p + 1) :=
      hR.trans (onward_of_step hand rfl)
    refine .bind (hoperand R κ _ o _ _ (hcall.later _ (Nat.lt_succ_self p)) hR) ?_
    rintro f q hle ⟨g, rfl, hg⟩
    rw [addOperand_addOperands] at hg
    have hmore := h R κ alternatives (gs ++ [g]) o q _ (hcall.later _ hle) hg
    simpa using hmore
  · rename_i hand
    exact .pure ⟨gs, (List.reverse_reverse _).symm, hR, hand⟩

theorem ReadsOperand.conjunction (hoperand : ReadsOperand ts depth)
    (h : ReadsMoreConjuncts ts depth) : ReadsConjunction ts (depth + 1) := by
  intro R κ alternatives o p active hcall hR
  rw [Descent.conjunction]
  refine .enter_bind hcall ?_
  refine .bind (hoperand R κ _ o p _ (hcall.from_place _ (by decide) (Nat.le_refl p)) hR) ?_
  rintro f q hle ⟨g, rfl, hg⟩
  rw [addOperand_of_negations rfl] at hg
  refine .bind (h R κ alternatives [g] o q _ (hcall.from_place _ (by decide) hle) hg) ?_
  rintro fs q - ⟨gs, rfl, hR, hand⟩
  exact .pure ⟨gs, (simplify_all_map gs).symm, hR, hand⟩

theorem ReadsConjunction.moreAlternatives (hconjunction : ReadsConjunction ts depth)
    (h : ReadsMoreAlternatives ts depth) : ReadsMoreAlternatives ts (depth + 1) := by
  intro R κ l o p active hcall hand hR
  rw [Descent.moreAlternatives]
  refine .enter_bind hcall (.peek_bind ?_)
  split
  · rename_i hor
    refine .advance_bind (by simp [hor]) ?_
    refine .bind (hconjunction R κ l.closeAlternative.alternatives o _ _
      (hcall.later _ (Nat.lt_succ_self p)) (hR.trans (onward_of_step hor rfl))) ?_
    rintro f q hle ⟨gs, rfl, hg, hand⟩
    have hmore := h R κ _ o q _ (hcall.later _ hle) hand hg
    rw [closeAlternative_addOperands] at hmore
    exact hmore
  · rename_i hor
    refine .pure ⟨l, ?_, hR, hand, hor⟩
    rw [List.map_reverse]

theorem ReadsConjunction.disjunction (hconjunction : ReadsConjunction ts depth)
    (h : ReadsMoreAlternatives ts depth) : ReadsDisjunction ts (depth + 1) := by
  intro R κ o p active hcall hR
  rw [Descent.disjunction]
  refine .enter_bind hcall ?_
  refine .bind (hconjunction R κ [] o p _ (hcall.from_place _ (by decide) (Nat.le_refl p)) hR) ?_
  rintro f q hle ⟨gs, rfl, hg, hand⟩
  have hmore := h R κ _ o q _ (hcall.from_place _ (by decide) hle) hand hg
  rw [closeAlternative_addOperands] at hmore
  refine .bind hmore ?_
  rintro fs q - ⟨l, rfl, hR, hand, hor⟩
  exact .pure ⟨l, (simplify_any_map _).symm, hR, hand, hor⟩

/-- Expressions are read, given a limit to further calls. -/
structure ReadsExpressions (ts : EndedTokens) (depth : Nat) : Prop where
  primary : ReadsPrimary ts depth
  operand : ReadsOperand ts depth
  moreConjuncts : ReadsMoreConjuncts ts depth
  conjunction : ReadsConjunction ts depth
  moreAlternatives : ReadsMoreAlternatives ts depth
  disjunction : ReadsDisjunction ts depth

theorem reads_expressions (ts : EndedTokens) (depth : Nat) : ReadsExpressions ts depth := by
  induction depth with
  | zero =>
    exact {
      primary := fun _ _ _ _ _ _ hcall _ _ _ ↦ .of_zero hcall
      operand := fun _ _ _ _ _ _ hcall _ ↦ .of_zero hcall
      moreConjuncts := fun _ _ _ _ _ _ _ hcall _ ↦ .of_zero hcall
      conjunction := fun _ _ _ _ _ _ hcall _ ↦ .of_zero hcall
      moreAlternatives := fun _ _ _ _ _ _ hcall _ _ ↦ .of_zero hcall
      disjunction := fun _ _ _ _ _ hcall _ ↦ .of_zero hcall }
  | succ depth ih =>
    exact {
      primary := ih.disjunction.primary
      operand := ih.primary.operand ih.operand
      moreConjuncts := ih.operand.moreConjuncts ih.moreConjuncts
      conjunction := ih.operand.conjunction ih.moreConjuncts
      moreAlternatives := ih.conjunction.moreAlternatives ih.moreAlternatives
      disjunction := ih.conjunction.disjunction ih.moreAlternatives }

/-! ## Queries -/

theorem reads_kinds (hcall : MayCall ts .kind p active depth)
    (hR : R = onward ⟨κ, {}, [], .kind⟩ ts p) :
    Reads ts R (kinds ts depth active κ) p fun κ q ↦
      R = onward ⟨κ, {}, [], .afterKind⟩ ts q ∧ (ts.tokenAt q).kind ≠ .comma := by
  induction depth generalizing κ p active with
  | zero => exact .of_zero hcall
  | succ depth ih =>
    rw [kinds]
    refine .enter_bind hcall (.peek_bind ?_)
    split
    · rename_i word hk
      rw [onward_take rfl] at hR
      simp only [take, takeKind, hk] at hR
      split
      · rename_i kind hkind
        rw [hkind] at hR
        refine .advance_bind (by simp [hk]) (.peek_bind ?_)
        split
        · rename_i hcomma
          refine .advance_bind (by simp [hcomma]) ?_
          exact ih (hcall.later _ (by omega)) (hR.trans (onward_of_step hcomma rfl))
        · rename_i hcomma
          exact .pure ⟨hR, hcomma⟩
      · rename_i hkind
        rw [hkind] at hR
        exact .reject hR
    · rw [onward_take rfl] at hR
      simp only [take, takeKind] at hR
      exact .reject hR

theorem mayCall_start (h : 9 * (ts.stop + 1) ≤ depth) (rule : Rule) (p : Nat) :
    MayCall ts rule p [] depth where
  nested := .nil
  before := by simp
  enough := by omega

theorem reads_filter (hdepth : 9 * (ts.stop + 1) ≤ depth)
    (hcomma : (ts.tokenAt p).kind ≠ .comma)
    (hR : R = onward ⟨κ, {}, [], .afterKind⟩ ts p) :
    Reads ts R (filter ts depth) p fun f q ↦
      R = if (ts.tokenAt q).kind = .eof then .ok ⟨κ, f⟩
        else .error ⟨(ts.tokenAt q).pos, .connective, .token (ts.tokenAt q).kind⟩ := by
  refine .peek_bind ?_
  split
  · rename_i hwith
    refine .advance_bind (by simp [hwith]) ?_
    replace hR : R = onward ⟨κ, {}, [], .operand⟩ ts (p + 1) :=
      hR.trans (onward_of_step hwith rfl)
    refine .mono ((reads_expressions ts depth).disjunction R κ [] _ _ (mayCall_start hdepth _ _) hR)
      ?_
    rintro f q ⟨l, rfl, hl, hand, hor⟩
    exact hl.trans (onward_last hand hor)
  · rename_i hwith
    refine .peek_bind ?_
    split
    · rename_i heof
      refine .pure ?_
      rw [hR, onward_eq, if_pos heof, if_pos heof]
      rfl
    · rename_i heof
      refine .reject ?_
      have hstep : step ⟨κ, {}, [], .afterKind⟩ (ts.tokenAt p) =
          .error ⟨(ts.tokenAt p).pos, .commaOrWith, .token (ts.tokenAt p).kind⟩ := by
        simp only [step, settled, take, takeAfterKind]
        split
        case h_1 h => exact (hcomma h).elim
        case h_2 word h =>
          rw [if_neg (by rintro rfl; exact hwith h)]
          rfl
        case h_3 => rfl
      rw [hR, onward_eq, if_neg heof, hstep]

theorem reads_query (hdepth : 9 * (ts.stop + 1) ≤ depth) :
    Reads ts (onward {} ts 0) (query ts depth) 0 fun q _ ↦ onward {} ts 0 = .ok q := by
  refine .bind (reads_kinds (mayCall_start hdepth _ _) rfl) ?_
  rintro κ p - ⟨hR, hcomma⟩
  refine .bind (reads_filter hdepth hcomma hR) fun f q _ hf ↦ .peek_bind ?_
  split
  · rename_i heof
    rw [if_pos heof] at hf
    exact .pure hf
  · rename_i heof
    rw [if_neg heof] at hf
    exact .reject hf

end SurveyQuests.Descent

namespace SurveyQuests

open Descent

theorem Descent.Tidy.places_le {tokens : List Token} {s : State} (h : Tidy (.ofList tokens) s) :
    ∀ q ∈ s.place :: s.earlier, q ≤ tokens.findIdx (·.kind == .eof) := by
  rw [← EndedTokens.stop_ofList]
  exact List.forall_mem_cons.2 ⟨h.place_le, h.earlier_le⟩

/-- **Reading by recursive descent gives what the parser gives**, if calls may be nested nine times
as deep as there are places up to the first mark of the end. -/
theorem parseByDescent_eq (tokens : List Token) {depth : Nat}
    (hdepth : 9 * (tokens.findIdx (·.kind == .eof) + 1) ≤ depth) :
    ∃ s, parseByDescent depth tokens = some (parse tokens, s) ∧ Tidy (.ofList tokens) s := by
  rw [← EndedTokens.stop_ofList] at hdepth
  have hstart : Tidy (.ofList tokens) {} := ⟨Nat.zero_le _, by simp, by simp⟩
  obtain ⟨r, s, hrun, hs, -, hr⟩ := reads_query hdepth {} rfl hstart
  refine ⟨s, ?_, hs⟩
  rw [parseByDescent, hrun, ParserState.parse_eq_onward]
  cases r with
  | ok q => rw [hr]
  | error e => rw [hr]

/-- The parser does not get to the tokens behind a mark of the end. -/
theorem run_append_of_eof {pre : List Token} {e : Token} (he : e.kind = .eof) (rest : List Token)
    (s : ParserState) (i : Nat) : s.run i (pre ++ [e] ++ rest) = s.run i (pre ++ [e]) := by
  induction pre generalizing s i with
  | nil => simp [ParserState.run, he]
  | cons t pre ih =>
    rw [List.cons_append, List.cons_append, ParserState.run, ParserState.run]
    split
    · rfl
    · split
      · exact ih _ _
      · rfl

theorem findIdx_eof {pre : List Token} (hpre : ∀ t ∈ pre, t.kind ≠ .eof) {e : Token}
    (he : e.kind = .eof) (rest : List Token) :
    (pre ++ [e] ++ rest).findIdx (·.kind == .eof) = pre.length := by
  have hlength : pre.findIdx (·.kind == .eof) = pre.length :=
    List.findIdx_eq_length.2 fun t ht ↦ by simpa using hpre t ht
  rw [List.append_assoc, List.findIdx_append, hlength]
  simp [List.findIdx_cons, he]

/-- **Parsing comes to an end, at the first mark of the end at the latest.**

For any list of tokens the reading by recursive descent has a result, which is that of the parser.
Its places all lie in front of the first mark of the end or at it, and wherever a rule is called, or
a loop goes round, while the same rule or loop is in progress, the reader has gone on in between.
Tokens behind the first mark of the end make no difference. -/
theorem parse_stops_at_end :
    (∀ (tokens : List Token) (depth : Nat),
      9 * (tokens.findIdx (·.kind == .eof) + 1) ≤ depth →
      ∃ s, parseByDescent depth tokens = some (parse tokens, s) ∧
        (∀ q ∈ s.place :: s.earlier, q ≤ tokens.findIdx (·.kind == .eof)) ∧
        ∀ calls ∈ s.record, Nested calls) ∧
    ∀ (pre : List Token) (e : Token) (rest : List Token),
      (∀ t ∈ pre, t.kind ≠ .eof) → e.kind = .eof →
      parse (pre ++ [e] ++ rest) = parse (pre ++ [e]) ∧
        ∀ depth, 9 * (pre.length + 1) ≤ depth →
          ∃ s, parseByDescent depth (pre ++ [e] ++ rest) = some (parse (pre ++ [e]), s) ∧
            ∀ q ∈ s.place :: s.earlier, q ≤ pre.length := by
  constructor
  · intro tokens depth hdepth
    obtain ⟨s, hs, htidy⟩ := parseByDescent_eq tokens hdepth
    exact ⟨s, hs, htidy.places_le, htidy.nested⟩
  · intro pre e rest hpre he
    have hsame : parse (pre ++ [e] ++ rest) = parse (pre ++ [e]) :=
      run_append_of_eof he rest {} 0
    refine ⟨hsame, fun depth hdepth ↦ ?_⟩
    rw [← findIdx_eof hpre he rest] at hdepth
    obtain ⟨s, hs, htidy⟩ := parseByDescent_eq _ hdepth
    have hplaces := htidy.places_le
    rw [findIdx_eof hpre he rest] at hplaces
    rw [hsame] at hs
    exact ⟨s, hs, hplaces⟩

/-- Two tokens behind the end of a query with no filter. -/
theorem parse_stops_at_end_nodes :
    (∀ t ∈ ([⟨.ident "nodes", 0⟩] : List Token), t.kind ≠ .eof) ∧ 9 * (1 + 1) ≤ 18 ∧
      parse [⟨.ident "nodes", 0⟩, ⟨.eof, 5⟩, ⟨.bang, 5⟩, ⟨.eof, 6⟩] =
        parse [⟨.ident "nodes", 0⟩, ⟨.eof, 5⟩] ∧
      ∃ s, parseByDescent 18 [⟨.ident "nodes", 0⟩, ⟨.eof, 5⟩, ⟨.bang, 5⟩, ⟨.eof, 6⟩] =
          some (parse [⟨.ident "nodes", 0⟩, ⟨.eof, 5⟩], s) ∧
        (∀ q ∈ s.place :: s.earlier, q ≤ 1) ∧ ∀ calls ∈ s.record, Nested calls := by
  have hpre : ∀ t ∈ ([⟨.ident "nodes", 0⟩] : List Token), t.kind ≠ .eof := by decide
  obtain ⟨hsame, -⟩ :=
    parse_stops_at_end.2 [⟨.ident "nodes", 0⟩] ⟨.eof, 5⟩ [⟨.bang, 5⟩, ⟨.eof, 6⟩] hpre rfl
  obtain ⟨s, hs, hplaces, hnested⟩ := parse_stops_at_end.1
    [⟨.ident "nodes", 0⟩, ⟨.eof, 5⟩, ⟨.bang, 5⟩, ⟨.eof, 6⟩] 18 (by decide)
  exact ⟨hpre, by decide, hsame, s, hs.trans (congrArg (fun r ↦ some (r, s)) hsame), hplaces,
    hnested⟩

end SurveyQuests
