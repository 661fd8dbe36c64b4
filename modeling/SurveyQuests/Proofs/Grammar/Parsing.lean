import Mathlib.Data.List.Basic
import SurveyQuests.Proofs.Grammar.Acceptance

/-!
# The parser accepts exactly its grammar

The parser keeps a stack of levels and never calls itself; the grammar is recursive.  The two meet
in one statement for each nonterminal: from the start of an operand, the parser accepts the tokens
of an expression and then the rest exactly if it accepts the rest from the state after the
expression.

* `accepts_orExpr`, `accepts_andExpr`, `accepts_unaryExpr` — what the grammar derives is accepted;
  the induction follows the derivation.
* `reads` — what is accepted starts with an expression of the grammar; the induction is on the
  number of tokens, since a parenthesis sends an operand back to a whole *or*.
* `accepts_start_iff` — both for whole queries, and `parse_eq_ok_iff` for `parse` itself.

A derivation is recursive to the right, while a level collects its operands the newest first:
`addOperands` and `levelOf` are the levels that expressions leave behind.
-/

set_option autoImplicit false

namespace SurveyQuests.ParserState

open Grammar

variable {κ : KindSet} {l : Level} {o : List Level} {ks : List TokenKind} {q : Query}

/-! ## Levels -/

theorem negate_not (n : Nat) (f : Filter) : Level.negate n (.not f) = .not (Level.negate n f) := by
  induction n with
  | zero => rfl
  | succ n ih => rw [Level.negate, ih, Level.negate]

theorem addOperand_addNegation (l : Level) (f : Filter) :
    l.addNegation.addOperand f = l.addOperand (.not f) := by
  simp only [Level.addOperand, Level.addNegation, negate_not]
  rfl

/-- The level with operands of an *and*. -/
def addOperands (l : Level) (fs : List Filter) : Level :=
  { l with conjuncts := fs.reverse ++ l.conjuncts, negations := 0 }

theorem addOperand_of_negations {l : Level} (h : l.negations = 0) (f : Filter) :
    l.addOperand f = addOperands l [f] := by
  rw [Level.addOperand, h]
  rfl

theorem addOperands_cons (l : Level) (f : Filter) (fs : List Filter) :
    addOperands (addOperands l [f]) fs = addOperands l (f :: fs) := by
  simp [addOperands]

/-- The level that the operands of an *or* leave behind. -/
def levelOf (alternatives : List Filter) : OrExpr → Level
  | .last a => ⟨alternatives, a.operands.reverse, 0⟩
  | .or a e => levelOf (.all a.operands :: alternatives) e

theorem filter_levelOf (alternatives : List Filter) (e : OrExpr) :
    (levelOf alternatives e).filter = .any (alternatives.reverse ++ e.operands) := by
  match e with
  | .last a => simp [levelOf, Level.filter, Level.closeAlternative, OrExpr.operands]
  | .or a e =>
    rw [levelOf, filter_levelOf, OrExpr.operands]
    simp

theorem closeAlternative_addOperands (alternatives fs : List Filter) :
    (addOperands { alternatives } fs).closeAlternative
      = { alternatives := .all fs :: alternatives } := by
  simp [addOperands, Level.closeAlternative]

/-! ## What the grammar derives is accepted -/

mutual

theorem accepts_orExpr (e : OrExpr) {κ : KindSet} {alternatives : List Filter} {o : List Level}
    {rest : List TokenKind} {q : Query} (hv : e.Valid)
    (h : Accepts ⟨κ, levelOf alternatives e, o, .afterOperand⟩ rest q) :
    Accepts ⟨κ, { alternatives }, o, .operand⟩ (e.tokens ++ rest) q := by
  match e with
  | .last a =>
    refine accepts_andExpr a hv rfl ?_
    simpa [addOperands, levelOf] using h
  | .or a e =>
    have hr : Accepts ⟨κ, { alternatives := .all a.operands :: alternatives }, o, .operand⟩
        (e.tokens ++ rest) q :=
      accepts_orExpr e hv.2 h
    rw [OrExpr.tokens, List.append_assoc]
    refine accepts_andExpr a hv.1 rfl (accepts_or_iff.2 ?_)
    rw [closeAlternative_addOperands]
    exact hr

theorem accepts_andExpr (a : AndExpr) {κ : KindSet} {l : Level} {o : List Level}
    {rest : List TokenKind} {q : Query} (hv : a.Valid) (hn : l.negations = 0)
    (h : Accepts ⟨κ, addOperands l a.operands, o, .afterOperand⟩ rest q) :
    Accepts ⟨κ, l, o, .operand⟩ (a.tokens ++ rest) q := by
  match a with
  | .last u =>
    refine accepts_unaryExpr u hv ?_
    rw [addOperand_of_negations hn]
    exact h
  | .and u a =>
    have hr : Accepts ⟨κ, addOperands l [u.tree], o, .operand⟩ (a.tokens ++ rest) q := by
      refine accepts_andExpr a hv.2 rfl ?_
      rw [addOperands_cons]
      exact h
    rw [AndExpr.tokens, List.append_assoc]
    refine accepts_unaryExpr u hv.1 ?_
    rw [addOperand_of_negations hn]
    exact accepts_and_iff.2 hr

theorem accepts_unaryExpr (u : UnaryExpr) {κ : KindSet} {l : Level} {o : List Level}
    {rest : List TokenKind} {q : Query} (hv : u.Valid)
    (h : Accepts ⟨κ, l.addOperand u.tree, o, .afterOperand⟩ rest q) :
    Accepts ⟨κ, l, o, .operand⟩ (u.tokens ++ rest) q := by
  match u with
  | .not u =>
    refine accepts_operand_iff.2 (.inl ⟨u.tokens ++ rest, rfl, accepts_unaryExpr u hv ?_⟩)
    rw [addOperand_addNegation]
    exact h
  | .bang u =>
    refine accepts_operand_iff.2 (.inr (.inl ⟨u.tokens ++ rest, rfl, ?_, ?_⟩))
    · obtain ⟨k, hk, hs⟩ := (Option.any_eq_true _ _).1 hv.1
      rw [List.head?_append, hk]
      exact hs
    · refine accepts_unaryExpr u hv.2 ?_
      rw [addOperand_addNegation]
      exact h
  | .group e =>
    have htokens : (UnaryExpr.group e).tokens ++ rest =
        .leftParen :: (e.tokens ++ .rightParen :: rest) := by
      simp [UnaryExpr.tokens]
    refine accepts_operand_iff.2 (.inr (.inr (.inl ⟨_, htokens, ?_⟩)))
    refine accepts_orExpr e hv (accepts_rightParen_iff.2 ?_)
    rw [filter_levelOf]
    exact h
  | .atom a =>
    exact accepts_operand_iff.2 (.inr (.inr (.inr ⟨a, rest, rfl, h⟩)))

end

/-! ## What is accepted is derived -/

/-- Wherever an operand is accepted here, the tokens start with an operand of the grammar. -/
def ReadsUnary (κ : KindSet) (q : Query) (ks : List TokenKind) : Prop :=
  ∀ (l : Level) (o : List Level), Accepts ⟨κ, l, o, .operand⟩ ks q →
    ∃ (u : UnaryExpr) (rest : List TokenKind), u.Valid ∧ ks = u.tokens ++ rest ∧
      Accepts ⟨κ, l.addOperand u.tree, o, .afterOperand⟩ rest q

/-- The same for operands of an *and*, of which there are as many as there can be. -/
def ReadsAnd (κ : KindSet) (q : Query) (ks : List TokenKind) : Prop :=
  ∀ (l : Level) (o : List Level), l.negations = 0 → Accepts ⟨κ, l, o, .operand⟩ ks q →
    ∃ (a : AndExpr) (rest : List TokenKind), a.Valid ∧ ks = a.tokens ++ rest ∧
      rest.head? ≠ some (.keyword .and) ∧
      Accepts ⟨κ, addOperands l a.operands, o, .afterOperand⟩ rest q

/-- The same for operands of an *or*. -/
def ReadsOr (κ : KindSet) (q : Query) (ks : List TokenKind) : Prop :=
  ∀ (alternatives : List Filter) (o : List Level),
    Accepts ⟨κ, { alternatives }, o, .operand⟩ ks q →
    ∃ (e : OrExpr) (rest : List TokenKind), e.Valid ∧ ks = e.tokens ++ rest ∧
      rest.head? ≠ some (.keyword .and) ∧ rest.head? ≠ some (.keyword .or) ∧
      Accepts ⟨κ, levelOf alternatives e, o, .afterOperand⟩ rest q

theorem readsUnary_of_shorter
    (h : ∀ r : List TokenKind, r.length < ks.length → ReadsUnary κ q r ∧ ReadsOr κ q r) :
    ReadsUnary κ q ks := by
  intro l o ha
  obtain ⟨r, rfl, hr⟩ | ⟨r, rfl, hk, hr⟩ | ⟨r, rfl, hr⟩ | ⟨a, rest, rfl, hr⟩ :=
    accepts_operand_iff.1 ha
  · obtain ⟨u, rest, hv, rfl, hrest⟩ := (h r (by simp)).1 _ _ hr
    rw [addOperand_addNegation] at hrest
    exact ⟨.not u, rest, hv, rfl, hrest⟩
  · obtain ⟨u, rest, hv, rfl, hrest⟩ := (h r (by simp)).1 _ _ hr
    rw [addOperand_addNegation] at hrest
    rw [List.head?_append_of_ne_nil _ (UnaryExpr.tokens_ne_nil u)] at hk
    exact ⟨.bang u, rest, ⟨hk, hv⟩, rfl, hrest⟩
  · obtain ⟨e, rest, hv, rfl, hand, hor, hrest⟩ := (h r (by simp)).2 [] _ hr
    obtain ⟨-, ho, -⟩ | ⟨r', rfl, -⟩ | ⟨r', rfl, -⟩ | ⟨r', around, outer, rfl, ho, hclosed⟩ :=
      accepts_afterOperand_cases hrest
    · cases ho
    · exact absurd rfl hand
    · exact absurd rfl hor
    · cases ho
      rw [filter_levelOf] at hclosed
      exact ⟨.group e, r', hv, by simp [UnaryExpr.tokens], hclosed⟩
  · exact ⟨.atom a, rest, trivial, rfl, hr⟩

theorem readsAnd_of_readsUnary (hu : ReadsUnary κ q ks)
    (h : ∀ r : List TokenKind, r.length < ks.length → ReadsAnd κ q r) : ReadsAnd κ q ks := by
  intro l o hn ha
  obtain ⟨u, rest, hv, rfl, hr⟩ := hu l o ha
  rw [addOperand_of_negations hn] at hr
  by_cases hand : rest.head? = some (.keyword .and)
  · obtain ⟨r, rfl⟩ := List.head?_eq_some_iff.1 hand
    obtain ⟨a, rest, hva, rfl, hne, hra⟩ := h r (by simp; omega) _ o rfl (accepts_and_iff.1 hr)
    rw [addOperands_cons] at hra
    exact ⟨.and u a, rest, ⟨hv, hva⟩, by simp [AndExpr.tokens], hne, hra⟩
  · exact ⟨.last u, rest, hv, rfl, hand, hr⟩

theorem readsOr_of_readsAnd (ha : ReadsAnd κ q ks)
    (h : ∀ r : List TokenKind, r.length < ks.length → ReadsOr κ q r) : ReadsOr κ q ks := by
  intro alternatives o hks
  obtain ⟨a, rest, hv, rfl, hand, hr⟩ := ha _ o rfl hks
  by_cases hor : rest.head? = some (.keyword .or)
  · obtain ⟨r, rfl⟩ := List.head?_eq_some_iff.1 hor
    rw [accepts_or_iff, closeAlternative_addOperands] at hr
    obtain ⟨e, rest, hve, rfl, hne, hne', hre⟩ := h r (by simp; omega) _ o hr
    exact ⟨.or a e, rest, ⟨hv, hve⟩, by simp [OrExpr.tokens], hne, hne', hre⟩
  · exact ⟨.last a, rest, hv, rfl, hand, hor, by simpa [addOperands, levelOf] using hr⟩

theorem reads (ks : List TokenKind) : ReadsUnary κ q ks ∧ ReadsAnd κ q ks ∧ ReadsOr κ q ks := by
  induction hn : ks.length using Nat.strongRecOn generalizing ks with
  | ind n ih =>
    subst hn
    have hu : ReadsUnary κ q ks :=
      readsUnary_of_shorter fun r hr ↦ ⟨(ih _ hr r rfl).1, (ih _ hr r rfl).2.2⟩
    have ha : ReadsAnd κ q ks := readsAnd_of_readsUnary hu fun r hr ↦ (ih _ hr r rfl).2.1
    exact ⟨hu, ha, readsOr_of_readsAnd ha fun r hr ↦ (ih _ hr r rfl).2.2⟩

/-! ## Queries -/

theorem accepts_orExpr_iff :
    Accepts ⟨κ, {}, [], .operand⟩ ks q ↔
      ∃ e : OrExpr, e.Valid ∧ e.tokens = ks ∧ q = ⟨κ, e.tree.simplify⟩ := by
  constructor
  · intro h
    obtain ⟨e, rest, hv, rfl, hand, hor, hr⟩ := (reads ks).2.2 [] [] h
    obtain ⟨rfl, -, rfl⟩ | ⟨r, rfl, -⟩ | ⟨r, rfl, -⟩ | ⟨r, around, outer, rfl, ho, -⟩ :=
      accepts_afterOperand_cases hr
    · refine ⟨e, hv, by simp, ?_⟩
      rw [filter_levelOf]
      rfl
    · exact absurd rfl hand
    · exact absurd rfl hor
    · cases ho
  · rintro ⟨e, hv, rfl, rfl⟩
    rw [← List.append_nil e.tokens]
    refine accepts_orExpr e hv ?_
    simp only [Accepts, finish, settled, filter_levelOf]
    rfl

theorem accepts_kind_iff :
    Accepts ⟨κ, l, o, .kind⟩ ks q ↔
      ∃ (k : ElementKind) (rest : List TokenKind), ks = .ident k.plural :: rest ∧
        Accepts ⟨κ.insert k, l, o, .afterKind⟩ rest q := by
  constructor
  · intro h
    obtain _ | ⟨t, r⟩ := ks
    · cases h
    obtain ⟨s, hs, ha⟩ := h
    simp only [step, settled, take, takeKind] at hs
    split at hs
    · split at hs
      · rename_i k hk
        cases hs
        exact ⟨k, r, by rw [ElementKind.ofPlural?_eq_some_iff.1 hk], ha⟩
      · cases hs
    · cases hs
  · rintro ⟨k, rest, rfl, ha⟩
    refine (accepts_cons_iff ?_).2 ha
    simp only [step, settled, take, takeKind, ElementKind.ofPlural?_plural]

theorem accepts_afterKind_iff :
    Accepts ⟨κ, l, o, .afterKind⟩ ks q ↔
      (ks = [] ∧ q = ⟨κ, .always⟩) ∨
      (∃ rest, ks = .comma :: rest ∧ Accepts ⟨κ, l, o, .kind⟩ rest q) ∨
      ∃ rest, ks = .ident "with" :: rest ∧ Accepts ⟨κ, l, o, .operand⟩ rest q := by
  constructor
  · intro h
    obtain _ | ⟨t, r⟩ := ks
    · cases h
      exact .inl ⟨rfl, rfl⟩
    obtain ⟨s, hs, ha⟩ := h
    simp only [step, settled, take, takeAfterKind] at hs
    split at hs
    · cases hs
      exact .inr (.inl ⟨r, rfl, ha⟩)
    · split at hs
      · rename_i hw
        cases hs
        exact .inr (.inr ⟨r, by rw [hw], ha⟩)
      · cases hs
    · cases hs
  · rintro (⟨rfl, rfl⟩ | ⟨rest, rfl, ha⟩ | ⟨rest, rfl, ha⟩)
    · rfl
    · exact ⟨_, rfl, ha⟩
    · exact ⟨_, rfl, ha⟩

theorem accepts_moreKinds_iff :
    Accepts ⟨κ, {}, [], .afterKind⟩ ks q ↔
      ∃ (more : List ElementKind) (f : Option OrExpr), (∀ e ∈ f, e.Valid) ∧
        QuerySyntax.moreKindTokens more ++ QuerySyntax.filterTokens f = ks ∧
        q = ⟨more.foldl KindSet.insert κ, (f.elim .always OrExpr.tree).simplify⟩ := by
  constructor
  · intro h
    induction hn : ks.length using Nat.strongRecOn generalizing ks κ with
    | ind n ih =>
      obtain ⟨rfl, rfl⟩ | ⟨rest, rfl, ha⟩ | ⟨rest, rfl, ha⟩ := accepts_afterKind_iff.1 h
      · exact ⟨[], none, by simp, rfl, rfl⟩
      · obtain ⟨k, r, rfl, hk⟩ := accepts_kind_iff.1 ha
        have hlt : r.length < n := by
          rw [← hn, List.length_cons, List.length_cons]
          omega
        obtain ⟨more, f, hv, rfl, rfl⟩ := ih r.length hlt hk rfl
        exact ⟨k :: more, f, hv, rfl, rfl⟩
      · obtain ⟨e, hv, rfl, rfl⟩ := accepts_orExpr_iff.1 ha
        exact ⟨[], some e, by simpa using hv, rfl, rfl⟩
  · rintro ⟨more, f, hv, rfl, rfl⟩
    induction more generalizing κ with
    | nil =>
      refine accepts_afterKind_iff.2 ?_
      cases f with
      | none => exact .inl ⟨rfl, rfl⟩
      | some e => exact .inr (.inr ⟨e.tokens, rfl, accepts_orExpr_iff.2 ⟨e, hv e rfl, rfl, rfl⟩⟩)
    | cons k more ih =>
      exact accepts_afterKind_iff.2 (.inr (.inl ⟨_, rfl, accepts_kind_iff.2 ⟨k, _, rfl, ih⟩⟩))

theorem accepts_start_iff :
    Accepts {} ks q ↔ ∃ s : QuerySyntax, s.Valid ∧ s.tokens = ks ∧ s.query = q := by
  constructor
  · intro h
    obtain ⟨k, rest, rfl, hk⟩ := accepts_kind_iff.1 h
    obtain ⟨more, f, hv, rfl, rfl⟩ := accepts_moreKinds_iff.1 hk
    exact ⟨⟨k, more, f⟩, hv, rfl, rfl⟩
  · rintro ⟨⟨k, more, f⟩, hv, rfl, rfl⟩
    exact accepts_kind_iff.2 ⟨k, _, rfl, accepts_moreKinds_iff.2 ⟨more, f, hv, rfl, rfl⟩⟩

end SurveyQuests.ParserState

namespace SurveyQuests

open Grammar

/-- **The parser accepts a list of tokens exactly if it can be derived**, and then gives the query
that is derived. -/
theorem parse_eq_ok_iff {ts : List Token} {e : Token} (hts : ∀ t ∈ ts, t.kind ≠ .eof)
    (he : e.kind = .eof) {q : Query} :
    parse (ts ++ [e]) = .ok q ↔
      ∃ s : QuerySyntax, s.Valid ∧ s.tokens = ts.map Token.kind ∧ s.query = q :=
  (ParserState.run_eq_ok_iff hts he {} 0 q).trans ParserState.accepts_start_iff

end SurveyQuests
