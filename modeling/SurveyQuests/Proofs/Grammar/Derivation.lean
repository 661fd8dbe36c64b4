import SurveyQuests.Proofs.Filter.NormalForm
import SurveyQuests.Proofs.Grammar.Parsing
import SurveyQuests.Proofs.Grammar.Unambiguous

/-!
# What the parser gives for a derivation

The parser gives a query exactly for the lists of tokens that have a derivation.  There is only one
then, and the query is read off it: its kinds are the kinds that are listed, its filter is the
normal form of the tree.

The normal form may as well be taken of every *or* and of every *and* as soon as it is complete,
inside the recursion over the grammar: `OrExpr.settledTree` does so, and `OrExpr.settledTree_eq`
says that it comes to the same.
-/

set_option autoImplicit false

namespace SurveyQuests.Grammar

/-! ## Trees come from texts -/

theorem OrExpr.operands_ne_nil (e : OrExpr) : e.operands ≠ [] := by
  cases e <;> exact List.cons_ne_nil _ _

theorem AndExpr.operands_ne_nil (a : AndExpr) : a.operands ≠ [] := by
  cases a <;> exact List.cons_ne_nil _ _

mutual

theorem OrExpr.proper_operands (e : OrExpr) : ∀ f ∈ e.operands, f.Proper :=
  match e with
  | .last a => by
    rw [OrExpr.operands, List.forall_mem_singleton]
    exact .all a.operands_ne_nil a.proper_operands
  | .or a e => by
    rw [OrExpr.operands, List.forall_mem_cons]
    exact ⟨.all a.operands_ne_nil a.proper_operands, e.proper_operands⟩

theorem AndExpr.proper_operands (a : AndExpr) : ∀ f ∈ a.operands, f.Proper :=
  match a with
  | .last u => by
    rw [AndExpr.operands, List.forall_mem_singleton]
    exact u.proper_tree
  | .and u a => by
    rw [AndExpr.operands, List.forall_mem_cons]
    exact ⟨u.proper_tree, a.proper_operands⟩

theorem UnaryExpr.proper_tree (u : UnaryExpr) : u.tree.Proper :=
  match u with
  | .not u | .bang u => .not u.proper_tree
  | .group e => .any e.operands_ne_nil e.proper_operands
  | .atom a => .condition a.condition

end

theorem OrExpr.proper_tree (e : OrExpr) : e.tree.Proper :=
  .any e.operands_ne_nil e.proper_operands

/-! ## Normal forms level by level -/

mutual

/-- The operands of an *or*, each of them brought to its normal form when it is complete. -/
def OrExpr.settledOperands : OrExpr → List Filter
  | .last a => [(Filter.all a.settledOperands).simplify]
  | .or a e => (Filter.all a.settledOperands).simplify :: e.settledOperands

/-- The operands of an *and*, the groups among them brought to their normal forms. -/
def AndExpr.settledOperands : AndExpr → List Filter
  | .last u => [u.settledTree]
  | .and u a => u.settledTree :: a.settledOperands

/-- The filter of an operand, every level of it brought to its normal form when it is complete. -/
def UnaryExpr.settledTree : UnaryExpr → Filter
  | .not u | .bang u => .not u.settledTree
  | .group e => (Filter.any e.settledOperands).simplify
  | .atom a => .condition a.condition

end

/-- The filter of an *or*, every level of it brought to its normal form when it is complete. -/
def OrExpr.settledTree (e : OrExpr) : Filter := (Filter.any e.settledOperands).simplify

theorem simplify_all_map (fs : List Filter) :
    (Filter.all (fs.map Filter.simplify)).simplify = (Filter.all fs).simplify :=
  Filter.simplify_all_congr (Filter.map_simplify_simplify fs)

theorem simplify_any_map (fs : List Filter) :
    (Filter.any (fs.map Filter.simplify)).simplify = (Filter.any fs).simplify :=
  Filter.simplify_any_congr (Filter.map_simplify_simplify fs)

mutual

theorem OrExpr.settledOperands_eq (e : OrExpr) :
    e.settledOperands = e.operands.map Filter.simplify :=
  match e with
  | .last a => by
    rw [OrExpr.settledOperands, a.settledOperands_eq, simplify_all_map]
    rfl
  | .or a e => by
    rw [OrExpr.settledOperands, a.settledOperands_eq, e.settledOperands_eq, simplify_all_map]
    rfl

theorem AndExpr.settledOperands_eq (a : AndExpr) :
    a.settledOperands = a.operands.map Filter.simplify :=
  match a with
  | .last u => by
    rw [AndExpr.settledOperands, u.settledTree_eq]
    rfl
  | .and u a => by
    rw [AndExpr.settledOperands, u.settledTree_eq, a.settledOperands_eq]
    rfl

theorem UnaryExpr.settledTree_eq (u : UnaryExpr) : u.settledTree = u.tree.simplify :=
  match u with
  | .not u => by
    rw [UnaryExpr.settledTree, u.settledTree_eq]
    rfl
  | .bang u => by
    rw [UnaryExpr.settledTree, u.settledTree_eq]
    rfl
  | .group e => by
    rw [UnaryExpr.settledTree, e.settledOperands_eq, simplify_any_map]
    rfl
  | .atom a => rfl

end

/-- **Level by level or once at the end, the normal form is the same.** -/
theorem OrExpr.settledTree_eq (e : OrExpr) : e.settledTree = e.tree.simplify := by
  rw [OrExpr.settledTree, e.settledOperands_eq, simplify_any_map]
  rfl

/-! ## Derivations -/

/-- The filter of a query, every level of it brought to its normal form when it is complete. -/
def QuerySyntax.settledTree (s : QuerySyntax) : Filter := s.filter.elim .always OrExpr.settledTree

theorem QuerySyntax.settledTree_eq (s : QuerySyntax) : s.settledTree = s.tree.simplify := by
  rw [QuerySyntax.settledTree, QuerySyntax.tree]
  cases s.filter with
  | none => rfl
  | some e => exact e.settledTree_eq

/-- There is at most one derivation. -/
instance (ts : List TokenKind) : Subsingleton (Derivation ts) := by
  refine ⟨fun c d ↦ ?_⟩
  obtain ⟨s, hs, hst⟩ := c
  obtain ⟨t, ht, htt⟩ := d
  obtain rfl : s = t := QuerySyntax.eq_of_tokens hs ht (hst.trans htt.symm)
  rfl

end SurveyQuests.Grammar

namespace SurveyQuests

open Grammar

/-- **The parser accepts exactly its grammar and builds the right tree.**  It gives a query for the
lists of tokens that have a derivation, and only for these.  The derivation is unique.  The kinds of
the query are those listed in it, and its filter is the normal form of its tree, whether it is taken
once at the end or level by level. -/
theorem parse_iff_derivation {ts : List Token} {e : Token} (hts : ∀ t ∈ ts, t.kind ≠ .eof)
    (he : e.kind = .eof) :
    ((∃ q, parse (ts ++ [e]) = .ok q) ↔ Nonempty (Derivation (ts.map Token.kind))) ∧
    (∀ c d : Derivation (ts.map Token.kind), c = d) ∧
    ∀ (d : Derivation (ts.map Token.kind)) (q : Query), parse (ts ++ [e]) = .ok q →
      (∀ k : ElementKind, q.kinds.contains k = true ↔ k ∈ d.written.kinds) ∧
      q.filter = d.written.tree.simplify ∧ q.filter = d.written.settledTree := by
  refine ⟨⟨?_, ?_⟩, Subsingleton.elim, ?_⟩
  · rintro ⟨q, hq⟩
    obtain ⟨s, hs, hst, -⟩ := (parse_eq_ok_iff hts he).1 hq
    exact ⟨⟨s, hs, hst⟩⟩
  · rintro ⟨d⟩
    exact ⟨d.written.query, (parse_eq_ok_iff hts he).2 ⟨d.written, d.valid, d.tokens_eq, rfl⟩⟩
  · intro d q hq
    obtain ⟨s, hs, hst, rfl⟩ := (parse_eq_ok_iff hts he).1 hq
    obtain rfl : s = d.written := QuerySyntax.eq_of_tokens hs d.valid (hst.trans d.tokens_eq.symm)
    refine ⟨fun k ↦ ?_, rfl, d.written.settledTree_eq.symm⟩
    rw [QuerySyntax.query, KindSet.contains_ofList, decide_eq_true_eq]

/-- The theorem for the tokens of `nodes with a or !(b)`. -/
theorem parse_iff_derivation_or_bang :
    let kinds : List TokenKind := [.ident "nodes", .ident "with", .ident "a", .keyword .or, .bang,
      .leftParen, .ident "b", .rightParen]
    let ts : List Token := kinds.map fun k ↦ ⟨k, 0⟩
    (∀ t ∈ ts, t.kind ≠ .eof) ∧
      ∃ (d : Derivation (ts.map Token.kind)) (q : Query), parse (ts ++ [⟨.eof, 0⟩]) = .ok q ∧
        (∀ k : ElementKind, q.kinds.contains k = true ↔ k ∈ [ElementKind.node]) ∧
        q.filter = d.written.tree.simplify := by
  intro kinds ts
  have hts : ∀ t ∈ ts, t.kind ≠ .eof := by decide
  obtain ⟨hiff, -, hq⟩ := parse_iff_derivation hts (e := ⟨.eof, 0⟩) rfl
  let a : UnaryExpr := .atom (.tagged (.ident "a") .present)
  let b : UnaryExpr := .atom (.tagged (.ident "b") .present)
  let s : QuerySyntax :=
    ⟨.node, [], some (.or (.last a) (.last (.last (.bang (.group (.last (.last b)))))))⟩
  let d : Derivation (ts.map Token.kind) := ⟨s, by
    intro e he
    cases he
    exact ⟨trivial, rfl, trivial⟩, rfl⟩
  obtain ⟨q, hparse⟩ := hiff.2 ⟨d⟩
  obtain ⟨hkinds, hfilter, -⟩ := hq d q hparse
  exact ⟨hts, d, q, hparse, hkinds, hfilter⟩

end SurveyQuests
