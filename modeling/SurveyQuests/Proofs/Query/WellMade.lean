import SurveyQuests.Proofs.Calendar.GoingBack
import SurveyQuests.Proofs.Query.Printing

/-!
# What every compiled query looks like

The types of queries and filters leave room for much that no source compiles to: an *and* of
nothing, an order between texts, a day before year 0.  Printing and evaluating rely on these not
being there.
`Query.WellMade` says all that may be relied on, for every part of the filter at any depth, and
`compile_wellMade` that it holds of every compiled query.

The shape of the filter is that of normal forms, and what is granted of single conditions is that
they can be written.  The filter is the empty condition only where the source has no filter: the
tree of an expression is proper, and stays so when it is simplified.

## What is here

* `Query.WellMade`;
* `with_mem_tokens_iff` — where the word `with` stands;
* `CompiledQuery.compile_wellMade` — **every compiled query is well made**.
-/

set_option autoImplicit false

namespace SurveyQuests

/-- What may be relied on in a compiled query. -/
structure Query.WellMade (q : Query) : Prop where
  /-- It is about some kind of elements. -/
  kinds : ∃ k, q.kinds.contains k = true
  /-- Its filter cannot be made simpler. -/
  simplified : q.filter.simplify = q.filter
  /-- Every *and* has two operands, none of them an *and*. -/
  all : ∀ fs, .all fs ∈ q.filter.parts → 2 ≤ fs.length ∧ ∀ gs, .all gs ∉ fs
  /-- Every *or* has two operands, none of them an *or*. -/
  any : ∀ fs, .any fs ∈ q.filter.parts → 2 ≤ fs.length ∧ ∀ gs, .any gs ∉ fs
  /-- The empty condition is the whole filter or nowhere in it. -/
  always : .always ∈ q.filter.parts → q.filter = .always
  /-- Texts are compared for equality. -/
  compares : ∀ key op value, .condition (.compares key op value) ∈ q.filter.parts →
    op = .eq ∨ op = .ne
  /-- Numbers are finite, and compared by order. -/
  numeric : ∀ key op value, .condition (.numeric key op value) ∈ q.filter.parts →
    op ∈ [.lt, .le, .gt, .ge] ∧ value.isFinite = true
  /-- There are at least two values to choose from. -/
  oneOf : ∀ key values negated, .condition (.oneOf key values negated) ∈ q.filter.parts →
    2 ≤ values.length
  /-- Days are counted back by a finite number that is not negative. -/
  relative : ∀ target direction magnitude unit,
    .condition (.date target direction (.relative magnitude unit)) ∈ q.filter.parts →
      magnitude.isFinite = true ∧ Binary64.zero.le magnitude = true
  /-- Days of the calendar have a year of at most four digits. -/
  fixed : ∀ target direction d, .condition (.date target direction (.fixed d)) ∈ q.filter.parts →
    0 ≤ d.year ∧ d.year ≤ 9999
  /-- The date of a key is looked for under the key and the check date keys made from it. -/
  surveys : ∀ keys direction anchor,
    .condition (.date (.tag keys) direction anchor) ∈ q.filter.parts → keys = .ofKey keys.key

/-! ## The clause with the filter -/

/-- The word `with` stands in a query just if there is a filter. -/
theorem with_mem_tokens_iff (s : Grammar.QuerySyntax) :
    .ident "with" ∈ s.tokens ↔ s.filter ≠ none := by
  have hplural : ∀ k : ElementKind, TokenKind.ident "with" ≠ .ident k.plural := by
    intro k
    cases k <;> decide
  obtain ⟨k, more, filter⟩ := s
  cases filter with
  | some e => simp [Grammar.QuerySyntax.tokens, Grammar.QuerySyntax.filterTokens]
  | none =>
    simp [Grammar.QuerySyntax.tokens, Grammar.QuerySyntax.filterTokens,
      Grammar.QuerySyntax.moreKindTokens, hplural]

/-- The filter of a query is the empty condition just if none is written. -/
theorem filter_query_eq_always_iff (s : Grammar.QuerySyntax) :
    s.query.filter = .always ↔ s.filter = none := by
  obtain ⟨k, more, filter⟩ := s
  cases filter with
  | none => simp [Grammar.QuerySyntax.query, Grammar.QuerySyntax.tree, Filter.simplify]
  | some e =>
    have hproper := e.proper_tree.simplify
    have hfilter : (Grammar.QuerySyntax.query ⟨k, more, some e⟩).filter = e.tree.simplify := rfl
    rw [hfilter]
    refine iff_of_false (fun h ↦ ?_) (by simp)
    rw [h] at hproper
    cases hproper

namespace CompiledQuery

variable {source : String} {c : CompiledQuery}

/-- A source compiles to the empty condition just if the word `with` is not among its tokens. -/
theorem filter_eq_always_iff (h : compile source = .ok c) :
    ∃ ts, tokenize source = .ok ts ∧
      (c.query.filter = .always ↔ .ident "with" ∉ ts.map Token.kind) := by
  obtain ⟨s, -, hlex, rfl⟩ := compile_eq_ok_iff.1 h
  obtain ⟨us, e, hts, hus, he⟩ := hlex.tokenizeFrom_eq_ok 0
  refine ⟨us ++ [e], hts, ?_⟩
  rw [filter_query_eq_always_iff, List.map_append, hus, List.map_singleton, he, List.mem_append,
    List.mem_singleton, with_mem_tokens_iff]
  simp

/-- **Every compiled query is well made**, and its filter is the empty condition exactly if the
source has no clause with a filter. -/
theorem compile_wellMade (h : compile source = .ok c) :
    c.query.WellMade ∧ ∃ ts, tokenize source = .ok ts ∧
      (c.query.filter = .always ↔ .ident "with" ∉ ts.map Token.kind) := by
  obtain ⟨hkinds, hnormal, hfilter, hwritable⟩ := filter_of_compile h
  have hwritable : ∀ condition, .condition condition ∈ c.query.filter.parts → condition.Writable :=
    fun condition hc ↦ hwritable condition (Filter.condition_mem_parts_iff.1 hc)
  refine ⟨?_, filter_eq_always_iff h⟩
  exact {
    kinds := by
      obtain ⟨k, hk⟩ := List.exists_mem_of_ne_nil _ hkinds
      exact ⟨k, (List.mem_filter.1 hk).2⟩
    simplified := Filter.simplify_of_normal hnormal
    all := fun fs hfs ↦ (hnormal.of_mem_parts hfs).all_operands
    any := fun fs hfs ↦ (hnormal.of_mem_parts hfs).any_operands
    always := by
      intro halways
      rcases hfilter with hfilter | hproper
      · exact hfilter
      · cases hproper.of_mem_parts halways
    compares := fun key op value hc ↦ hwritable _ hc
    numeric := by
      intro key op value hc
      obtain ⟨hop, hfinite⟩ := hwritable _ hc
      refine ⟨?_, hfinite⟩
      cases op <;> simp_all
    oneOf := fun key values negated hc ↦ hwritable _ hc
    relative := by
      intro target direction magnitude unit hc
      obtain ⟨-, hfinite, hsign⟩ := hwritable _ hc
      exact ⟨hfinite, Binary64.zero_le_of_isFinite hfinite hsign⟩
    fixed := fun target direction d hc ↦ ⟨(hwritable _ hc).2, d.isDay.1.2⟩
    surveys := fun keys direction anchor hc ↦ (hwritable _ hc).1 }

/-- The theorem for a filter with groups inside each other. -/
theorem compile_wellMade_groups :
    let source :=
      "nodes with (shop = a, b or not (width >= 2.5 and shop older today -1 years)) and c"
    ∃ c, compile source = .ok c ∧ c.query.WellMade ∧ c.query.filter ≠ .always := by
  intro source
  let q : Query := ⟨.ofList [.node], .all [.any [.condition (.oneOf "shop" ["a", "b"] false),
    .not (.all [.condition (.numeric "width" .ge (.ofRatio false 5 2)),
      .condition (.date (.tag (.ofKey "shop")) .older (.relative (.ofRatio false 1 1) .years))])],
    .condition (.hasKey "c" false)]⟩
  have hsource : q.text = source := by decide +kernel
  have hcompile := compile_text_of_printable (q := q) (by decide) (by decide +kernel)
  rw [hsource] at hcompile
  obtain ⟨hmade, -⟩ := compile_wellMade hcompile
  exact ⟨_, hcompile, hmade, nofun⟩

end CompiledQuery

end SurveyQuests
