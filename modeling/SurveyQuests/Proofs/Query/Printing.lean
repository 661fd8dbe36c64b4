import SurveyQuests.Proofs.Filter.Meaning
import SurveyQuests.Proofs.Query.Rendering

/-!
# Printing filters that were not compiled

A filter need not come from a text: it may be put together by hand, with an *and* inside an *and*
or an *or* of a single filter.  Its text compiles all the same, with parentheses where the filter
has superfluous groups, and what it compiles to is the filter in normal form, which says the same.

Which filters have such a text is decided part by part (`Filter.Printable`).

## What is here

* `Filter.Printable` — the parts that can be written and read back;
* `CompiledQuery.compile_text_of_printable` — what the text compiles to;
* `CompiledQuery.compile_text_simplifies` — **the text of a query by hand** compiles to its normal
  form.
-/

set_option autoImplicit false

namespace SurveyQuests

instance (anchor : DateAnchor) : Decidable anchor.Writable :=
  match anchor with
  | .relative _ _ => inferInstanceAs (Decidable (_ ∧ _))
  | .fixed d => inferInstanceAs (Decidable (0 ≤ d.year))

instance (target : DateTarget) : Decidable target.Writable :=
  match target with
  | .element => .isTrue trivial
  | .tag keys => inferInstanceAs (Decidable (keys = .ofKey keys.key))

instance (c : Condition) : Decidable c.Writable :=
  match c with
  | .compares _ _ _ => inferInstanceAs (Decidable (_ ∨ _))
  | .oneOf _ values _ => inferInstanceAs (Decidable (2 ≤ values.length))
  | .numeric _ _ _ => inferInstanceAs (Decidable ((_ ∧ _) ∧ _))
  | .date _ _ _ => inferInstanceAs (Decidable (_ ∧ _))
  | .hasKey _ _ | .keyMatches _ _ | .valueMatches _ _ _ => .isTrue trivial

namespace Filter

/-- May a filter that is read back from its text have this part?  Groups have an operand, conditions
can be written and their keys are no numerals, and there is no text for the empty condition. -/
def Printable : Filter → Prop
  | .condition c => c.Writable ∧ ∀ key ∈ c.key?, isPlainNumber key.toList = false
  | .all fs | .any fs => fs ≠ []
  | .not _ => True
  | .always => False

instance (f : Filter) : Decidable f.Printable :=
  match f with
  | .condition _ => inferInstanceAs (Decidable (_ ∧ _))
  | .all fs | .any fs => inferInstanceAs (Decidable (fs ≠ []))
  | .not _ => .isTrue trivial
  | .always => .isFalse id

theorem proper_of_printable {f : Filter} (h : ∀ g ∈ f.parts, g.Printable) : f.Proper :=
  proper_of_parts (fun hg ↦ h .always hg) (fun fs hg ↦ h (.all fs) hg) fun fs hg ↦ h (.any fs) hg

end Filter

namespace CompiledQuery

variable {q : Query}

/-- The text of a query compiles to the query with its filter in normal form, if all parts of the
filter can be printed. -/
theorem compile_text_of_printable (hkinds : q.kinds.toList ≠ [])
    (h : ∀ g ∈ q.filter.parts, g.Printable) :
    compile q.text = .ok ⟨q.text, ⟨q.kinds, q.filter.simplify⟩, .conservative⟩ := by
  have hcondition : ∀ c ∈ q.filter.conditions, c.Writable ∧
      ∀ key ∈ c.key?, isPlainNumber key.toList = false :=
    fun c hc ↦ h (.condition c) (Filter.condition_mem_parts_iff.2 hc)
  exact compile_text_of_proper hkinds (Filter.proper_of_printable h)
    (fun c hc ↦ (hcondition c hc).1) fun c hc ↦ (hcondition c hc).2

/-- **The text of a query by hand compiles**, to a query for the same kinds with the filter in
normal form, and this holds for the same elements. -/
theorem compile_text_simplifies (hkinds : q.kinds.toList ≠ [])
    (h : ∀ g ∈ q.filter.parts, g.Printable) :
    ∃ c, compile q.text = .ok c ∧ c.query.kinds = q.kinds ∧
      c.query.filter = q.filter.simplify ∧
      ∀ (e : Element) (day : Date), c.holds e day = q.holds e ⟨day, .conservative⟩ := by
  refine ⟨_, compile_text_of_printable hkinds h, rfl, rfl, fun e day ↦ ?_⟩
  have hfilter := Filter.holds_simplify e ⟨day, .conservative⟩ (Filter.proper_of_printable h)
  rw [holds, Query.holds, Query.holds, hfilter]

/-- The theorem for groups inside groups of the same kind, and groups of one. -/
theorem compile_text_simplifies_groups :
    ∃ c, compile "nodes with (shop) and (name != 12 and ((!a) or (b and c) or not (d)))" = .ok c ∧
      c.query.filter = .all [.condition (.hasKey "shop" false),
        .condition (.compares "name" .ne "12"),
        .any [.condition (.hasKey "a" true),
          .all [.condition (.hasKey "b" false), .condition (.hasKey "c" false)],
          .not (.condition (.hasKey "d" false))]] := by
  let q : Query := ⟨.ofList [.node], .all [.any [.condition (.hasKey "shop" false)],
    .all [.condition (.compares "name" .ne "12"), .any [.any [.condition (.hasKey "a" true)],
      .all [.condition (.hasKey "b" false), .condition (.hasKey "c" false)],
      .not (.all [.condition (.hasKey "d" false)])]]]⟩
  have hsource :
      q.text = "nodes with (shop) and (name != 12 and ((!a) or (b and c) or not (d)))" := by
    decide +kernel
  obtain ⟨c, hc, -, hfilter, -⟩ := compile_text_simplifies (q := q) (by decide) (by decide +kernel)
  exact ⟨c, hsource ▸ hc, hfilter⟩

end CompiledQuery

end SurveyQuests
