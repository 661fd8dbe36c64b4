import SurveyQuests.Proofs.Filter.NormalForm

/-!
# The parts of a filter

The parts of a filter are the filter itself and, at any depth, the filters that it is put together
from.  What normal and proper filters look like can be said by their parts: this is the form in
which a filter is looked at from outside, where only its shape is known and not where it comes from.

## What is here

* `Filter.parts`, `Filter.mem_parts_self`, `Filter.condition_mem_parts_iff`;
* `Normal.of_mem_parts`, `Proper.of_mem_parts` — parts of a normal and of a proper filter;
* `Normal.all_operands`, `Normal.any_operands` — the operands in a normal filter;
* `proper_of_parts` — proper filters by their parts;
* `simplify_settles` — **what one pass of simplifying brings about**.
-/

set_option autoImplicit false

namespace SurveyQuests.Filter

mutual

/-- The filter itself and all filters inside it. -/
def parts : Filter → List Filter
  | .condition c => [.condition c]
  | .all fs => .all fs :: partsOfList fs
  | .any fs => .any fs :: partsOfList fs
  | .not f => .not f :: f.parts
  | .always => [.always]

/-- The filters of a list and all filters inside them. -/
def partsOfList : List Filter → List Filter
  | [] => []
  | f :: fs => f.parts ++ partsOfList fs

end

variable {f g : Filter}

theorem mem_partsOfList {fs : List Filter} : g ∈ partsOfList fs ↔ ∃ f ∈ fs, g ∈ f.parts := by
  induction fs with
  | nil => simp [partsOfList]
  | cons f fs ih => simp [partsOfList, ih]

@[simp] theorem mem_parts_all {fs : List Filter} :
    g ∈ (all fs).parts ↔ g = .all fs ∨ ∃ f ∈ fs, g ∈ f.parts := by
  simp [parts, mem_partsOfList]

@[simp] theorem mem_parts_any {fs : List Filter} :
    g ∈ (any fs).parts ↔ g = .any fs ∨ ∃ f ∈ fs, g ∈ f.parts := by
  simp [parts, mem_partsOfList]

@[simp] theorem mem_parts_not : g ∈ (not f).parts ↔ g = .not f ∨ g ∈ f.parts := by
  simp [parts]

@[simp] theorem mem_parts_condition {c : Condition} :
    g ∈ (condition c).parts ↔ g = .condition c := by
  simp [parts]

@[simp] theorem mem_parts_always : g ∈ always.parts ↔ g = .always := by
  simp [parts]

theorem mem_parts_self (f : Filter) : f ∈ f.parts := by
  cases f <;> simp

/-- The conditions of a filter are its smallest parts. -/
theorem condition_mem_parts_iff {c : Condition} : .condition c ∈ f.parts ↔ c ∈ f.conditions := by
  induction f using Filter.induction with
  | condition d => simp [conditions]
  | all fs ih =>
    simp only [mem_parts_all, reduceCtorEq, false_or, conditions_all, List.mem_flatMap]
    exact exists_congr fun f ↦ and_congr_right (ih f)
  | any fs ih =>
    simp only [mem_parts_any, reduceCtorEq, false_or, conditions_any, List.mem_flatMap]
    exact exists_congr fun f ↦ and_congr_right (ih f)
  | not f ih => simpa [conditions] using ih
  | always => simp [conditions]

/-- Every part of a normal filter is normal. -/
theorem Normal.of_mem_parts (h : Normal f) (hg : g ∈ f.parts) : Normal g := by
  induction h with
  | condition c => exact mem_parts_condition.1 hg ▸ .condition c
  | always => exact mem_parts_always.1 hg ▸ .always
  | not normal ih =>
    rcases mem_parts_not.1 hg with rfl | hg
    · exact .not normal
    · exact ih hg
  | all two normal flat ih =>
    rcases mem_parts_all.1 hg with rfl | ⟨f, hf, hg⟩
    · exact .all two normal flat
    · exact ih f hf hg
  | any two normal flat ih =>
    rcases mem_parts_any.1 hg with rfl | ⟨f, hf, hg⟩
    · exact .any two normal flat
    · exact ih f hf hg

/-- An *and* that is normal has two operands, none of them an *and*. -/
theorem Normal.all_operands {fs : List Filter} (h : Normal (.all fs)) :
    2 ≤ fs.length ∧ ∀ gs, .all gs ∉ fs := by
  cases h with
  | all two normal flat =>
    refine ⟨two, fun gs hgs ↦ ?_⟩
    have hgs' : gs = [.all gs] := flat _ hgs
    cases normal _ hgs with
    | all two' =>
      rw [hgs'] at two'
      simp at two'

/-- An *or* that is normal has two operands, none of them an *or*. -/
theorem Normal.any_operands {fs : List Filter} (h : Normal (.any fs)) :
    2 ≤ fs.length ∧ ∀ gs, .any gs ∉ fs := by
  cases h with
  | any two normal flat =>
    refine ⟨two, fun gs hgs ↦ ?_⟩
    have hgs' : gs = [.any gs] := Option.some.inj (flat _ hgs)
    cases normal _ hgs with
    | any two' =>
      rw [hgs'] at two'
      simp at two'

/-- The empty condition is no operand of an *and* that is normal. -/
theorem Normal.always_notMem_all {fs : List Filter} (h : Normal (.all fs)) : .always ∉ fs := by
  cases h with
  | all _ _ flat => exact fun hmem ↦ List.cons_ne_nil _ _ (flat _ hmem).symm

/-- The empty condition is no operand of an *or* that is normal. -/
theorem Normal.always_notMem_any {fs : List Filter} (h : Normal (.any fs)) : .always ∉ fs := by
  cases h with
  | any _ _ flat => exact fun hmem ↦ Option.some_ne_none _ (flat _ hmem).symm

/-- Every part of a proper filter is proper. -/
theorem Proper.of_mem_parts (h : Proper f) (hg : g ∈ f.parts) : Proper g := by
  induction h with
  | condition c => exact mem_parts_condition.1 hg ▸ .condition c
  | not proper ih =>
    rcases mem_parts_not.1 hg with rfl | hg
    · exact .not proper
    · exact ih hg
  | all ne proper ih =>
    rcases mem_parts_all.1 hg with rfl | ⟨f, hf, hg⟩
    · exact .all ne proper
    · exact ih f hf hg
  | any ne proper ih =>
    rcases mem_parts_any.1 hg with rfl | ⟨f, hf, hg⟩
    · exact .any ne proper
    · exact ih f hf hg

/-- The empty condition is no part of a proper filter. -/
theorem Proper.always_notMem_parts (h : Proper f) : .always ∉ f.parts :=
  fun halways ↦ nomatch h.of_mem_parts halways

/-- A filter is proper if the empty condition is not in it, and every *and* and every *or* in it has
an operand. -/
theorem proper_of_parts (halways : .always ∉ f.parts)
    (hall : ∀ fs, .all fs ∈ f.parts → fs ≠ []) (hany : ∀ fs, .any fs ∈ f.parts → fs ≠ []) :
    Proper f := by
  induction f using Filter.induction with
  | condition c => exact .condition c
  | always => exact absurd (mem_parts_self _) halways
  | not f ih =>
    have hsub : ∀ g ∈ f.parts, g ∈ (not f).parts := fun g hg ↦ mem_parts_not.2 (.inr hg)
    exact .not (ih (mt (hsub _) halways) (fun gs hgs ↦ hall gs (hsub _ hgs))
      fun gs hgs ↦ hany gs (hsub _ hgs))
  | all fs ih =>
    refine .all (hall fs (mem_parts_self _)) fun f hf ↦ ?_
    have hsub : ∀ g ∈ f.parts, g ∈ (all fs).parts := fun g hg ↦ mem_parts_all.2 (.inr ⟨f, hf, hg⟩)
    exact ih f hf (mt (hsub _) halways) (fun gs hgs ↦ hall gs (hsub _ hgs))
      fun gs hgs ↦ hany gs (hsub _ hgs)
  | any fs ih =>
    refine .any (hany fs (mem_parts_self _)) fun f hf ↦ ?_
    have hsub : ∀ g ∈ f.parts, g ∈ (any fs).parts := fun g hg ↦ mem_parts_any.2 (.inr ⟨f, hf, hg⟩)
    exact ih f hf (mt (hsub _) halways) (fun gs hgs ↦ hall gs (hsub _ hgs))
      fun gs hgs ↦ hany gs (hsub _ hgs)

/-! ## One pass of simplifying -/

/-- **One pass of simplifying reaches the normal form**: simplifying again changes nothing; every
*and* and every *or* in the normal form, at any depth and below negations too, has two operands at
least, none of them the empty condition or of its own kind; and the conditions stay as they are, in
their order and with no empty condition among them, if the filter has no empty condition and no
empty *and* or *or* in it. -/
theorem simplify_settles (f : Filter) :
    f.simplify.simplify = f.simplify ∧
      (∀ fs, .all fs ∈ f.simplify.parts →
        2 ≤ fs.length ∧ .always ∉ fs ∧ ∀ gs, .all gs ∉ fs) ∧
      (∀ fs, .any fs ∈ f.simplify.parts →
        2 ≤ fs.length ∧ .always ∉ fs ∧ ∀ gs, .any gs ∉ fs) ∧
      (.always ∉ f.parts → .all [] ∉ f.parts → .any [] ∉ f.parts →
        .always ∉ f.simplify.parts ∧ f.simplify.conditions = f.conditions) := by
  refine ⟨simplify_simplify f, fun fs hfs ↦ ?_, fun fs hfs ↦ ?_, fun halways hall hany ↦ ?_⟩
  · have hnormal := (normal_simplify f).of_mem_parts hfs
    exact ⟨hnormal.all_operands.1, hnormal.always_notMem_all, hnormal.all_operands.2⟩
  · have hnormal := (normal_simplify f).of_mem_parts hfs
    exact ⟨hnormal.any_operands.1, hnormal.always_notMem_any, hnormal.any_operands.2⟩
  · have hproper : Proper f := by
      refine proper_of_parts halways ?_ ?_
      · rintro fs hfs rfl
        exact hall hfs
      · rintro fs hfs rfl
        exact hany hfs
    exact ⟨hproper.simplify.always_notMem_parts, conditions_simplify hproper⟩

/-- The conditions of a filter with groups of one, an *and* inside an *and* and an *or* below a
negation inside an *or*. -/
theorem simplify_settles_groups :
    let shop : Filter := .condition (.hasKey "shop" false)
    let name : Filter := .condition (.compares "name" .ne "Foo")
    let f : Filter := .all [.all [shop, .any [name]], .not (.any [.any [name, shop], .all [shop]])]
    (.always ∉ f.parts ∧ .all [] ∉ f.parts ∧ .any [] ∉ f.parts) ∧
      f.simplify = .all [shop, name, .not (.any [name, shop, shop])] ∧
      f.simplify.conditions = f.conditions := by
  intro shop name f
  have hparts : .always ∉ f.parts ∧ .all [] ∉ f.parts ∧ .any [] ∉ f.parts := by
    simp [f, shop, name]
  obtain ⟨-, hconditions⟩ := (simplify_settles f).2.2.2 hparts.1 hparts.2.1 hparts.2.2
  exact ⟨hparts, rfl, hconditions⟩

end SurveyQuests.Filter
