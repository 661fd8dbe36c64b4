import SurveyQuests.Proofs.Filter.Meaning

/-!
# Filters that say the opposite

A condition on the presence of a key, on the keys that match, on the text of a value or on a choice
of texts has an opposite: the same condition with its negation flipped, or with `=` and `!=`
exchanged.  The opposite holds exactly where the condition does not, and that includes the elements
without a tag for the key, since what a condition says about them is turned round together with what
it says about the others.

Comparisons of numbers and of days have no opposite: whatever they compare with, they are false for
an element about which nothing is known, and so no two of them say opposite things
(`Condition.not_complementary`).

With the opposites at the leaves, the laws of De Morgan give the dual of a filter.

## What is here

* `Condition.opposite?`, `Condition.holds_opposite` — the opposite of a condition;
* `Filter.dual`, `Filter.holds_dual` — the dual of a filter;
* `Filter.holds_oneOf`, `Filter.holds_notOneOf` — a choice of values, taken apart value by value;
* `Filter.dual_is_complement` — **the dual of a filter is its exact complement**.
-/

set_option autoImplicit false

namespace SurveyQuests

/-! ## Conditions -/

namespace Condition

/-- The condition of the same form that says the opposite, where there is one. -/
def opposite? : Condition → Option Condition
  | .hasKey key negated => some (.hasKey key !negated)
  | .keyMatches pattern negated => some (.keyMatches pattern !negated)
  | .compares key .eq value => some (.compares key .ne value)
  | .compares key .ne value => some (.compares key .eq value)
  | .valueMatches key pattern negated => some (.valueMatches key pattern !negated)
  | .oneOf key values negated => some (.oneOf key values !negated)
  | .compares _ .lt _ | .compares _ .le _ | .compares _ .gt _ | .compares _ .ge _ => none
  | .numeric _ _ _ | .date _ _ _ => none

section

variable (e : Element) (ctx : EvalContext)

/-- **The opposite of a condition holds exactly where the condition does not**, whether or not there
is a tag for its key. -/
theorem holds_opposite {c d : Condition} (h : c.opposite? = some d) :
    d.holds e ctx = !c.holds e ctx := by
  cases c with
  | hasKey key negated =>
    cases h
    exact Bool.bne_not _ _
  | keyMatches pattern negated =>
    cases h
    exact Bool.bne_not _ _
  | compares key op value =>
    cases op with
    | eq =>
      cases h
      cases hkey : e.tags.get? key with
      | none => simp only [holds, hkey]; rfl
      | some actual => simp only [holds, hkey]; rfl
    | ne =>
      cases h
      cases hkey : e.tags.get? key with
      | none => simp only [holds, hkey]; rfl
      | some actual =>
        simp only [holds, hkey]
        exact (Bool.not_not _).symm
    | _ => cases h
  | valueMatches key pattern negated =>
    cases h
    cases hkey : e.tags.get? key with
    | none => simp only [holds, hkey]
    | some actual =>
      simp only [holds, hkey]
      exact Bool.bne_not _ _
  | oneOf key values negated =>
    cases h
    cases hkey : e.tags.get? key with
    | none => simp only [holds, hkey]
    | some actual =>
      simp only [holds, hkey]
      exact Bool.bne_not _ _
  | numeric => cases h
  | date => cases h

/-- A condition without an opposite is false for an element without tags and without an edit. -/
theorem holds_of_bare {c : Condition} (h : c.opposite? = none) (kind : ElementKind) :
    c.holds { kind } ctx = false := by
  cases c with
  | compares key op value =>
    cases op with
    | eq | ne => cases h
    | _ => rfl
  | numeric => rfl
  | date target direction anchor =>
    cases target with
    | element => rfl
    | tag keys =>
      -- Without tags no date is known, whatever the keys are.
      have hnone : keys.candidates.any Tags.empty.contains = false :=
        List.any_eq_false.2 fun _ _ ↦ Bool.false_ne_true
      have hbare : knownDate? (.tag keys) direction { kind } ctx.policy = none := by
        rw [knownDate?]
        exact if_neg (by rw [hnone]; exact Bool.false_ne_true)
      rw [holds, hbare]
  | _ => cases h

/-- **No two of the conditions without an opposite say opposite things.** -/
theorem not_complementary {c d : Condition} (hc : c.opposite? = none) (hd : d.opposite? = none) :
    ¬ ∀ e : Element, d.holds e ctx = !c.holds e ctx := by
  intro h
  have hbare := h { kind := .node }
  rw [holds_of_bare ctx hc, holds_of_bare ctx hd] at hbare
  cases hbare

end

end Condition

namespace Filter

/-! ## Filters -/

mutual

/-- The dual of a filter: the opposite of a condition, *or* for *and* and *and* for *or* with the
duals of the operands, and one negation less.  Under a negation of its own stands a condition that
has no opposite, as comparisons of numbers and days have none. -/
def dual : Filter → Filter
  | .condition c => c.opposite?.elim (.not (.condition c)) .condition
  | .all fs => .any (dualList fs)
  | .any fs => .all (dualList fs)
  | .not f => f
  | .always => .any []

/-- The duals of filters. -/
def dualList : List Filter → List Filter
  | [] => []
  | f :: fs => f.dual :: dualList fs

end

theorem dualList_eq_map (fs : List Filter) : dualList fs = fs.map dual := by
  induction fs with
  | nil => rfl
  | cons f fs ih => rw [dualList, ih, List.map_cons]

section

variable (e : Element) (ctx : EvalContext)

/-- **The dual of a filter holds exactly where the filter does not.** -/
theorem holds_dual (f : Filter) : f.dual.holds e ctx = !f.holds e ctx := by
  induction f using Filter.induction with
  | condition c =>
    rw [dual]
    cases h : c.opposite? with
    | none => rfl
    | some d => exact Condition.holds_opposite e ctx h
  | always => rfl
  | not f ih => rw [dual, holds, Bool.not_not]
  | all fs ih =>
    rw [dual, dualList_eq_map, holds_any, holds_all, List.any_map, List.not_all_eq_any_not]
    exact any_congr ih
  | any fs ih =>
    rw [dual, dualList_eq_map, holds_all, holds_any, List.all_map, List.not_any_eq_all_not]
    exact all_congr ih

/-! ## Choices of values -/

/-- The comparisons of a key with the values of a list. -/
def comparisons (key : String) (op : Comparison) (values : List String) : List Filter :=
  values.map fun value ↦ .condition (.compares key op value)

/-- The value of a key is among the values if it is equal to one of them. -/
theorem holds_oneOf (key : String) (values : List String) :
    holds e ctx (.condition (.oneOf key values false)) =
      holds e ctx (.any (comparisons key .eq values)) := by
  rw [holds_any, comparisons, List.any_map, holds, Condition.holds]
  cases hkey : e.tags.get? key with
  | none =>
    have hnone : ∀ value ∈ values,
        ¬ (Condition.compares key .eq value).holds e ctx = true := fun value _ ↦ by
      simp only [Condition.holds, hkey]
      decide
    exact (List.any_eq_false.2 hnone).symm
  | some actual =>
    have hsome : ∀ value : String,
        (Condition.compares key .eq value).holds e ctx = (actual == value) := fun value ↦ by
      simp only [Condition.holds, hkey]
      rfl
    simp only [Function.comp_def, holds, hsome, Bool.bne_false, List.contains_eq_any_beq]

/-- The duals of comparisons for equality are those for inequality. -/
theorem map_dual_comparisons (key : String) (values : List String) :
    (comparisons key .eq values).map dual = comparisons key .ne values := by
  rw [comparisons, comparisons, List.map_map]
  rfl

/-- The value of a key is not among the values if it differs from all of them. -/
theorem holds_notOneOf (key : String) (values : List String) :
    holds e ctx (.condition (.oneOf key values true)) =
      holds e ctx (.all (comparisons key .ne values)) := by
  have hchoice := holds_dual e ctx (.condition (.oneOf key values false))
  have hparts := holds_dual e ctx (.any (comparisons key .eq values))
  rw [dual, dualList_eq_map, map_dual_comparisons] at hparts
  rw [hparts, ← holds_oneOf, ← hchoice]
  rfl

end

/-- **The dual of a filter is its exact complement**, on every element and in every context, with or
without tags for the keys that it names; and a choice of values says what the comparisons with the
single values say, put together by *or*, and by *and* where it is negated. -/
theorem dual_is_complement :
    (∀ (f : Filter) (e : Element) (ctx : EvalContext), f.dual.holds e ctx = !f.holds e ctx) ∧
    ∀ (key : String) (values : List String) (e : Element) (ctx : EvalContext),
      holds e ctx (.condition (.oneOf key values false)) =
        holds e ctx (.any (values.map fun value ↦ .condition (.compares key .eq value))) ∧
      holds e ctx (.condition (.oneOf key values true)) =
        holds e ctx (.all (values.map fun value ↦ .condition (.compares key .ne value))) :=
  ⟨fun f e ctx ↦ holds_dual e ctx f,
    fun key values e ctx ↦ ⟨holds_oneOf e ctx key values, holds_notOneOf e ctx key values⟩⟩

end Filter

end SurveyQuests
