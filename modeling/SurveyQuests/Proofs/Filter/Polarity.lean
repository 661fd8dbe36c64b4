import Mathlib.Algebra.Ring.Parity
import SurveyQuests.Filter.Eval
import SurveyQuests.Proofs.Filter.NormalForm

/-!
# Conditions under negations

A filter says more the more its conditions say, as far as these stand under an even number of
negations, and less as far as they stand under an odd number.  To put it that way the conditions are
taken apart from the filter: `Filter.holdsBy` evaluates a filter by any test of conditions, and
`Filter.holdsBy_mono` compares two tests.  For the test that asks whether a condition holds for an
element this is `Filter.holds`.

## What is here

* `Filter.holdsBy`, `Filter.holds_eq_holdsBy` — the meaning of a filter by that of its conditions;
* `Filter.StandsUnder` — where a condition stands in a filter;
* `Filter.holdsBy_mono` — **what follows for the filter from what follows for its conditions**.
-/

set_option autoImplicit false

namespace SurveyQuests.Filter

/-! ## The meaning by the conditions -/

mutual

/-- Does the filter hold if a condition holds exactly when it passes the test? -/
def holdsBy (test : Condition → Bool) : Filter → Bool
  | .condition c => test c
  | .all fs => allHoldBy test fs
  | .any fs => anyHoldsBy test fs
  | .not f => !f.holdsBy test
  | .always => true

/-- Do all filters of a list hold by the test? -/
def allHoldBy (test : Condition → Bool) : List Filter → Bool
  | [] => true
  | f :: fs => f.holdsBy test && allHoldBy test fs

/-- Does some filter of a list hold by the test? -/
def anyHoldsBy (test : Condition → Bool) : List Filter → Bool
  | [] => false
  | f :: fs => f.holdsBy test || anyHoldsBy test fs

end

theorem allHoldBy_eq_all (test : Condition → Bool) (fs : List Filter) :
    allHoldBy test fs = fs.all (holdsBy test) := by
  induction fs with
  | nil => rfl
  | cons f fs ih => rw [allHoldBy, ih, List.all_cons]

theorem anyHoldsBy_eq_any (test : Condition → Bool) (fs : List Filter) :
    anyHoldsBy test fs = fs.any (holdsBy test) := by
  induction fs with
  | nil => rfl
  | cons f fs ih => rw [anyHoldsBy, ih, List.any_cons]

theorem holdsBy_all {test : Condition → Bool} {fs : List Filter} :
    holdsBy test (.all fs) = true ↔ ∀ f ∈ fs, f.holdsBy test = true := by
  rw [holdsBy, allHoldBy_eq_all, List.all_eq_true]

theorem holdsBy_any {test : Condition → Bool} {fs : List Filter} :
    holdsBy test (.any fs) = true ↔ ∃ f ∈ fs, f.holdsBy test = true := by
  rw [holdsBy, anyHoldsBy_eq_any, List.any_eq_true]

theorem holdsBy_not {test : Condition → Bool} {f : Filter} :
    holdsBy test (.not f) = true ↔ ¬ f.holdsBy test = true := by
  rw [holdsBy, Bool.not_eq_true', Bool.not_eq_true]

/-- A filter holds for an element by the conditions that hold for it. -/
theorem holds_eq_holdsBy (e : Element) (ctx : EvalContext) (f : Filter) :
    f.holds e ctx = f.holdsBy (·.holds e ctx) := by
  induction f using Filter.induction with
  | condition c => rfl
  | always => rfl
  | not f ih => rw [holds, holdsBy, ih]
  | all fs ih =>
    rw [Bool.eq_iff_iff, holdsBy_all, holds, allHold_eq_all, List.all_eq_true]
    exact forall₂_congr fun f hf ↦ by rw [ih f hf]
  | any fs ih =>
    rw [Bool.eq_iff_iff, holdsBy_any, holds, anyHolds_eq_any, List.any_eq_true]
    exact exists_congr fun f ↦ and_congr_right fun hf ↦ by rw [ih f hf]

/-! ## Where conditions stand -/

/-- Does the condition stand in the filter under so many negations? -/
inductive StandsUnder : ℕ → Condition → Filter → Prop where
  | condition (c : Condition) : StandsUnder 0 c (.condition c)
  | all {n : ℕ} {c : Condition} {f : Filter} {fs : List Filter} (hf : f ∈ fs)
    (h : StandsUnder n c f) : StandsUnder n c (.all fs)
  | any {n : ℕ} {c : Condition} {f : Filter} {fs : List Filter} (hf : f ∈ fs)
    (h : StandsUnder n c f) : StandsUnder n c (.any fs)
  | not {n : ℕ} {c : Condition} {f : Filter} (h : StandsUnder n c f) :
    StandsUnder (n + 1) c (.not f)

/-- What stands in a filter is one of its conditions. -/
theorem StandsUnder.mem_conditions {n : ℕ} {c : Condition} {f : Filter} (h : StandsUnder n c f) :
    c ∈ f.conditions := by
  induction h with
  | condition c => exact List.mem_singleton_self c
  | all hf _ ih =>
    rw [conditions_all]
    exact List.mem_flatMap.2 ⟨_, hf, ih⟩
  | any hf _ ih =>
    rw [conditions_any]
    exact List.mem_flatMap.2 ⟨_, hf, ih⟩
  | not _ ih => exact ih

/-- **What follows for a filter.**  Let the second test be passed by every condition that passes the
first one, for the conditions under an even number of negations, and the other way round for those
under an odd number.  Then the filter holds by the second test if it holds by the first. -/
theorem holdsBy_mono {test test' : Condition → Bool} {f : Filter}
    (heven : ∀ n c, StandsUnder n c f → Even n → test c = true → test' c = true)
    (hodd : ∀ n c, StandsUnder n c f → Odd n → test' c = true → test c = true)
    (h : f.holdsBy test = true) : f.holdsBy test' = true := by
  induction f using Filter.induction generalizing test test' with
  | condition c => exact heven 0 c (.condition c) Even.zero h
  | always => rfl
  | all fs ih =>
    rw [holdsBy_all] at h ⊢
    exact fun f hf ↦ ih f hf (fun n c hc ↦ heven n c (.all hf hc))
      (fun n c hc ↦ hodd n c (.all hf hc)) (h f hf)
  | any fs ih =>
    rw [holdsBy_any] at h ⊢
    obtain ⟨f, hf, h⟩ := h
    exact ⟨f, hf, ih f hf (fun n c hc ↦ heven n c (.any hf hc))
      (fun n c hc ↦ hodd n c (.any hf hc)) h⟩
  | not f ih =>
    rw [holdsBy_not] at h ⊢
    -- Under one negation more the tests change places.
    exact fun h' ↦ h (ih (fun n c hc hn ↦ hodd (n + 1) c (.not hc) hn.add_one)
      (fun n c hc hn ↦ heven (n + 1) c (.not hc) hn.add_one) h')

/-- Is there no negation around conditions in the filter? -/
inductive Positive : Filter → Prop where
  | condition (c : Condition) : Positive (.condition c)
  | all {fs : List Filter} (h : ∀ f ∈ fs, Positive f) : Positive (.all fs)
  | any {fs : List Filter} (h : ∀ f ∈ fs, Positive f) : Positive (.any fs)
  | always : Positive .always

theorem Positive.eq_zero {n : ℕ} {c : Condition} {f : Filter} (hf : Positive f)
    (h : StandsUnder n c f) : n = 0 := by
  induction h with
  | condition c => rfl
  | all hg _ ih =>
    cases hf with
    | all hf => exact ih (hf _ hg)
  | any hg _ ih =>
    cases hf with
    | any hf => exact ih (hf _ hg)
  | not => cases hf

/-- A filter without negations says more the more its conditions say. -/
theorem Positive.holdsBy_mono {test test' : Condition → Bool} {f : Filter} (hf : Positive f)
    (h : ∀ c, test c = true → test' c = true) (htest : f.holdsBy test = true) :
    f.holdsBy test' = true := by
  refine Filter.holdsBy_mono (fun _ c _ _ ↦ h c) (fun n c hc hn ↦ ?_) htest
  rw [hf.eq_zero hc] at hn
  exact absurd hn Nat.not_odd_zero

end SurveyQuests.Filter
