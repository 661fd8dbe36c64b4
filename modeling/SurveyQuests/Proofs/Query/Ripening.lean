import SurveyQuests.Proofs.Calendar.GoingBack
import SurveyQuests.Proofs.Filter.Polarity
import SurveyQuests.Proofs.Query.Rendering

/-!
# A quest that is due stays due

With time an element gets older than a day that is counted back from the day of reference, and it
ceases to be newer.  So a query whose relative `older` stand under an even number of negations, and
whose relative `newer` stand under an odd number, holds for an element from some day on: once it
holds, it holds on every later day.

## What is here

* `Condition.holds_congr`, `Condition.holds_older`, `Condition.holds_newer` — conditions on a later
  day;
* `Filter.Ripens`, `Filter.Ripens.holds` — filters on a later day;
* `CompiledQuery.stays_due` — **a compiled query that holds goes on to hold**.
-/

set_option autoImplicit false

namespace SurveyQuests

variable {e : Element} {policy : PinningPolicy} {day later : Date}

/-! ## Conditions -/

namespace Condition

/-- Does the condition compare with a day that is counted back from the day of reference? -/
def IsRelative (c : Condition) : Prop :=
  ∃ target direction magnitude unit, c = .date target direction (.relative magnitude unit)

/-- Only conditions that count back depend on the day of reference. -/
theorem holds_congr {c : Condition} (h : ¬ c.IsRelative) (e : Element) (policy : PinningPolicy)
    (day day' : Date) : c.holds e ⟨day, policy⟩ = c.holds e ⟨day', policy⟩ := by
  cases c with
  | date target direction anchor =>
    cases anchor with
    | fixed d => rfl
    | relative magnitude unit => exact absurd ⟨target, direction, magnitude, unit, rfl⟩ h
  | _ => rfl

theorem holds_date_iff {target : DateTarget} {direction : Direction} {anchor : DateAnchor} :
    (date target direction anchor).holds e ⟨day, policy⟩ = true ↔
      ∃ d ∈ knownDate? target direction e policy,
        direction.test d (anchor.resolve day) = true := by
  rw [holds]
  cases knownDate? target direction e policy with
  | none => simp
  | some d => simp

variable {target : DateTarget} {magnitude : Binary64} {unit : DateUnit}

/-- What is older stays older. -/
theorem holds_older (hmagnitude : Binary64.zero.le magnitude = true) (hle : day ≤ later)
    (h : (date target .older (.relative magnitude unit)).holds e ⟨day, policy⟩ = true) :
    (date target .older (.relative magnitude unit)).holds e ⟨later, policy⟩ = true := by
  rw [holds_date_iff] at h ⊢
  obtain ⟨d, hd, htest⟩ := h
  refine ⟨d, hd, ?_⟩
  rw [Direction.test, Date.before_eq_true_iff] at htest ⊢
  exact htest.trans_le (Date.goBack_mono hmagnitude unit hle)

/-- What is newer on the later day was newer before. -/
theorem holds_newer (hmagnitude : Binary64.zero.le magnitude = true) (hle : day ≤ later)
    (h : (date target .newer (.relative magnitude unit)).holds e ⟨later, policy⟩ = true) :
    (date target .newer (.relative magnitude unit)).holds e ⟨day, policy⟩ = true := by
  rw [holds_date_iff] at h ⊢
  obtain ⟨d, hd, htest⟩ := h
  refine ⟨d, hd, ?_⟩
  rw [Direction.test, Date.before_eq_true_iff] at htest ⊢
  exact (Date.goBack_mono hmagnitude unit hle).trans_lt htest

end Condition

/-! ## Filters -/

namespace Filter

/-- Is every `older` that counts back under an even number of negations, and every such `newer`
under an odd number? -/
structure Ripens (f : Filter) : Prop where
  older : ∀ n target magnitude unit,
    StandsUnder n (.date target .older (.relative magnitude unit)) f → Even n
  newer : ∀ n target magnitude unit,
    StandsUnder n (.date target .newer (.relative magnitude unit)) f → Odd n

/-- A filter that ripens goes on to hold. -/
theorem Ripens.holds {f : Filter} (hf : f.Ripens) (hwritable : ∀ c ∈ f.conditions, c.Writable)
    (hle : day ≤ later) (h : f.holds e ⟨day, policy⟩ = true) :
    f.holds e ⟨later, policy⟩ = true := by
  have hmagnitude : ∀ {n target direction magnitude unit},
      StandsUnder n (.date target direction (.relative magnitude unit)) f →
        Binary64.zero.le magnitude = true := by
    intro n target direction magnitude unit hc
    obtain ⟨-, hfinite, hsign⟩ := hwritable _ hc.mem_conditions
    exact Binary64.zero_le_of_isFinite hfinite hsign
  rw [holds_eq_holdsBy] at h ⊢
  refine holdsBy_mono (fun n c hc hn hholds ↦ ?_) (fun n c hc hn hholds ↦ ?_) h
  · by_cases hrelative : c.IsRelative
    · obtain ⟨target, direction, magnitude, unit, rfl⟩ := hrelative
      cases direction with
      | older => exact Condition.holds_older (hmagnitude hc) hle hholds
      | newer => exact absurd hn (Nat.not_even_iff_odd.2 (hf.newer n target magnitude unit hc))
    · rwa [Condition.holds_congr hrelative e policy later day]
  · by_cases hrelative : c.IsRelative
    · obtain ⟨target, direction, magnitude, unit, rfl⟩ := hrelative
      cases direction with
      | older => exact absurd (hf.older n target magnitude unit hc) (Nat.not_even_iff_odd.2 hn)
      | newer => exact Condition.holds_newer (hmagnitude hc) hle hholds
    · rwa [Condition.holds_congr hrelative e policy day later]

end Filter

/-! ## Queries -/

namespace CompiledQuery

/-- **A compiled query that holds for an element goes on to hold**, under any policy, if its filter
ripens; and in any unit a count that is not negative leads back to days in the same order. -/
theorem stays_due {source : String} {c : CompiledQuery} (hc : compile source = .ok c)
    (hripens : c.query.filter.Ripens) (e : Element) (policy : PinningPolicy) (hle : day ≤ later) :
    ((c.withPolicy policy).holds e day = true → (c.withPolicy policy).holds e later = true) ∧
      ∀ count unit, Binary64.zero.le count = true →
        day.goBack count unit ≤ later.goBack count unit := by
  obtain ⟨-, -, -, hwritable⟩ := filter_of_compile hc
  refine ⟨fun h ↦ ?_, fun count unit hcount ↦ Date.goBack_mono hcount unit hle⟩
  obtain ⟨hkind, hfilter⟩ := Bool.and_eq_true_iff.1 h
  exact Bool.and_eq_true_iff.2 ⟨hkind, hripens.holds hwritable hle hfilter⟩

/-- The theorem for a shop that was surveyed last on a leap day. -/
theorem stays_due_shop :
    let source := "nodes with not newer today -1 months and shop older today -4 years"
    let shop : Element :=
      { kind := .node, tags := .ofList [("shop", "yes")], edited := some ⟨2020, 2, 29, by decide⟩ }
    ∃ c, compile source = .ok c ∧ c.query.filter.Ripens ∧
      c.holds shop ⟨2024, 3, 1, by decide⟩ = true ∧
      c.holds shop ⟨2025, 2, 28, by decide⟩ = true := by
  intro source shop
  let q : Query := ⟨.ofList [.node],
    .all [.not (.condition (.date .element .newer (.relative (.ofRatio false 1 1) .months))),
      .condition (.date (.tag (.ofKey "shop")) .older (.relative (.ofRatio false 4 1) .years))]⟩
  have hsource : q.text = source := by decide +kernel
  have hproper : q.filter.Proper := by
    refine .all (List.cons_ne_nil _ _) ?_
    simp only [List.forall_mem_cons, List.not_mem_nil, false_implies, implies_true, and_true]
    exact ⟨.not (.condition _), .condition _⟩
  have hwritable : ∀ c ∈ q.filter.conditions, c.Writable := by
    change ∀ c ∈ [_, _], Condition.Writable c
    simp only [List.forall_mem_cons, List.not_mem_nil, false_implies, implies_true, and_true]
    exact ⟨⟨trivial, by decide +kernel, by decide +kernel⟩, rfl, by decide +kernel,
      by decide +kernel⟩
  have hkeys : ∀ c ∈ q.filter.conditions, ∀ key ∈ c.key?, isPlainNumber key.toList = false := by
    decide +kernel
  have hcompile := compile_text_of_proper (q := q) (by decide) hproper hwritable hkeys
  have hripens : q.filter.simplify.Ripens := by
    constructor
    · rintro n target magnitude unit (_ | ⟨hf, h⟩)
      obtain rfl | hf := List.mem_cons.1 hf
      · cases h with
        | not h => cases h
      · obtain rfl := List.mem_singleton.1 hf
        cases h
        exact Even.zero
    · rintro n target magnitude unit (_ | ⟨hf, h⟩)
      obtain rfl | hf := List.mem_cons.1 hf
      · cases h with
        | not h =>
          cases h
          exact odd_one
      · obtain rfl := List.mem_singleton.1 hf
        cases h
  rw [hsource] at hcompile
  have hdue : CompiledQuery.holds ⟨source, ⟨q.kinds, q.filter.simplify⟩, .conservative⟩ shop
      ⟨2024, 3, 1, by decide⟩ = true := by
    decide +kernel
  exact ⟨_, hcompile, hripens, hdue,
    (stays_due hcompile hripens shop .conservative (by decide)).1 hdue⟩

end CompiledQuery

end SurveyQuests
