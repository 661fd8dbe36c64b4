import SurveyQuests.Filter.Simplify
import SurveyQuests.Filter.Text
import Mathlib.Data.List.Basic

/-!
# The normal form of filters

A filter is in normal form if it has no *and* inside an *and*, no *or* inside an *or*, the empty
condition at most by itself or under a negation, and nowhere an *and* or an *or* with fewer than two
operands.  `Filter.simplify` brings every filter into this form and does nothing to a filter that
has it already.

Filters that come from a text are *proper*: every *and* and every *or* has an operand, and the empty
condition is nowhere in them.  Of a proper filter the conditions stay, in their order.

## What is here

* `Filter.induction` — induction on filters;
* `Filter.Normal`, `normal_simplify`, `simplify_of_normal`, `simplify_simplify`;
* `simplify_all_singleton`, `simplify_any_singleton` — parentheses around one filter;
* `Filter.Proper`, `Proper.simplify`;
* `Filter.conditions`, `conditions_simplify`.
-/

set_option autoImplicit false

namespace SurveyQuests.Filter

/-- Induction on filters; what is to be shown of an *and* or an *or* may be assumed of its
operands. -/
@[elab_as_elim]
theorem induction {motive : Filter → Prop} (condition : ∀ c, motive (.condition c))
    (all : ∀ fs, (∀ f ∈ fs, motive f) → motive (.all fs))
    (any : ∀ fs, (∀ f ∈ fs, motive f) → motive (.any fs))
    (not : ∀ f, motive f → motive (.not f)) (always : motive .always) (f : Filter) : motive f := by
  refine @Filter.rec motive (fun fs ↦ ∀ f ∈ fs, motive f) condition all any not always ?_ ?_ f
  · intro f hf
    cases hf
  · intro f fs hf hfs g hg
    rcases List.mem_cons.1 hg with rfl | hg
    · exact hf
    · exact hfs g hg

/-! ## The equations of the normal form -/

theorem simplify_all (fs : List Filter) :
    simplify (.all fs) = ofConjuncts ((fs.map simplify).flatMap conjuncts) := by
  rw [simplify, simplifyList_eq_map]

theorem simplify_any (fs : List Filter) :
    simplify (.any fs)
      = (((fs.map simplify).mapM alternatives?).map fun gs ↦ ofAlternatives gs.flatten).getD
        .always := by
  rw [simplify, simplifyList_eq_map]
  cases (fs.map simplify).mapM alternatives? <;> rfl

/-- The normal form of an *and* depends on the normal forms of its operands only. -/
theorem simplify_all_congr {fs gs : List Filter} (h : fs.map simplify = gs.map simplify) :
    simplify (.all fs) = simplify (.all gs) := by
  rw [simplify_all, simplify_all, h]

/-- The normal form of an *or* depends on the normal forms of its operands only. -/
theorem simplify_any_congr {fs gs : List Filter} (h : fs.map simplify = gs.map simplify) :
    simplify (.any fs) = simplify (.any gs) := by
  rw [simplify_any, simplify_any, h]

/-! ## Normal filters -/

/-- Is the filter in normal form?  That a filter is its own only conjunct says that it is neither an
*and* nor the empty condition, and likewise for its alternatives. -/
inductive Normal : Filter → Prop where
  | condition (c : Condition) : Normal (.condition c)
  | all {fs : List Filter} (two : 2 ≤ fs.length) (normal : ∀ f ∈ fs, Normal f)
    (flat : ∀ f ∈ fs, f.conjuncts = [f]) : Normal (.all fs)
  | any {fs : List Filter} (two : 2 ≤ fs.length) (normal : ∀ f ∈ fs, Normal f)
    (flat : ∀ f ∈ fs, f.alternatives? = some [f]) : Normal (.any fs)
  | not {f : Filter} (normal : Normal f) : Normal (.not f)
  | always : Normal .always

theorem flatMap_conjuncts {fs : List Filter} (h : ∀ f ∈ fs, f.conjuncts = [f]) :
    fs.flatMap conjuncts = fs := by
  induction fs with
  | nil => rfl
  | cons f fs ih =>
    rw [List.flatMap_cons, h f List.mem_cons_self, ih fun g hg ↦ h g (List.mem_cons_of_mem f hg),
      List.singleton_append]

theorem mapM_alternatives? {fs : List Filter} (h : ∀ f ∈ fs, f.alternatives? = some [f]) :
    fs.mapM alternatives? = some (fs.map fun f ↦ [f]) := by
  induction fs with
  | nil => rfl
  | cons f fs ih =>
    rw [List.mapM_cons, h f List.mem_cons_self, ih fun g hg ↦ h g (List.mem_cons_of_mem f hg)]
    rfl

theorem ofConjuncts_of_two {fs : List Filter} (h : 2 ≤ fs.length) : ofConjuncts fs = .all fs := by
  match fs, h with
  | _ :: _ :: _, _ => rfl

theorem ofAlternatives_of_two {fs : List Filter} (h : 2 ≤ fs.length) :
    ofAlternatives fs = .any fs := by
  match fs, h with
  | _ :: _ :: _, _ => rfl

namespace Normal

/-- A normal filter is put together again from its conjuncts. -/
theorem ofConjuncts_conjuncts {f : Filter} (h : Normal f) : ofConjuncts f.conjuncts = f := by
  cases h with
  | all two => exact ofConjuncts_of_two two
  | _ => rfl

theorem ofAlternatives_alternatives? {f : Filter} (h : Normal f) {gs : List Filter}
    (hgs : f.alternatives? = some gs) : ofAlternatives gs = f := by
  cases h with
  | any two =>
    cases hgs
    exact ofAlternatives_of_two two
  | always => cases hgs
  | _ =>
    cases hgs
    rfl

theorem of_mem_conjuncts {f g : Filter} (h : Normal f) (hg : g ∈ f.conjuncts) :
    Normal g ∧ g.conjuncts = [g] := by
  cases h with
  | all _ normal flat => exact ⟨normal g hg, flat g hg⟩
  | always => cases hg
  | condition c =>
    obtain rfl := List.mem_singleton.1 hg
    exact ⟨.condition c, rfl⟩
  | any two normal flat =>
    obtain rfl := List.mem_singleton.1 hg
    exact ⟨.any two normal flat, rfl⟩
  | not normal =>
    obtain rfl := List.mem_singleton.1 hg
    exact ⟨.not normal, rfl⟩

theorem of_mem_alternatives {f g : Filter} (h : Normal f) {gs : List Filter}
    (hgs : f.alternatives? = some gs) (hg : g ∈ gs) : Normal g ∧ g.alternatives? = some [g] := by
  cases h with
  | any _ normal flat =>
    cases hgs
    exact ⟨normal g hg, flat g hg⟩
  | always => cases hgs
  | condition c =>
    cases hgs
    obtain rfl := List.mem_singleton.1 hg
    exact ⟨.condition c, rfl⟩
  | all two normal flat =>
    cases hgs
    obtain rfl := List.mem_singleton.1 hg
    exact ⟨.all two normal flat, rfl⟩
  | not normal =>
    cases hgs
    obtain rfl := List.mem_singleton.1 hg
    exact ⟨.not normal, rfl⟩

protected theorem ofConjuncts {fs : List Filter} (h : ∀ f ∈ fs, Normal f ∧ f.conjuncts = [f]) :
    Normal (ofConjuncts fs) := by
  match fs with
  | [] => exact .always
  | [f] => exact (h f List.mem_cons_self).1
  | f :: g :: fs =>
    exact .all (Nat.le_add_left 2 fs.length) (fun e he ↦ (h e he).1) fun e he ↦ (h e he).2

protected theorem ofAlternatives {fs : List Filter}
    (h : ∀ f ∈ fs, Normal f ∧ f.alternatives? = some [f]) : Normal (ofAlternatives fs) := by
  match fs with
  | [] => exact .always
  | [f] => exact (h f List.mem_cons_self).1
  | f :: g :: fs =>
    exact .any (Nat.le_add_left 2 fs.length) (fun e he ↦ (h e he).1) fun e he ↦ (h e he).2

end Normal

theorem mem_of_mapM_alternatives? {fs : List Filter} {gss : List (List Filter)}
    (h : fs.mapM alternatives? = some gss) {gs : List Filter} (hgs : gs ∈ gss) :
    ∃ f ∈ fs, f.alternatives? = some gs := by
  induction fs generalizing gss with
  | nil =>
    cases h
    cases hgs
  | cons f fs ih =>
    rw [List.mapM_cons] at h
    obtain ⟨as, ha, h⟩ := Option.bind_eq_some_iff.1 h
    obtain ⟨ass, hass, h⟩ := Option.bind_eq_some_iff.1 h
    cases h
    rcases List.mem_cons.1 hgs with rfl | hgs
    · exact ⟨f, List.mem_cons_self, ha⟩
    · obtain ⟨g, hg, hga⟩ := ih hass hgs
      exact ⟨g, List.mem_cons_of_mem f hg, hga⟩

/-- **The normal form of a filter is normal.** -/
theorem normal_simplify (f : Filter) : Normal f.simplify := by
  induction f using Filter.induction with
  | condition c => exact .condition c
  | always => exact .always
  | not f ih => exact .not ih
  | all fs ih =>
    rw [simplify_all]
    refine Normal.ofConjuncts fun g hg ↦ ?_
    obtain ⟨e, he, hg⟩ := List.mem_flatMap.1 hg
    obtain ⟨f, hf, rfl⟩ := List.mem_map.1 he
    exact (ih f hf).of_mem_conjuncts hg
  | any fs ih =>
    rw [simplify_any]
    cases hgss : (fs.map simplify).mapM alternatives? with
    | none => exact .always
    | some gss =>
      refine Normal.ofAlternatives fun g hg ↦ ?_
      obtain ⟨gs, hgs, hg⟩ := List.mem_flatten.1 hg
      obtain ⟨e, he, heg⟩ := mem_of_mapM_alternatives? hgss hgs
      obtain ⟨f, hf, rfl⟩ := List.mem_map.1 he
      exact (ih f hf).of_mem_alternatives heg hg

/-- **A normal filter is its own normal form.** -/
theorem simplify_of_normal {f : Filter} (h : Normal f) : f.simplify = f := by
  induction h with
  | condition c => rfl
  | always => rfl
  | not _ ih => rw [simplify, ih]
  | @all fs two _ flat ih =>
    have hmap : fs.map simplify = fs := (List.map_congr_left ih).trans (List.map_id' fs)
    rw [simplify_all, hmap, flatMap_conjuncts flat, ofConjuncts_of_two two]
  | @any fs two _ flat ih =>
    have hmap : fs.map simplify = fs := (List.map_congr_left ih).trans (List.map_id' fs)
    rw [simplify_any, hmap, mapM_alternatives? flat]
    have hflat : (fs.map fun f ↦ [f]).flatten = fs := List.flatMap_singleton' fs
    rw [Option.map_some, Option.getD_some, hflat, ofAlternatives_of_two two]

theorem simplify_simplify (f : Filter) : f.simplify.simplify = f.simplify :=
  simplify_of_normal (normal_simplify f)

theorem map_simplify_simplify (fs : List Filter) :
    (fs.map simplify).map simplify = fs.map simplify := by
  rw [List.map_map]
  exact List.map_congr_left fun f _ ↦ simplify_simplify f

/-- An *and* of one filter says what the filter says. -/
theorem simplify_all_singleton (f : Filter) : simplify (.all [f]) = f.simplify := by
  rw [simplify_all, List.map_singleton, List.flatMap_singleton]
  exact (normal_simplify f).ofConjuncts_conjuncts

/-- An *or* of one filter says what the filter says. -/
theorem simplify_any_singleton (f : Filter) : simplify (.any [f]) = f.simplify := by
  rw [simplify_any, List.map_singleton, List.mapM_cons]
  cases h : f.simplify.alternatives? with
  | none =>
    cases hf : f.simplify with
    | always => rfl
    | _ =>
      rw [hf] at h
      cases h
  | some gs =>
    have hone : [gs].flatten = gs := by simp
    change ofAlternatives [gs].flatten = f.simplify
    rw [hone]
    exact (normal_simplify f).ofAlternatives_alternatives? h

/-! ## Proper filters -/

/-- Can the filter come from a text?  Then every *and* and every *or* has an operand, and the empty
condition is nowhere. -/
inductive Proper : Filter → Prop where
  | condition (c : Condition) : Proper (.condition c)
  | all {fs : List Filter} (ne : fs ≠ []) (proper : ∀ f ∈ fs, Proper f) : Proper (.all fs)
  | any {fs : List Filter} (ne : fs ≠ []) (proper : ∀ f ∈ fs, Proper f) : Proper (.any fs)
  | not {f : Filter} (proper : Proper f) : Proper (.not f)

/-- The alternatives of a filter that is not the empty condition. -/
def alternatives (f : Filter) : List Filter := f.alternatives?.getD []

namespace Proper

theorem isAlways {f : Filter} (h : Proper f) : f.isAlways = false := by
  cases h <;> rfl

theorem alternatives?_eq {f : Filter} (h : Proper f) : f.alternatives? = some f.alternatives := by
  cases h <;> rfl

theorem conjuncts_ne_nil {f : Filter} (h : Proper f) : f.conjuncts ≠ [] := by
  cases h with
  | all ne => exact ne
  | _ => exact List.cons_ne_nil _ _

theorem alternatives_ne_nil {f : Filter} (h : Proper f) : f.alternatives ≠ [] := by
  cases h with
  | any ne => exact ne
  | _ => exact List.cons_ne_nil _ _

theorem of_mem_conjuncts {f g : Filter} (h : Proper f) (hg : g ∈ f.conjuncts) : Proper g := by
  cases f with
  | all fs =>
    cases h with
    | all _ proper => exact proper g hg
  | always => cases h
  | _ => exact List.mem_singleton.1 hg ▸ h

theorem of_mem_alternatives {f g : Filter} (h : Proper f) (hg : g ∈ f.alternatives) :
    Proper g := by
  cases f with
  | any fs =>
    cases h with
    | any _ proper => exact proper g hg
  | always => cases h
  | _ => exact List.mem_singleton.1 hg ▸ h

protected theorem ofConjuncts {fs : List Filter} (ne : fs ≠ []) (h : ∀ f ∈ fs, Proper f) :
    Proper (ofConjuncts fs) := by
  match fs with
  | [] => exact absurd rfl ne
  | [f] => exact h f List.mem_cons_self
  | f :: g :: fs => exact .all ne h

protected theorem ofAlternatives {fs : List Filter} (ne : fs ≠ []) (h : ∀ f ∈ fs, Proper f) :
    Proper (ofAlternatives fs) := by
  match fs with
  | [] => exact absurd rfl ne
  | [f] => exact h f List.mem_cons_self
  | f :: g :: fs => exact .any ne h

end Proper

theorem mapM_alternatives?_of_proper {fs : List Filter} (h : ∀ f ∈ fs, Proper f) :
    fs.mapM alternatives? = some (fs.map alternatives) := by
  induction fs with
  | nil => rfl
  | cons f fs ih =>
    rw [List.mapM_cons, (h f List.mem_cons_self).alternatives?_eq,
      ih fun g hg ↦ h g (List.mem_cons_of_mem f hg)]
    rfl

theorem flatMap_ne_nil {fs : List Filter} {parts : Filter → List Filter} (ne : fs ≠ [])
    (h : ∀ f ∈ fs, parts f ≠ []) : fs.flatMap parts ≠ [] := by
  obtain ⟨f, fs, rfl⟩ := List.exists_cons_of_ne_nil ne
  rw [List.flatMap_cons]
  exact List.append_ne_nil_of_left_ne_nil (h f List.mem_cons_self) _

/-- The normal form of an *or* of filters whose normal forms are proper. -/
theorem simplify_any_of_proper {fs : List Filter} (h : ∀ f ∈ fs, Proper f.simplify) :
    simplify (.any fs) = ofAlternatives ((fs.map simplify).flatMap alternatives) := by
  have hmap : ∀ g ∈ fs.map simplify, Proper g := List.forall_mem_map.2 h
  rw [simplify_any, mapM_alternatives?_of_proper hmap]
  rfl

/-- **The normal form of a proper filter is proper.** -/
theorem Proper.simplify {f : Filter} (h : Proper f) : Proper f.simplify := by
  induction h with
  | condition c => exact .condition c
  | not _ ih => exact .not ih
  | @all fs ne _ ih =>
    have hmap : ∀ g ∈ fs.map Filter.simplify, Proper g := List.forall_mem_map.2 ih
    rw [simplify_all]
    refine Proper.ofConjuncts (flatMap_ne_nil ?_ fun g hg ↦ (hmap g hg).conjuncts_ne_nil) ?_
    · exact mt List.map_eq_nil_iff.1 ne
    · intro g hg
      obtain ⟨f, hf, hg⟩ := List.mem_flatMap.1 hg
      exact (hmap f hf).of_mem_conjuncts hg
  | @any fs ne _ ih =>
    have hmap : ∀ g ∈ fs.map Filter.simplify, Proper g := List.forall_mem_map.2 ih
    rw [simplify_any_of_proper ih]
    refine Proper.ofAlternatives (flatMap_ne_nil ?_ fun g hg ↦ (hmap g hg).alternatives_ne_nil) ?_
    · exact mt List.map_eq_nil_iff.1 ne
    · intro g hg
      obtain ⟨f, hf, hg⟩ := List.mem_flatMap.1 hg
      exact (hmap f hf).of_mem_alternatives hg

/-! ## Conditions -/

mutual

/-- The conditions of a filter, from left to right. -/
def conditions : Filter → List Condition
  | .condition c => [c]
  | .all fs | .any fs => conditionsList fs
  | .not f => f.conditions
  | .always => []

/-- The conditions of filters, from left to right. -/
def conditionsList : List Filter → List Condition
  | [] => []
  | f :: fs => f.conditions ++ conditionsList fs

end

theorem conditionsList_eq_flatMap (fs : List Filter) :
    conditionsList fs = fs.flatMap conditions := by
  induction fs with
  | nil => rfl
  | cons f fs ih => rw [conditionsList, ih, List.flatMap_cons]

theorem conditions_all (fs : List Filter) : conditions (.all fs) = fs.flatMap conditions := by
  rw [conditions, conditionsList_eq_flatMap]

theorem conditions_any (fs : List Filter) : conditions (.any fs) = fs.flatMap conditions := by
  rw [conditions, conditionsList_eq_flatMap]

theorem flatMap_conditions_conjuncts (f : Filter) :
    f.conjuncts.flatMap conditions = f.conditions := by
  cases f with
  | all fs => rw [conditions_all]; rfl
  | always => rfl
  | _ => exact List.flatMap_singleton _ _

theorem flatMap_conditions_alternatives (f : Filter) :
    f.alternatives.flatMap conditions = f.conditions := by
  cases f with
  | any fs => rw [conditions_any]; rfl
  | always => rfl
  | _ => exact List.flatMap_singleton _ _

theorem conditions_ofConjuncts (fs : List Filter) :
    (ofConjuncts fs).conditions = fs.flatMap conditions := by
  match fs with
  | [] => rfl
  | [f] => exact (List.flatMap_singleton conditions f).symm
  | f :: g :: fs => exact conditions_all _

theorem conditions_ofAlternatives (fs : List Filter) :
    (ofAlternatives fs).conditions = fs.flatMap conditions := by
  match fs with
  | [] => rfl
  | [f] => exact (List.flatMap_singleton conditions f).symm
  | f :: g :: fs => exact conditions_any _

theorem flatMap_parts {fs : List Filter} {parts : Filter → List Filter}
    (hparts : ∀ f, (parts f).flatMap conditions = f.conditions)
    (ih : ∀ f ∈ fs, f.simplify.conditions = f.conditions) :
    ((fs.map simplify).flatMap parts).flatMap conditions = fs.flatMap conditions := by
  rw [List.flatMap_assoc, List.flatMap_congr fun f _ ↦ hparts f, List.flatMap_map]
  exact List.flatMap_congr ih

/-- **A proper filter keeps its conditions.** -/
theorem conditions_simplify {f : Filter} (h : Proper f) :
    f.simplify.conditions = f.conditions := by
  induction h with
  | condition c => rfl
  | not _ ih => exact ih
  | all _ _ ih =>
    rw [simplify_all, conditions_ofConjuncts, flatMap_parts flatMap_conditions_conjuncts ih,
      conditions_all]
  | any _ proper ih =>
    rw [simplify_any_of_proper fun f hf ↦ (proper f hf).simplify, conditions_ofAlternatives,
      flatMap_parts flatMap_conditions_alternatives ih, conditions_any]

end SurveyQuests.Filter
