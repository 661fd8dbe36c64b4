import SurveyQuests.Filter.Eval
import SurveyQuests.Proofs.Filter.Parts

/-!
# What simplifying does to the meaning of a filter

The normal form of a filter says what the filter says, but for one case: an *or* of no filters holds
never, and its normal form, the empty condition, holds always.  So what the normal form says is what
the filter says to a reader who takes an *or* of no filters for true.  That reading is
`Filter.holdsLoosely`; it is not put together from `Filter.holds`, since the two differ below a
negation in the other direction.

In the proof an *or* is looked at by its alternatives.  If one of its operands has the empty
condition for its normal form, then there are none, and both sides are true; otherwise there is at
least one for each operand, and the alternatives of all operands hold by turns as the operands do.

## What is here

* `Filter.holdsLoosely` — the meaning with every empty *or* taken for true;
* `holds_simplify_eq_holdsLoosely` — the normal form has this meaning;
* `holdsLoosely_eq_holds` — which is the usual one where no *or* is empty;
* `holds_simplify` — the normal form of a proper filter;
* `simplify_keeps_meaning` — **what the normal form of any filter says**.
-/

set_option autoImplicit false

namespace SurveyQuests.Filter

mutual

/-- Does the filter hold for the element, if an *or* of no filters counts as true? -/
def holdsLoosely (e : Element) (ctx : EvalContext) : Filter → Bool
  | .condition c => c.holds e ctx
  | .all fs => allHoldLoosely e ctx fs
  | .any fs => fs.isEmpty || anyHoldsLoosely e ctx fs
  | .not f => !f.holdsLoosely e ctx
  | .always => true

/-- Do all filters of a list hold, if an *or* of no filters counts as true? -/
def allHoldLoosely (e : Element) (ctx : EvalContext) : List Filter → Bool
  | [] => true
  | f :: fs => f.holdsLoosely e ctx && allHoldLoosely e ctx fs

/-- Does some filter of a list hold, if an *or* of no filters counts as true? -/
def anyHoldsLoosely (e : Element) (ctx : EvalContext) : List Filter → Bool
  | [] => false
  | f :: fs => f.holdsLoosely e ctx || anyHoldsLoosely e ctx fs

end

section

variable (e : Element) (ctx : EvalContext)

theorem holds_all (fs : List Filter) : holds e ctx (.all fs) = fs.all (holds e ctx) := by
  rw [holds, allHold_eq_all]

theorem holds_any (fs : List Filter) : holds e ctx (.any fs) = fs.any (holds e ctx) := by
  rw [holds, anyHolds_eq_any]

theorem holdsLoosely_all (fs : List Filter) :
    holdsLoosely e ctx (.all fs) = fs.all (holdsLoosely e ctx) := by
  rw [holdsLoosely]
  induction fs with
  | nil => rfl
  | cons f fs ih => rw [allHoldLoosely, ih, List.all_cons]

theorem holdsLoosely_any (fs : List Filter) :
    holdsLoosely e ctx (.any fs) = (fs.isEmpty || fs.any (holdsLoosely e ctx)) := by
  rw [holdsLoosely]
  congr 1
  induction fs with
  | nil => rfl
  | cons f fs ih => rw [anyHoldsLoosely, ih, List.any_cons]

theorem all_congr {fs : List Filter} {p q : Filter → Bool} (h : ∀ f ∈ fs, p f = q f) :
    fs.all p = fs.all q := by
  rw [Bool.eq_iff_iff, List.all_eq_true, List.all_eq_true]
  exact forall₂_congr fun f hf ↦ by rw [h f hf]

theorem any_congr {fs : List Filter} {p q : Filter → Bool} (h : ∀ f ∈ fs, p f = q f) :
    fs.any p = fs.any q := by
  rw [Bool.eq_iff_iff, List.any_eq_true, List.any_eq_true]
  exact exists_congr fun f ↦ and_congr_right fun hf ↦ by rw [h f hf]

/-! ## Conjuncts and alternatives -/

theorem all_conjuncts (f : Filter) : f.conjuncts.all (holds e ctx) = f.holds e ctx := by
  cases f with
  | all fs => exact (holds_all e ctx fs).symm
  | always => rfl
  | _ => exact Bool.and_true _

theorem any_alternatives {f : Filter} {gs : List Filter} (h : f.alternatives? = some gs) :
    gs.any (holds e ctx) = f.holds e ctx := by
  cases f with
  | any fs =>
    cases h
    exact (holds_any e ctx _).symm
  | always => cases h
  | _ =>
    cases h
    exact Bool.or_false _

theorem holds_ofConjuncts (fs : List Filter) :
    (ofConjuncts fs).holds e ctx = fs.all (holds e ctx) := by
  match fs with
  | [] => rfl
  | [f] => exact (Bool.and_true _).symm
  | f :: g :: fs => exact holds_all e ctx _

theorem holds_ofAlternatives {fs : List Filter} (ne : fs ≠ []) :
    (ofAlternatives fs).holds e ctx = fs.any (holds e ctx) := by
  match fs with
  | [] => exact absurd rfl ne
  | [f] => exact (Bool.or_false _).symm
  | f :: g :: fs => exact holds_any e ctx _

/-- Only the empty condition has no alternatives. -/
theorem eq_always_of_alternatives? {f : Filter} (h : f.alternatives? = none) : f = .always := by
  cases f with
  | always => rfl
  | _ => cases h

theorem Normal.alternatives_ne_nil {f : Filter} (h : Normal f) {gs : List Filter}
    (hgs : f.alternatives? = some gs) : gs ≠ [] := by
  cases h with
  | any two =>
    cases hgs
    exact List.ne_nil_of_length_pos (Nat.lt_of_lt_of_le Nat.zero_lt_two two)
  | always => cases hgs
  | _ =>
    cases hgs
    exact List.cons_ne_nil _ _

/-- There are no alternatives among filters only if one of them is the empty condition. -/
theorem always_mem_of_mapM_alternatives? {fs : List Filter} (h : fs.mapM alternatives? = none) :
    .always ∈ fs := by
  induction fs with
  | nil => cases h
  | cons f fs ih =>
    cases hf : f.alternatives? with
    | none => exact eq_always_of_alternatives? hf ▸ List.mem_cons_self
    | some gs =>
      cases hfs : fs.mapM alternatives? with
      | none => exact List.mem_cons_of_mem f (ih hfs)
      | some gss =>
        rw [List.mapM_cons, hf, hfs] at h
        cases h

theorem any_flatten_alternatives {fs : List Filter} {gss : List (List Filter)}
    (h : fs.mapM alternatives? = some gss) :
    gss.flatten.any (holds e ctx) = fs.any (holds e ctx) := by
  induction fs generalizing gss with
  | nil =>
    cases h
    rfl
  | cons f fs ih =>
    rw [List.mapM_cons] at h
    obtain ⟨gs, hgs, h⟩ := Option.bind_eq_some_iff.1 h
    obtain ⟨hss, hhss, h⟩ := Option.bind_eq_some_iff.1 h
    cases h
    rw [List.flatten_cons, List.any_append, List.any_cons, any_alternatives e ctx hgs, ih hhss]

/-- Normal filters have alternatives, put together, if there is a filter at all. -/
theorem flatten_alternatives_ne_nil {fs : List Filter} {gss : List (List Filter)} (ne : fs ≠ [])
    (normal : ∀ f ∈ fs, Normal f) (h : fs.mapM alternatives? = some gss) : gss.flatten ≠ [] := by
  obtain ⟨f, fs, rfl⟩ := List.exists_cons_of_ne_nil ne
  rw [List.mapM_cons] at h
  obtain ⟨gs, hgs, h⟩ := Option.bind_eq_some_iff.1 h
  obtain ⟨hss, -, h⟩ := Option.bind_eq_some_iff.1 h
  cases h
  rw [List.flatten_cons]
  have hne := (normal f List.mem_cons_self).alternatives_ne_nil hgs
  exact List.append_ne_nil_of_left_ne_nil hne _

/-! ## The meaning of the normal form -/

/-- **The normal form of a filter says what the filter says if an *or* of no filters counts as
true.** -/
theorem holds_simplify_eq_holdsLoosely (f : Filter) :
    f.simplify.holds e ctx = f.holdsLoosely e ctx := by
  induction f using Filter.induction with
  | condition c => rfl
  | always => rfl
  | not f ih => rw [simplify, holds, holdsLoosely, ih]
  | all fs ih =>
    have hparts : (fun f : Filter ↦ f.conjuncts.all (holds e ctx)) = holds e ctx :=
      funext (all_conjuncts e ctx)
    rw [simplify_all, holds_ofConjuncts, List.all_flatMap, hparts, List.all_map, holdsLoosely_all]
    exact all_congr ih
  | any fs ih =>
    have hoperands : (fs.map simplify).any (holds e ctx) = fs.any (holdsLoosely e ctx) := by
      rw [List.any_map]
      exact any_congr ih
    have hnormal : ∀ g ∈ fs.map simplify, Normal g :=
      List.forall_mem_map.2 fun f _ ↦ normal_simplify f
    rw [simplify_any, holdsLoosely_any, ← hoperands]
    cases hgss : (fs.map simplify).mapM alternatives? with
    | none =>
      -- some operand has become the empty condition, and decides the whole
      have htrue : (fs.map simplify).any (holds e ctx) = true :=
        List.any_eq_true.2 ⟨.always, always_mem_of_mapM_alternatives? hgss, rfl⟩
      rw [htrue, Bool.or_true]
      rfl
    | some gss =>
      cases fs with
      | nil =>
        cases hgss
        rfl
      | cons f fs =>
        have hne := flatten_alternatives_ne_nil (List.cons_ne_nil _ _) hnormal hgss
        exact (holds_ofAlternatives e ctx hne).trans (any_flatten_alternatives e ctx hgss)

/-- Where no *or* is empty, it makes no difference what an empty one counts as. -/
theorem holdsLoosely_eq_holds {f : Filter} (h : .any [] ∉ f.parts) :
    f.holdsLoosely e ctx = f.holds e ctx := by
  induction f using Filter.induction with
  | condition c => rfl
  | always => rfl
  | not f ih => rw [holdsLoosely, holds, ih fun hf ↦ h (mem_parts_not.2 (.inr hf))]
  | all fs ih =>
    rw [holdsLoosely_all, holds_all]
    exact all_congr fun f hf ↦ ih f hf fun hp ↦ h (mem_parts_all.2 (.inr ⟨f, hf, hp⟩))
  | any fs ih =>
    have hne : fs.isEmpty = false := by
      cases fs with
      | nil => exact absurd (mem_parts_self _) h
      | cons => rfl
    rw [holdsLoosely_any, holds_any, hne, Bool.false_or]
    exact any_congr fun f hf ↦ ih f hf fun hp ↦ h (mem_parts_any.2 (.inr ⟨f, hf, hp⟩))

/-- **A proper filter and its normal form say the same.** -/
theorem holds_simplify {f : Filter} (h : Proper f) : f.simplify.holds e ctx = f.holds e ctx := by
  have hany : .any [] ∉ f.parts := fun hp ↦ by
    cases h.of_mem_parts hp with
    | any ne => exact ne rfl
  rw [holds_simplify_eq_holdsLoosely, holdsLoosely_eq_holds e ctx hany]

end

/-- **Simplifying keeps the meaning, an *or* of no filters apart**, which becomes true: whatever the
shape of a filter, its normal form holds for an element in a context exactly if the filter does with
every *or* of no filters taken for true, and hence, if there is none in it, exactly if the filter
does. -/
theorem simplify_keeps_meaning (f : Filter) :
    (∀ (e : Element) (ctx : EvalContext), f.simplify.holds e ctx = f.holdsLoosely e ctx) ∧
      (.any [] ∉ f.parts →
        ∀ (e : Element) (ctx : EvalContext), f.simplify.holds e ctx = f.holds e ctx) := by
  refine ⟨fun e ctx ↦ holds_simplify_eq_holdsLoosely e ctx f, fun h e ctx ↦ ?_⟩
  rw [holds_simplify_eq_holdsLoosely, holdsLoosely_eq_holds e ctx h]

/-- An empty *and* decides an *or* of one group below a negation. -/
theorem simplify_keeps_meaning_groups :
    let shop : Filter := .condition (.hasKey "shop" false)
    let f : Filter := .all [.not (.any [.any [.all [], shop]]), .all [shop], .always]
    .any [] ∉ f.parts ∧ f.simplify = .all [.not .always, shop] ∧
      ∀ (e : Element) (ctx : EvalContext), f.simplify.holds e ctx = f.holds e ctx := by
  intro shop f
  have hparts : .any [] ∉ f.parts := by simp [f, shop]
  exact ⟨hparts, rfl, (simplify_keeps_meaning f).2 hparts⟩

-- an empty *or* below a negation: never true before, always true after simplifying
example (e : Element) (ctx : EvalContext) :
    (not (.any [])).holds e ctx = true ∧ (not (.any [])).simplify.holds e ctx = false :=
  ⟨rfl, rfl⟩

end SurveyQuests.Filter
