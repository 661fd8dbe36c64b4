import SurveyQuests.Proofs.Query.Ripening

/-!
# What a filter looks at

Of an element a filter looks at the tags whose keys it names.  A comparison of the date of a key
names the key and all its check date keys, and looks at the day of the last edit besides; a pattern
for keys looks at all the keys, but at no value.  Elements that agree in this cannot be told apart
by the filter, whatever they are and whatever else is known about them.

The evaluation of a filter is followed down to its conditions once, in `Filter.holds_congr`: it is
`Filter.holdsBy_mono` both ways, as conditions that come out alike may stand under any number of
negations.

## What is here

* `Condition.namedKeys`, `Condition.LooksAlike`, `Filter.LooksAlike` — what is looked at;
* `knownDate?_congr` — what the date of a key is made of;
* `Condition.holds_of_looksAlike` — conditions on elements that look alike;
* `Condition.holds_congr_policy` — conditions under another policy;
* `Filter.sees_only_what_it_names` — **what the result of a filter depends on**.
-/

set_option autoImplicit false

namespace SurveyQuests

variable {e e' : Element}

/-! ## What is looked at -/

namespace Condition

/-- The keys whose values the condition reads. -/
def namedKeys : Condition → List String
  | .hasKey key _ | .compares key _ _ | .valueMatches key _ _ | .oneOf key _ _ | .numeric key _ _ =>
    [key]
  | .date (.tag keys) _ _ => keys.candidates
  | .keyMatches _ _ | .date .element _ _ => []

/-- Does the condition compare a date? -/
def IsDate (c : Condition) : Prop :=
  ∃ target direction anchor, c = .date target direction anchor

/-- Does the condition compare the date of a key? -/
def IsTagDate (c : Condition) : Prop :=
  ∃ keys direction anchor, c = .date (.tag keys) direction anchor

/-- Is the condition a pattern for keys? -/
def IsKeyPattern (c : Condition) : Prop :=
  ∃ pattern negated, c = .keyMatches pattern negated

/-- Do two elements agree in all that the condition looks at? -/
structure LooksAlike (c : Condition) (e e' : Element) : Prop where
  /-- A key that is named has the same value in both, or none. -/
  tags : ∀ key ∈ c.namedKeys, e.tags.get? key = e'.tags.get? key
  /-- Dates may come from the last edit. -/
  edited : c.IsDate → e.edited = e'.edited
  /-- Patterns for keys are tried on every key. -/
  keys : c.IsKeyPattern → ∀ key, key ∈ e.tags.keys ↔ key ∈ e'.tags.keys

end Condition

/-- Do two elements agree in all that the conditions of the filter look at? -/
def Filter.LooksAlike (f : Filter) (e e' : Element) : Prop :=
  ∀ c ∈ f.conditions, c.LooksAlike e e'

/-! ## Conditions -/

/-- The date of a key is made of the tags with its check date keys, and of the edit. -/
theorem knownDate?_congr {keys : TagDateKeys} {e e' : Element} (hedited : e.edited = e'.edited)
    (h : ∀ k ∈ keys.candidates, e.tags.get? k = e'.tags.get? k) (direction : Direction)
    (policy : PinningPolicy) :
    knownDate? (.tag keys) direction e policy = knownDate? (.tag keys) direction e' policy := by
  have hany :
      keys.candidates.any e.tags.contains = keys.candidates.any e'.tags.contains := by
    rw [Bool.eq_iff_iff, List.any_eq_true, List.any_eq_true]
    refine exists_congr fun k ↦ and_congr_right fun hk ↦ ?_
    rw [Tags.contains, Tags.contains, h k hk]
  have hdates : pinnedDates keys direction e policy = pinnedDates keys direction e' policy := by
    refine List.filterMap_congr fun k hk ↦ ?_
    rw [h k hk]
  rw [knownDate?, knownDate?, hany, hdates, hedited]

namespace Condition

/-- A condition does not tell apart elements that look alike. -/
theorem holds_of_looksAlike {c : Condition} (h : c.LooksAlike e e') (ctx : EvalContext) :
    c.holds e ctx = c.holds e' ctx := by
  cases c with
  | keyMatches pattern negated =>
    have hany : e.tags.keys.any pattern.isMatch = e'.tags.keys.any pattern.isMatch := by
      rw [Bool.eq_iff_iff, List.any_eq_true, List.any_eq_true]
      exact exists_congr fun key ↦ and_congr_left' (h.keys ⟨pattern, negated, rfl⟩ key)
    rw [holds, holds, hany]
  | date target direction anchor =>
    have hedited := h.edited ⟨target, direction, anchor, rfl⟩
    cases target with
    | element => rw [holds, holds, knownDate?, knownDate?, hedited]
    | tag keys => rw [holds, holds, knownDate?_congr hedited h.tags]
  | hasKey key negated =>
    rw [holds, holds, Tags.contains, Tags.contains, h.tags key (List.mem_singleton_self key)]
  | compares key op value => rw [holds, holds, h.tags key (List.mem_singleton_self key)]
  | valueMatches key pattern negated =>
    rw [holds, holds, h.tags key (List.mem_singleton_self key)]
  | oneOf key values negated => rw [holds, holds, h.tags key (List.mem_singleton_self key)]
  | numeric key op value => rw [holds, holds, h.tags key (List.mem_singleton_self key)]

/-- Only the dates of keys are known in part. -/
theorem holds_congr_policy {c : Condition} (h : ¬ c.IsTagDate) (e : Element) (day : Date)
    (policy policy' : PinningPolicy) : c.holds e ⟨day, policy⟩ = c.holds e ⟨day, policy'⟩ := by
  cases c with
  | date target direction anchor =>
    cases target with
    | element => rfl
    | tag keys => exact absurd ⟨keys, direction, anchor, rfl⟩ h
  | _ => rfl

end Condition

/-! ## Filters -/

namespace Filter

/-- A filter whose conditions come out alike comes out alike. -/
theorem holds_congr {f : Filter} {ctx ctx' : EvalContext}
    (h : ∀ c ∈ f.conditions, c.holds e ctx = c.holds e' ctx') :
    f.holds e ctx = f.holds e' ctx' := by
  have hmp : ∀ n c, StandsUnder n c f → c.holds e ctx = true → c.holds e' ctx' = true :=
    fun n c hc hholds ↦ (h c hc.mem_conditions).symm.trans hholds
  have hmpr : ∀ n c, StandsUnder n c f → c.holds e' ctx' = true → c.holds e ctx = true :=
    fun n c hc hholds ↦ (h c hc.mem_conditions).trans hholds
  rw [holds_eq_holdsBy, holds_eq_holdsBy, Bool.eq_iff_iff]
  exact ⟨holdsBy_mono (fun n c hc _ ↦ hmp n c hc) (fun n c hc _ ↦ hmpr n c hc),
    holdsBy_mono (fun n c hc _ ↦ hmpr n c hc) (fun n c hc _ ↦ hmp n c hc)⟩

/-- **A filter sees only what it names**: it gives the same result for elements that look alike to
it, on any day and under any policy.  Without a day that is counted back it gives the same result on
all days of reference, and without a comparison of the date of a key under all policies. -/
theorem sees_only_what_it_names (f : Filter) :
    (∀ e e', f.LooksAlike e e' → ∀ ctx, f.holds e ctx = f.holds e' ctx) ∧
      ((∀ c ∈ f.conditions, ¬ c.IsRelative) →
        ∀ e policy day day', f.holds e ⟨day, policy⟩ = f.holds e ⟨day', policy⟩) ∧
      ((∀ c ∈ f.conditions, ¬ c.IsTagDate) →
        ∀ e day policy policy', f.holds e ⟨day, policy⟩ = f.holds e ⟨day, policy'⟩) := by
  refine ⟨fun e e' h ctx ↦ ?_, fun h e policy day day' ↦ ?_, fun h e day policy policy' ↦ ?_⟩
  · exact holds_congr fun c hc ↦ Condition.holds_of_looksAlike (h c hc) ctx
  · exact holds_congr fun c hc ↦ Condition.holds_congr (h c hc) e policy day day'
  · exact holds_congr fun c hc ↦ Condition.holds_congr_policy (h c hc) e day policy policy'

/-- The theorem for a small and a large shop with other names, surveyed alike: by a filter that
looks at the keys of their names and at the date of the survey, and by one that looks at the last
edit. -/
theorem sees_only_what_it_names_shop :
    let pattern := (Pattern.compile? "name:.*").get (by decide +kernel)
    let surveyed : Filter := .all [.not (.condition (.keyMatches pattern true)),
      .condition (.date (.tag (.ofKey "shop")) .older (.fixed ⟨2021, 1, 1, by decide⟩))]
    let untouched : Filter :=
      .not (.condition (.date .element .newer (.relative (.ofRatio false 1 1) .years)))
    let stall : Element :=
      { kind := .node, id := 7, edited := some ⟨2019, 5, 4, by decide⟩,
        tags := .ofList [("shop", "yes"), ("name:de", "Laden"), ("check_date:shop", "2020")] }
    let mall : Element :=
      { kind := .way, id := 8, edited := some ⟨2019, 5, 4, by decide⟩,
        tags := .ofList [("check_date:shop", "2020"), ("name:de", "Kaufhaus"), ("shop", "yes")] }
    let day : Date := ⟨2022, 2, 2, by decide⟩
    let later : Date := ⟨2031, 1, 1, by decide⟩
    (surveyed.LooksAlike stall mall ∧ surveyed.holds mall ⟨day, .latestDay⟩ = true) ∧
      ((∀ c ∈ surveyed.conditions, ¬ c.IsRelative) ∧
        surveyed.holds stall ⟨later, .latestDay⟩ = true) ∧
      (∀ c ∈ untouched.conditions, ¬ c.IsTagDate) ∧
        untouched.holds stall ⟨day, .earliestDay⟩ = true := by
  intro pattern surveyed untouched stall mall day later
  have halike : surveyed.LooksAlike stall mall := by
    have htags : ∀ c ∈ surveyed.conditions, ∀ key ∈ c.namedKeys,
        stall.tags.get? key = mall.tags.get? key := by decide +kernel
    have hkeys : stall.tags.keys.Perm mall.tags.keys := by decide +kernel
    exact fun c hc ↦ ⟨htags c hc, fun _ ↦ rfl, fun _ _ ↦ hkeys.mem_iff⟩
  have hfixed : ∀ c ∈ surveyed.conditions, ¬ c.IsRelative := by
    change ∀ c ∈ [_, _], ¬ Condition.IsRelative c
    simp only [List.forall_mem_cons, List.not_mem_nil, false_implies, implies_true, and_true]
    constructor
    · rintro ⟨_, _, _, _, h⟩
      cases h
    · rintro ⟨_, _, _, _, h⟩
      cases h
  have hedit : ∀ c ∈ untouched.conditions, ¬ c.IsTagDate := by
    intro c hc
    obtain rfl := List.mem_singleton.1 hc
    rintro ⟨_, _, _, h⟩
    cases h
  have hsurveyed : surveyed.holds stall ⟨day, .latestDay⟩ = true := by decide +kernel
  have huntouched : untouched.holds stall ⟨day, .conservative⟩ = true := by decide +kernel
  refine ⟨⟨halike, ?_⟩, ⟨hfixed, ?_⟩, hedit, ?_⟩
  · exact ((sees_only_what_it_names surveyed).1 stall mall halike _).symm.trans hsurveyed
  · exact ((sees_only_what_it_names surveyed).2.1 hfixed stall _ later day).trans hsurveyed
  · exact ((sees_only_what_it_names untouched).2.2 hedit stall day _ _).trans huntouched

end Filter

end SurveyQuests
