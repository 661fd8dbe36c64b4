import Mathlib.Order.Bounds.Basic
import SurveyQuests.Proofs.Calendar.DayNumber
import SurveyQuests.Proofs.Filter.Polarity

/-!
# Dates that are known in part

A tag that gives only a month or a year may mean any of its days.  A *pinning* picks one of them for
every tag of an element that can be read as a date (`Pinning`), and under a pinning a date condition
compares the latest of the days picked for its keys and the day of the edit.

The cautious policy is the worst case.  For `older` it pins every tag to its latest day, and then
the latest day of all is as late as under any pinning; for `newer` it pins every tag to its earliest
day, and then the latest day of all is as early as under any pinning.  So a comparison holds under
this policy exactly if it holds under every pinning.  A filter without negations that holds under
the policy holds under every pinning, and so under the other two policies, which are pinnings.

## What is here

* `Pinning`, `Pinning.ofPolicy` — picking days, and how a policy does it;
* `Pinning.days`, `Condition.holdsPinned`, `Filter.holdsPinned` — conditions and filters under a
  pinning;
* `holds_ofPolicy` — policies seen as pinnings;
* `Pinning.le_of_isGreatest` — later days picked, later the latest day;
* `conservative_exact` — **the cautious policy holds by what is certain**.
-/

set_option autoImplicit false

namespace SurveyQuests

/-! ## Spans and the latest of days -/

namespace DateSpan

/-- The days of a span. -/
instance : Membership Date DateSpan := ⟨fun s d ↦ s.earliest ≤ d ∧ d ≤ s.latest⟩

theorem mem_iff {s : DateSpan} {d : Date} : d ∈ s ↔ s.earliest ≤ d ∧ d ≤ s.latest := Iff.rfl

theorem earliest_le_latest_of_ofYear? {year : Int} {s : DateSpan} (h : ofYear? year = some s) :
    s.earliest ≤ s.latest := by
  obtain ⟨first, hfirst, h⟩ := Option.bind_eq_some_iff.1 h
  obtain ⟨last, hlast, h⟩ := Option.bind_eq_some_iff.1 h
  obtain rfl := Option.some.inj h
  obtain ⟨hyear, hmonth, -⟩ := Date.ofCalendar?_eq_some_iff.1 hfirst
  obtain ⟨hyear', hmonth', -⟩ := Date.ofCalendar?_eq_some_iff.1 hlast
  change first ≤ last
  rw [Date.le_iff_monthIndex, Date.monthIndex, Date.monthIndex]
  omega

theorem earliest_le_latest_of_ofMonth? {year : Int} {month : Nat} {s : DateSpan}
    (h : ofMonth? year month = some s) : s.earliest ≤ s.latest := by
  obtain ⟨first, hfirst, h⟩ := Option.bind_eq_some_iff.1 h
  obtain ⟨last, hlast, h⟩ := Option.bind_eq_some_iff.1 h
  obtain rfl := Option.some.inj h
  obtain ⟨hyear, hmonth, hday⟩ := Date.ofCalendar?_eq_some_iff.1 hfirst
  obtain ⟨hyear', hmonth', -⟩ := Date.ofCalendar?_eq_some_iff.1 hlast
  have hpos := last.isDay.2.2.1
  change first ≤ last
  rw [Date.le_iff_monthIndex, Date.monthIndex, Date.monthIndex]
  omega

/-- What a text names has a first and a last day. -/
theorem earliest_le_latest {cs : List Char} {s : DateSpan} (h : read? cs = some s) :
    s.earliest ≤ s.latest := by
  rw [read?] at h
  split at h
  · obtain ⟨year, -, h⟩ := Option.bind_eq_some_iff.1 h
    exact earliest_le_latest_of_ofYear? h
  · obtain ⟨year, -, h⟩ := Option.bind_eq_some_iff.1 h
    obtain ⟨month, -, h⟩ := Option.bind_eq_some_iff.1 h
    exact earliest_le_latest_of_ofMonth? h
  · obtain ⟨year, -, h⟩ := Option.bind_eq_some_iff.1 h
    obtain ⟨month, -, h⟩ := Option.bind_eq_some_iff.1 h
    obtain ⟨day, -, h⟩ := Option.bind_eq_some_iff.1 h
    obtain ⟨d, -, h⟩ := Option.bind_eq_some_iff.1 h
    obtain rfl := Option.some.inj h
    exact le_rfl
  · cases h

end DateSpan

namespace Date

theorem later_eq_max (a b : Date) : later a b = max a b := by
  rw [later, max_def_lt]
  exact if_congr before_eq_true_iff rfl rfl

theorem isGreatest_foldl_later (d : Date) (ds : List Date) :
    IsGreatest {x | x ∈ d :: ds} (ds.foldl later d) := by
  induction ds generalizing d with
  | nil => simp [IsGreatest, upperBounds]
  | cons b ds ih =>
    obtain ⟨hmem, hle⟩ := ih (later d b)
    rw [List.foldl_cons]
    rw [later_eq_max] at hmem hle ⊢
    have hmax : max d b ≤ ds.foldl later (max d b) := hle List.mem_cons_self
    refine ⟨?_, ?_⟩
    · change ds.foldl later (max d b) ∈ d :: b :: ds
      rcases List.mem_cons.1 hmem with heq | hmem
      · rw [heq]
        rcases max_choice d b with h | h <;> simp [h]
      · exact List.mem_cons_of_mem d (List.mem_cons_of_mem b hmem)
    · intro x hx
      rcases List.mem_cons.1 hx with rfl | hx
      · exact (le_max_left _ _).trans hmax
      · rcases List.mem_cons.1 hx with rfl | hx
        · exact (le_max_right _ _).trans hmax
        · exact hle (List.mem_cons_of_mem _ hx)

/-- **The latest of days** is one of them that none of the others is later than. -/
theorem latestOf?_eq_some_iff {ds : List Date} {d : Date} :
    latestOf? ds = some d ↔ IsGreatest {x | x ∈ ds} d := by
  cases ds with
  | nil =>
    constructor
    · intro h
      cases h
    · rintro ⟨h, -⟩
      cases h
  | cons a ds =>
    have hgreatest := isGreatest_foldl_later a ds
    rw [latestOf?, Option.some_inj]
    constructor
    · rintro rfl
      exact hgreatest
    · exact hgreatest.unique

theorem exists_latestOf? {ds : List Date} (h : ds ≠ []) : ∃ d, latestOf? ds = some d := by
  cases ds with
  | nil => exact absurd rfl h
  | cons a ds => exact ⟨_, rfl⟩

end Date

/-! ## Pinnings -/

/-- The days that the tag of a key may mean, if it can be read as a date. -/
def Element.span? (e : Element) (key : String) : Option DateSpan :=
  (e.tags.get? key).bind fun value ↦ DateSpan.read? value.toList

/-- A day for every tag of an element that can be read as a date, out of those that it may mean. -/
structure Pinning (e : Element) where
  day : String → Date
  mem : ∀ key, ∀ span ∈ e.span? key, day key ∈ span

variable {e : Element}

namespace Pinning

/-- The days that a date condition on a key compares: those of the key and of its check date keys,
and the day of the edit. -/
def days (p : Pinning e) (keys : TagDateKeys) : List Date :=
  (keys.candidates.filter fun k ↦ (e.span? k).isSome).map p.day ++ e.edited.toList

theorem mem_days_iff {p : Pinning e} {keys : TagDateKeys} {d : Date} :
    d ∈ p.days keys ↔
      (∃ k ∈ keys.candidates, (e.span? k).isSome ∧ p.day k = d) ∨ e.edited = some d := by
  rw [days, List.mem_append, List.mem_map, Option.mem_toList]
  simp only [List.mem_filter, and_assoc]

/-- Whether there are days does not depend on the pinning. -/
theorem days_ne_nil_iff {p : Pinning e} {keys : TagDateKeys} :
    p.days keys ≠ [] ↔ (∃ k ∈ keys.candidates, (e.span? k).isSome) ∨ e.edited.isSome := by
  constructor
  · intro h
    obtain ⟨d, hd⟩ := List.exists_mem_of_ne_nil _ h
    rcases mem_days_iff.1 hd with ⟨k, hk, hspan, -⟩ | hedited
    · exact .inl ⟨k, hk, hspan⟩
    · exact .inr (Option.isSome_iff_exists.2 ⟨d, hedited⟩)
  · rintro (⟨k, hk, hspan⟩ | hedited)
    · exact List.ne_nil_of_mem (mem_days_iff.2 (.inl ⟨k, hk, hspan, rfl⟩))
    · obtain ⟨d, hd⟩ := Option.isSome_iff_exists.1 hedited
      exact List.ne_nil_of_mem (mem_days_iff.2 (.inr hd))

/-- **Where later days are picked, the latest day is later.** -/
theorem le_of_isGreatest {p q : Pinning e} {keys : TagDateKeys} {d d' : Date}
    (h : ∀ k, (e.span? k).isSome → p.day k ≤ q.day k) (hd : IsGreatest {x | x ∈ p.days keys} d)
    (hd' : IsGreatest {x | x ∈ q.days keys} d') : d ≤ d' := by
  rcases mem_days_iff.1 hd.1 with ⟨k, hk, hspan, rfl⟩ | hedited
  · exact (h k hspan).trans (hd'.2 (mem_days_iff.2 (.inl ⟨k, hk, hspan, rfl⟩)))
  · exact hd'.2 (mem_days_iff.2 (.inr hedited))

/-- What a policy picks for a comparison in a direction. -/
def ofPolicy (e : Element) (policy : PinningPolicy) (direction : Direction) : Pinning e where
  day key := ((e.span? key).map (policy.pin direction)).getD .earliest
  mem := by
    intro key span hspan
    obtain ⟨value, -, hread⟩ := Option.bind_eq_some_iff.1 hspan
    have hle := DateSpan.earliest_le_latest hread
    rw [Option.mem_def.1 hspan, Option.map_some, Option.getD_some, DateSpan.mem_iff]
    cases policy <;> cases direction <;> simp [PinningPolicy.pin, hle]

theorem day_ofPolicy {policy : PinningPolicy} {direction : Direction} {key : String}
    {span : DateSpan} (h : e.span? key = some span) :
    (ofPolicy e policy direction).day key = policy.pin direction span := by
  change ((e.span? key).map (policy.pin direction)).getD .earliest = policy.pin direction span
  rw [h]
  rfl

theorem pinnedDates_eq (keys : TagDateKeys) (direction : Direction) (policy : PinningPolicy) :
    pinnedDates keys direction e policy ++ e.edited.toList =
      (ofPolicy e policy direction).days keys := by
  rw [pinnedDates, days]
  congr 1
  induction keys.candidates with
  | nil => rfl
  | cons k ks ih =>
    have hspan : (do
        let span ← DateSpan.read? (← e.tags.get? k).toList
        some (policy.pin direction span)) = (e.span? k).map (policy.pin direction) := by
      rw [Element.span?]
      cases e.tags.get? k with
      | none => rfl
      | some value => exact Option.map_eq_bind.symm
    rw [List.filterMap_cons, hspan, ih, List.filter_cons]
    cases h : e.span? k with
    | none => rfl
    | some span =>
      rw [Option.map_some, Option.isSome_some, if_pos rfl, List.map_cons, day_ofPolicy h]

/-- For `older` the cautious policy picks the latest days, and for `newer` the earliest. -/
theorem ofPolicy_conservative_older (p : Pinning e) {key : String} (h : (e.span? key).isSome) :
    p.day key ≤ (ofPolicy e .conservative .older).day key := by
  obtain ⟨span, hspan⟩ := Option.isSome_iff_exists.1 h
  rw [day_ofPolicy hspan]
  exact (p.mem key span hspan).2

theorem ofPolicy_conservative_newer (p : Pinning e) {key : String} (h : (e.span? key).isSome) :
    (ofPolicy e .conservative .newer).day key ≤ p.day key := by
  obtain ⟨span, hspan⟩ := Option.isSome_iff_exists.1 h
  rw [day_ofPolicy hspan]
  exact (p.mem key span hspan).1

end Pinning

/-! ## Comparisons under a pinning -/

/-- Does the first day lie before the second for `older`, and behind it for `newer`? -/
def Direction.Lies (direction : Direction) (d threshold : Date) : Prop :=
  match direction with
  | .older => d < threshold
  | .newer => threshold < d

theorem Direction.test_eq_true_iff {direction : Direction} {d threshold : Date} :
    direction.test d threshold = true ↔ direction.Lies d threshold := by
  cases direction <;> exact Date.before_eq_true_iff

/-- Is a date known for a key?  There is a tag with the key or with a check date key of it, and the
value of one of these can be read as a date, or the day of the edit is known. -/
def Element.KnowsDate (e : Element) (keys : TagDateKeys) : Prop :=
  (∃ k ∈ keys.candidates, e.tags.contains k = true) ∧
    ((∃ k ∈ keys.candidates, (e.span? k).isSome) ∨ e.edited.isSome)

/-- The latest day that is known for a key under a pinning. -/
def Pinning.known? (p : Pinning e) (keys : TagDateKeys) : Option Date :=
  if keys.candidates.any e.tags.contains then Date.latestOf? (p.days keys) else none

theorem Pinning.known?_eq_some_iff {p : Pinning e} {keys : TagDateKeys} {d : Date} :
    p.known? keys = some d ↔ e.KnowsDate keys ∧ IsGreatest {x | x ∈ p.days keys} d := by
  rw [known?, Element.KnowsDate, ← p.days_ne_nil_iff, ← List.any_eq_true]
  split
  · rename_i hany
    rw [Date.latestOf?_eq_some_iff]
    constructor
    · intro h
      exact ⟨⟨hany, List.ne_nil_of_mem h.1⟩, h⟩
    · rintro ⟨-, h⟩
      exact h
  · rename_i hany
    constructor
    · intro h
      cases h
    · rintro ⟨⟨h, -⟩, -⟩
      exact absurd h hany

theorem Pinning.exists_known? (p : Pinning e) {keys : TagDateKeys} (h : e.KnowsDate keys) :
    ∃ d, p.known? keys = some d := by
  obtain ⟨hany, hdays⟩ := h
  obtain ⟨d, hd⟩ := Date.exists_latestOf? (p.days_ne_nil_iff.2 hdays)
  exact ⟨d, p.known?_eq_some_iff.2 ⟨⟨hany, hdays⟩, Date.latestOf?_eq_some_iff.1 hd⟩⟩

theorem knownDate?_tag (keys : TagDateKeys) (direction : Direction) (policy : PinningPolicy) :
    knownDate? (.tag keys) direction e policy =
      (Pinning.ofPolicy e policy direction).known? keys := by
  rw [knownDate?, Pinning.known?, Pinning.pinnedDates_eq]

/-- Does the condition hold for the element under a pinning?  This concerns date conditions on a
key; the others hold or do not hold under any policy. -/
def Condition.holdsPinned (p : Pinning e) (day : Date) : Condition → Bool
  | .date (.tag keys) direction anchor =>
    match p.known? keys with
    | some d => direction.test d (anchor.resolve day)
    | none => false
  | c => c.holds e ⟨day, .conservative⟩

/-- Does the filter hold for the element if all its date conditions use a pinning? -/
def Filter.holdsPinned (p : Pinning e) (day : Date) (f : Filter) : Bool :=
  f.holdsBy (Condition.holdsPinned p day)

theorem Condition.holds_ofPolicy {policy : PinningPolicy} (direction : Direction)
    (h : ∀ other span, policy.pin other span = policy.pin direction span) (day : Date)
    (c : Condition) :
    c.holds e ⟨day, policy⟩ = c.holdsPinned (Pinning.ofPolicy e policy direction) day := by
  cases c with
  | date target other anchor =>
    cases target with
    | element => rfl
    | tag keys =>
      have hpin : policy.pin other = policy.pin direction := funext (h other)
      have hknown : knownDate? (.tag keys) other e policy =
          (Pinning.ofPolicy e policy direction).known? keys := by
        simp only [knownDate?_tag, Pinning.ofPolicy, hpin]
      cases hk : (Pinning.ofPolicy e policy direction).known? keys <;>
        simp [holds, holdsPinned, hknown, hk]
  | _ => rfl

/-- **A policy that does not look at the direction is a pinning.** -/
theorem Filter.holds_ofPolicy {policy : PinningPolicy} (direction : Direction)
    (h : ∀ other span, policy.pin other span = policy.pin direction span) (day : Date)
    (f : Filter) :
    f.holds e ⟨day, policy⟩ = f.holdsPinned (Pinning.ofPolicy e policy direction) day := by
  rw [holds_eq_holdsBy, holdsPinned, funext (Condition.holds_ofPolicy direction h day)]

/-! ## The cautious policy -/

/-- A comparison is the comparison with the latest known day. -/
theorem Condition.holds_tag_iff {keys : TagDateKeys} {direction : Direction}
    {anchor : DateAnchor} {day : Date} {policy : PinningPolicy} :
    (Condition.date (.tag keys) direction anchor).holds e ⟨day, policy⟩ = true ↔
      ∃ d, (Pinning.ofPolicy e policy direction).known? keys = some d ∧
        direction.Lies d (anchor.resolve day) := by
  rw [holds, knownDate?_tag]
  dsimp only
  cases (Pinning.ofPolicy e policy direction).known? keys with
  | none => simp
  | some d => simp [Direction.test_eq_true_iff]

/-- What lies in a direction under the cautious policy lies there under every pinning. -/
theorem Direction.Lies.of_conservative {direction : Direction} {keys : TagDateKeys}
    {d d' threshold : Date} {p : Pinning e} (h : direction.Lies d threshold)
    (hd : IsGreatest {x | x ∈ (Pinning.ofPolicy e .conservative direction).days keys} d)
    (hd' : IsGreatest {x | x ∈ p.days keys} d') : direction.Lies d' threshold := by
  cases direction with
  | older =>
    have hle := Pinning.le_of_isGreatest (fun _ ↦ p.ofPolicy_conservative_older) hd' hd
    exact hle.trans_lt h
  | newer =>
    have hle := Pinning.le_of_isGreatest (fun _ ↦ p.ofPolicy_conservative_newer) hd hd'
    exact lt_of_lt_of_le h hle

/-- A condition that holds under the cautious policy holds under every pinning. -/
theorem Condition.holdsPinned_of_conservative {c : Condition} {day : Date} (p : Pinning e)
    (h : c.holds e ⟨day, .conservative⟩ = true) : c.holdsPinned p day = true := by
  cases c with
  | date target direction anchor =>
    cases target with
    | element => exact h
    | tag keys =>
      obtain ⟨d, hd, hlies⟩ := holds_tag_iff.1 h
      obtain ⟨hknows, hgreatest⟩ := Pinning.known?_eq_some_iff.1 hd
      obtain ⟨d', hd'⟩ := p.exists_known? hknows
      obtain ⟨-, hgreatest'⟩ := Pinning.known?_eq_some_iff.1 hd'
      rw [holdsPinned, hd']
      exact Direction.test_eq_true_iff.2 (hlies.of_conservative hgreatest hgreatest')
  | _ => exact h

/-- **The cautious policy holds by what is certain.**  A date condition on a key holds under it if
and only if a date is known for the key and under every pinning the latest of the days lies in the
direction of the comparison.  A filter without negations that holds under it holds under every
pinning, and so under the policies of the first and of the last day. -/
theorem conservative_exact (e : Element) (day : Date) :
    (∀ (keys : TagDateKeys) (direction : Direction) (anchor : DateAnchor),
      (Condition.date (.tag keys) direction anchor).holds e ⟨day, .conservative⟩ = true ↔
        e.KnowsDate keys ∧ ∀ (p : Pinning e) (d : Date), IsGreatest {x | x ∈ p.days keys} d →
          direction.Lies d (anchor.resolve day)) ∧
      ∀ f : Filter, f.Positive → f.holds e ⟨day, .conservative⟩ = true →
        (∀ p : Pinning e, f.holdsPinned p day = true) ∧
          f.holds e ⟨day, .earliestDay⟩ = true ∧ f.holds e ⟨day, .latestDay⟩ = true := by
  refine ⟨fun keys direction anchor ↦ ?_, fun f hf h ↦ ?_⟩
  · rw [Condition.holds_tag_iff]
    constructor
    · rintro ⟨d, hd, hlies⟩
      obtain ⟨hknows, hgreatest⟩ := Pinning.known?_eq_some_iff.1 hd
      exact ⟨hknows, fun p d' hd' ↦ hlies.of_conservative hgreatest hd'⟩
    · rintro ⟨hknows, hall⟩
      -- The policy itself is one of the pinnings, as far as one direction is concerned.
      obtain ⟨d, hd⟩ := (Pinning.ofPolicy e .conservative direction).exists_known? hknows
      exact ⟨d, hd, hall _ d (Pinning.known?_eq_some_iff.1 hd).2⟩
  · have hpinned : ∀ p : Pinning e, f.holdsPinned p day = true := by
      intro p
      rw [Filter.holds_eq_holdsBy] at h
      exact hf.holdsBy_mono (fun c ↦ Condition.holdsPinned_of_conservative p) h
    refine ⟨hpinned, ?_, ?_⟩
    · rw [Filter.holds_ofPolicy .older fun _ _ ↦ rfl]
      exact hpinned _
    · rw [Filter.holds_ofPolicy .older fun _ _ ↦ rfl]
      exact hpinned _

/-- The theorem for a shop that was surveyed in some month of 2019 and some day of 2021, and looked
at in 2023 for surveys of more than a year ago. -/
theorem conservative_exact_shop :
    let tags : Tags :=
      .ofList [("shop", "yes"), ("lastcheck:shop", "2019-06"), ("check_date:shop", "2021")]
    let shop : Element := { kind := .node, tags, edited := some ⟨2018, 1, 5, by decide⟩ }
    let f : Filter := .any [.condition (.hasKey "vacant" false),
      .condition (.date (.tag (.ofKey "shop")) .older (.relative (.ofRatio false 1 1) .years))]
    let day : Date := ⟨2023, 1, 1, by decide⟩
    f.Positive ∧ f.holds shop ⟨day, .conservative⟩ = true ∧
      (∀ p : Pinning shop, f.holdsPinned p day = true) ∧
        f.holds shop ⟨day, .earliestDay⟩ = true ∧ f.holds shop ⟨day, .latestDay⟩ = true := by
  intro tags shop f day
  have hpositive : f.Positive := by
    refine .any ?_
    simp only [List.forall_mem_cons, List.not_mem_nil, false_implies, implies_true, and_true]
    exact ⟨.condition _, .condition _⟩
  have hholds : f.holds shop ⟨day, .conservative⟩ = true := by decide +kernel
  exact ⟨hpositive, hholds, (conservative_exact shop day).2 f hpositive hholds⟩

end SurveyQuests
