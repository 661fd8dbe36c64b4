import SurveyQuests.Proofs.Calendar.GoingBack
import SurveyQuests.Proofs.Calendar.IsoText
import SurveyQuests.Proofs.Filter.Pinning

/-!
# Surveys settle what is due

An element is due for a survey of a key while `older` holds.  Whoever surveys it leaves the day in
one of the tags that may hold it, or edits the element; either way a day is known from then on that
is not before the day of reference, and so it is not before any day that is counted back from there.
The latest of the known days is later still, whatever the other tags hold, and `older` does not
hold.

What is learned later about an element does not undo this.  Where a date is known already, more tags
and later edits only add days or put later ones in place of others (`Element.Updates`), so the
latest known day does not get earlier.  Where none is known this fails: the first tag may bring an
old date, and then `older` begins to hold.

## What is here

* `exists_knownDate?`, `Condition.holds_older_eq_false` — a late day among the known ones;
* `Element.surveyed`, `Element.editedOn` — surveys and edits on a day;
* `Element.Updates` — what is learned about an element, with the ways that it is learned;
* `Element.Updates.isGreatest_le` — the latest known day afterwards;
* `surveys_settle_older` — **recorded surveys settle `older`**.
-/

set_option autoImplicit false

namespace SurveyQuests

variable {e e' : Element} {keys : TagDateKeys} {policy : PinningPolicy}

/-! ## A late day among the known ones -/

theorem isSome_knownDate?_iff {direction : Direction} :
    (knownDate? (.tag keys) direction e policy).isSome = true ↔ e.KnowsDate keys := by
  rw [knownDate?_tag, Option.isSome_iff_exists]
  constructor
  · rintro ⟨d, hd⟩
    exact (Pinning.known?_eq_some_iff.1 hd).1
  · exact Pinning.exists_known? _

/-- The known date is not before any of the days that are compared. -/
theorem exists_knownDate? {direction : Direction} {d : Date} (hknows : e.KnowsDate keys)
    (hd : d ∈ (Pinning.ofPolicy e policy direction).days keys) :
    ∃ latest, knownDate? (.tag keys) direction e policy = some latest ∧ d ≤ latest := by
  obtain ⟨latest, hlatest⟩ := (Pinning.ofPolicy e policy direction).exists_known? hknows
  exact ⟨latest, by rw [knownDate?_tag, hlatest], (Pinning.known?_eq_some_iff.1 hlatest).2.2 hd⟩

/-- What is not before a day is not older than it. -/
theorem Condition.holds_older_eq_false {d day : Date} {anchor : DateAnchor}
    (hknown : knownDate? (.tag keys) .older e policy = some d) (hle : anchor.resolve day ≤ d) :
    (date (.tag keys) .older anchor).holds e ⟨day, policy⟩ = false := by
  rw [holds, hknown, Bool.eq_false_iff, ne_eq]
  dsimp only
  rw [Direction.test, Date.before_eq_true_iff]
  exact hle.not_gt

/-- The element with a day left in a tag. -/
def Element.surveyed (e : Element) (k : String) (d : Date) : Element :=
  { e with tags := e.tags.insert k d.text }

/-- The element after an edit on a day. -/
def Element.editedOn (e : Element) (d : Date) : Element := { e with edited := some d }

theorem Element.span?_surveyed {k : String} {d : Date} (hd : 0 ≤ d.year) :
    (e.surveyed k d).span? k = some (.single d) := by
  rw [span?, surveyed, Tags.get?_insert, if_pos rfl, Option.bind_some, Date.read?_text hd]

theorem Element.knowsDate_surveyed {k : String} {d : Date} (hk : k ∈ keys.candidates)
    (hd : 0 ≤ d.year) : (e.surveyed k d).KnowsDate keys := by
  refine ⟨⟨k, hk, ?_⟩, .inl ⟨k, hk, by simp [span?_surveyed hd]⟩⟩
  rw [Tags.contains, surveyed, Tags.get?_insert, if_pos rfl, Option.isSome_some]

theorem Element.mem_days_surveyed {k : String} {d : Date} (hk : k ∈ keys.candidates)
    (hd : 0 ≤ d.year) (direction : Direction) :
    d ∈ (Pinning.ofPolicy (e.surveyed k d) policy direction).days keys := by
  have hspan : (e.surveyed k d).span? k = some (.single d) := span?_surveyed hd
  refine Pinning.mem_days_iff.2 (.inl ⟨k, hk, by simp [hspan], ?_⟩)
  rw [Pinning.day_ofPolicy hspan]
  -- A single day is all that a policy can pick.
  cases policy <;> cases direction <;> rfl

/-! ## What is learned about an element -/

namespace Element

/-- The second element has all tags of the first one, and perhaps more, and its edit is not
earlier, if the edit of the first one is known. -/
structure Updates (e e' : Element) : Prop where
  tags : ∀ k value, e.tags.get? k = some value → e'.tags.get? k = some value
  edited : ∀ d, e.edited = some d → ∃ d', e'.edited = some d' ∧ d ≤ d'

theorem Updates.trans {e'' : Element} (h : e.Updates e') (h' : e'.Updates e'') :
    e.Updates e'' where
  tags k value hvalue := h'.tags k value (h.tags k value hvalue)
  edited d hd := by
    obtain ⟨d', hd', hle⟩ := h.edited d hd
    obtain ⟨d'', hd'', hle'⟩ := h'.edited d' hd'
    exact ⟨d'', hd'', hle.trans hle'⟩

/-- A tag is added. -/
theorem updates_insert {k : String} (h : e.tags.contains k = false) (value : String) :
    e.Updates { e with tags := e.tags.insert k value } where
  tags k' value' hvalue := by
    have hne : k' ≠ k := by
      rintro rfl
      simp [Tags.contains, hvalue] at h
    rwa [Tags.get?_insert, if_neg hne]
  edited d hd := ⟨d, hd, le_rfl⟩

/-- An edit becomes known, or there is a later one. -/
theorem updates_editedOn {d : Date} (h : ∀ d' ∈ e.edited, d' ≤ d) : e.Updates (e.editedOn d) where
  tags _ _ hvalue := hvalue
  edited d' hd' := ⟨d, rfl, h d' hd'⟩

/-- Tags that could be read as dates have not changed. -/
theorem Updates.span?_eq (h : e.Updates e') {k : String} {span : DateSpan}
    (hspan : e.span? k = some span) : e'.span? k = some span := by
  obtain ⟨value, hvalue, hread⟩ := Option.bind_eq_some_iff.1 hspan
  rw [span?, h.tags k value hvalue, Option.bind_some, hread]

theorem Updates.knowsDate (h : e.Updates e') (hknows : e.KnowsDate keys) : e'.KnowsDate keys := by
  obtain ⟨⟨k, hk, hcontains⟩, hdays⟩ := hknows
  refine ⟨⟨k, hk, ?_⟩, ?_⟩
  · obtain ⟨value, hvalue⟩ := Option.isSome_iff_exists.1 hcontains
    exact Option.isSome_iff_exists.2 ⟨value, h.tags k value hvalue⟩
  · rcases hdays with ⟨k, hk, hspan⟩ | hedited
    · obtain ⟨span, hspan⟩ := Option.isSome_iff_exists.1 hspan
      exact .inl ⟨k, hk, Option.isSome_iff_exists.2 ⟨span, h.span?_eq hspan⟩⟩
    · obtain ⟨d, hd⟩ := Option.isSome_iff_exists.1 hedited
      obtain ⟨d', hd', -⟩ := h.edited d hd
      exact .inr (Option.isSome_iff_exists.2 ⟨d', hd'⟩)

/-- **The latest known day does not get earlier.** -/
theorem Updates.isGreatest_le (h : e.Updates e') {direction : Direction} {d d' : Date}
    (hd : IsGreatest {x | x ∈ (Pinning.ofPolicy e policy direction).days keys} d)
    (hd' : IsGreatest {x | x ∈ (Pinning.ofPolicy e' policy direction).days keys} d') :
    d ≤ d' := by
  rcases Pinning.mem_days_iff.1 hd.1 with ⟨k, hk, hspan, rfl⟩ | hedited
  · obtain ⟨span, hspan⟩ := Option.isSome_iff_exists.1 hspan
    have hspan' := h.span?_eq hspan
    -- The tag has the same span in both, and the policy picks the same day of it.
    rw [Pinning.day_ofPolicy hspan, ← Pinning.day_ofPolicy hspan']
    exact hd'.2 (Pinning.mem_days_iff.2 (.inl ⟨k, hk, by simp [hspan'], rfl⟩))
  · obtain ⟨later, hlater, hle⟩ := h.edited d hedited
    exact hle.trans (hd'.2 (Pinning.mem_days_iff.2 (.inr hlater)))

end Element

/-- What is older afterwards has been older, if a date was known. -/
theorem Element.Updates.holds_older (h : e.Updates e') (hknows : e.KnowsDate keys)
    {anchor : DateAnchor} {day : Date}
    (hholds : (Condition.date (.tag keys) .older anchor).holds e' ⟨day, policy⟩ = true) :
    (Condition.date (.tag keys) .older anchor).holds e ⟨day, policy⟩ = true := by
  rw [Condition.holds_tag_iff] at hholds ⊢
  obtain ⟨d', hd', hlt⟩ := hholds
  obtain ⟨d, hd⟩ := (Pinning.ofPolicy e policy .older).exists_known? hknows
  have hle :=
    h.isGreatest_le (Pinning.known?_eq_some_iff.1 hd).2 (Pinning.known?_eq_some_iff.1 hd').2
  exact ⟨d, hd, lt_of_le_of_lt hle hlt⟩

/-- What was newer is still newer. -/
theorem Element.Updates.holds_newer (h : e.Updates e') {anchor : DateAnchor} {day : Date}
    (hholds : (Condition.date (.tag keys) .newer anchor).holds e ⟨day, policy⟩ = true) :
    (Condition.date (.tag keys) .newer anchor).holds e' ⟨day, policy⟩ = true := by
  rw [Condition.holds_tag_iff] at hholds ⊢
  obtain ⟨d, hd, hlt⟩ := hholds
  obtain ⟨hknows, hgreatest⟩ := Pinning.known?_eq_some_iff.1 hd
  obtain ⟨d', hd'⟩ := (Pinning.ofPolicy e' policy .newer).exists_known? (h.knowsDate hknows)
  have hle := h.isGreatest_le hgreatest (Pinning.known?_eq_some_iff.1 hd').2
  exact ⟨d', hd', lt_of_lt_of_le hlt hle⟩

/-! ## Surveys -/

/-- **Recorded surveys settle `older`.**  Once the day of reference or a later one has been left in
any of the tags for a key, or the element has been edited then and has one of these tags, the known
date is not before the day of reference, and the element is not older than any day that is counted
back from there.  And where a date is known, more tags and a later edit never begin to make the
element older than a day, nor cease to make it newer. -/
theorem surveys_settle_older (e : Element) (keys : TagDateKeys) (policy : PinningPolicy) :
    (∀ (magnitude : Binary64) (unit : DateUnit), Binary64.zero.le magnitude = true →
      ∀ day d : Date, 0 ≤ day.year → day ≤ d → ∀ k ∈ keys.candidates, ∀ e' : Element,
        e' = e.surveyed k d ∨ (e.tags.contains k = true ∧ e' = e.editedOn d) →
          (∃ latest, knownDate? (.tag keys) .older e' policy = some latest ∧ day ≤ latest) ∧
            (Condition.date (.tag keys) .older (.relative magnitude unit)).holds e'
              ⟨day, policy⟩ = false) ∧
      ∀ e', e.Updates e' → ∀ (anchor : DateAnchor) (day : Date),
        ((knownDate? (.tag keys) .older e policy).isSome = true →
          (Condition.date (.tag keys) .older anchor).holds e' ⟨day, policy⟩ = true →
            (Condition.date (.tag keys) .older anchor).holds e ⟨day, policy⟩ = true) ∧
        ((Condition.date (.tag keys) .newer anchor).holds e ⟨day, policy⟩ = true →
          (Condition.date (.tag keys) .newer anchor).holds e' ⟨day, policy⟩ = true) := by
  refine ⟨fun magnitude unit hmagnitude day d hyear hle k hk e' he' ↦ ?_, fun e' h anchor day ↦
    ⟨fun hknown ↦ h.holds_older (isSome_knownDate?_iff.1 hknown), h.holds_newer⟩⟩
  have hdays : e'.KnowsDate keys ∧ d ∈ (Pinning.ofPolicy e' policy .older).days keys := by
    rcases he' with rfl | ⟨hcontains, rfl⟩
    · have hyear' : 0 ≤ d.year := hyear.trans (Date.year_mono hle)
      exact ⟨Element.knowsDate_surveyed hk hyear', Element.mem_days_surveyed hk hyear' .older⟩
    · exact ⟨⟨⟨k, hk, hcontains⟩, .inr rfl⟩, Pinning.mem_days_iff.2 (.inr rfl)⟩
  obtain ⟨latest, hknown, hlatest⟩ := exists_knownDate? hdays.1 hdays.2
  refine ⟨⟨latest, hknown, hle.trans hlatest⟩, Condition.holds_older_eq_false hknown ?_⟩
  exact (Date.goBack_le hmagnitude unit day).trans (hle.trans hlatest)

/-- The theorem for a shop with a tag that is no date, last edited in 2019 and visited in 2024: it
is not older than a year any more, nor is it when it later gets one more tag and one more edit. -/
theorem surveys_settle_older_shop :
    let tags : Tags := .ofList [("shop", "yes"), ("check_date:shop", "yesterday")]
    let shop : Element := { kind := .node, tags, edited := some ⟨2019, 5, 1, by decide⟩ }
    let older : Condition := .date (.tag (.ofKey "shop")) .older
      (.relative (.ofRatio false 1 1) .years)
    let day : Date := ⟨2024, 3, 1, by decide⟩
    let visited : Element := shop.surveyed "lastcheck:shop" ⟨2024, 3, 2, by decide⟩
    let tagged : Element :=
      { visited with tags := visited.tags.insert "shop:check_date" "2001-01-01" }
    older.holds shop ⟨day, .conservative⟩ = true ∧
      older.holds visited ⟨day, .conservative⟩ = false ∧
      older.holds (tagged.editedOn ⟨2024, 4, 1, by decide⟩) ⟨day, .conservative⟩ = false := by
  intro tags shop older day visited tagged
  obtain ⟨⟨latest, hknown, -⟩, hsettled⟩ :=
    (surveys_settle_older shop (.ofKey "shop") .conservative).1 (.ofRatio false 1 1) .years
      (by decide +kernel) day ⟨2024, 3, 2, by decide⟩ (by decide) (by decide) "lastcheck:shop"
      (by decide) visited (.inl rfl)
  have hupdates : visited.Updates (tagged.editedOn ⟨2024, 4, 1, by decide⟩) :=
    (Element.updates_insert (by decide) "2001-01-01").trans (Element.updates_editedOn (by decide))
  have hdate := Option.isSome_iff_exists.2 ⟨latest, hknown⟩
  have hbefore := ((surveys_settle_older visited (.ofKey "shop") .conservative).2 _
    hupdates (.relative (.ofRatio false 1 1) .years) day).1 hdate
  refine ⟨by decide +kernel, hsettled, ?_⟩
  rw [Bool.eq_false_iff]
  exact fun hholds ↦ Bool.false_ne_true (hsettled.symm.trans (hbefore hholds))

end SurveyQuests
