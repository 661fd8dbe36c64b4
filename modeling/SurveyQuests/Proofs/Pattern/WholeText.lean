import SurveyQuests.Pattern.Basic
import SurveyQuests.Proofs.Pattern.GroupEnding
import SurveyQuests.Proofs.Pattern.Nesting
import SurveyQuests.Proofs.Pattern.Reach

/-!
# Patterns and whole texts

A pattern is to match whole texts.  To this end its source is put in a group between the assertions
for the ends of the text, and the result is read as one source.  A match of the result is a match of
the whole text then, unless the source leaves the group: a closing parenthesis that closes nothing
in the source closes the group around it, and what stands behind it is a pattern next to the
assertion for the start of the text.  Nothing else can go wrong: what stands behind a part that is
read does not matter to it, so that a source that stays in its group means there what it means by
itself.

## What is here

* `ClosesGroup` — does a source leave its group?
* `read?_enclosed` — a source that does not is a pattern by itself;
* `Regex.search_anchored_iff` — the assertions leave matches of the whole text only;
* `matches_whole_iff` — **a pattern matches whole texts unless its source closes the group**.
-/

set_option autoImplicit false

namespace SurveyQuests

namespace Pattern

/-! ## Groups without a name -/

variable {fuel : Nat} {p q : Progress} {cs s : List Char}

/-- A group without a name is read as its inside, with the progress of its own, and then what
comes after its closing parenthesis. -/
theorem readBranches?_group_iff :
    readBranches? (fuel + 1) p ('(' :: '?' :: ':' :: cs) = some (q, s) ↔
      ∃ inner rest, readBranches? fuel ⟨p.extended, p.names, [], []⟩ cs =
          some (inner, ')' :: rest) ∧
        readBranches? fuel { p.push (.group (some ⟨[], []⟩) inner.expr) with names := inner.names }
          rest = some (q, s) := by
  have hskip : skip p.extended ('(' :: '?' :: ':' :: cs) = '(' :: '?' :: ':' :: cs := by
    cases p.extended <;> rfl
  have hopening : readOpening? p.extended ('?' :: ':' :: cs) =
      some (.group (some ⟨[], []⟩) none, cs) := by
    cases p.extended <;> rfl
  rw [readBranches?_succ_iff, hskip]
  constructor
  · rintro (⟨hstops, -, -⟩ | ⟨p₁, rest, hstep, hread⟩)
    · rcases hstops with h | ⟨r, h⟩ <;> cases h
    · cases hstep with
      | flags h => cases hopening.symm.trans h
      | group h hnames hinner =>
        cases hopening.symm.trans h
        cases hnames
        exact ⟨_, _, hinner, hread⟩
      | mark hmark => cases hmark
      | single _ hc => exact absurd (by simp [StartsPart]) hc
  · rintro ⟨inner, rest, hinner, hread⟩
    exact .inr ⟨_, _, .group hopening rfl hinner, hread⟩

/-! ## Sources by themselves -/

theorem read?_eq_some_iff {e : Expr} :
    Expr.read? cs = some e ↔ ∃ p, readBranches? (cs.length + 1) ⟨false, [], [], []⟩ cs =
      some (p, []) ∧ p.expr.nesting .none ≤ nestingLimit ∧ p.expr = e := by
  rw [Expr.read?]
  constructor
  · intro h
    obtain ⟨⟨p, rest⟩, hread, h⟩ := Option.bind_eq_some_iff.1 h
    dsimp only at h
    split_ifs at h with hboth
    cases h
    rw [Bool.and_eq_true, List.isEmpty_iff, decide_eq_true_eq] at hboth
    obtain ⟨rfl, hnesting⟩ := hboth
    exact ⟨p, hread, hnesting, rfl⟩
  · rintro ⟨p, hread, hnesting, rfl⟩
    simp [hread, hnesting]

/-- A source that is read up to a closing parenthesis only is no pattern by itself. -/
theorem read?_eq_none {before after : List Char}
    (h : readBranches? fuel ⟨false, [], [], []⟩ (before ++ ')' :: after) =
      some (q, ')' :: after)) : Expr.read? (before ++ ')' :: after) = none := by
  rw [Option.eq_none_iff_forall_ne_some]
  intro e he
  obtain ⟨p, hread, -⟩ := read?_eq_some_iff.1 he
  have hlt : before.length < (before ++ ')' :: after).length + 1 := by
    rw [List.length_append]
    omega
  have hstop := readBranches?_append h (.inr ⟨after, rfl⟩) hlt
  rw [hread] at hstop
  cases hstop

/-- **Does a parenthesis in the source close the group that is put around it?**  What stands before
the parenthesis can be read as the inside of a group then. -/
def ClosesGroup (source : List Char) : Prop :=
  ∃ before after, source = before ++ ')' :: after ∧
    (Expr.read? (['(', '?', ':'] ++ before ++ [')'])).isSome

/-- A source that closes the group around it is no pattern by itself. -/
theorem ClosesGroup.read?_eq_none {source : List Char} (h : ClosesGroup source) :
    Expr.read? source = none := by
  obtain ⟨before, after, rfl, hsome⟩ := h
  obtain ⟨e, he⟩ := Option.isSome_iff_exists.1 hsome
  obtain ⟨p, hread, -⟩ := read?_eq_some_iff.1 he
  obtain ⟨inner, rest, hinner, -⟩ := readBranches?_group_iff.1 hread
  change readBranches? _ ⟨false, [], [], []⟩ (before ++ [')']) = _ at hinner
  obtain ⟨w, hw⟩ := readBranches?_suffix hinner
  have hbefore : before ++ ')' :: after = w ++ ')' :: (rest ++ after) := by
    rw [List.append_cons before, ← hw, List.append_assoc, List.cons_append]
  rw [← hw] at hinner
  rw [hbefore]
  exact Pattern.read?_eq_none (readBranches?_append hinner (.inr ⟨_, rfl⟩) (Nat.lt_succ_self _))

/-! ## Sources in their group -/

/-- What stands in the group around a source is the source, or the source goes on behind the
parenthesis that closes the group. -/
theorem split_enclosed {source w rest : List Char} (h : w ++ ')' :: rest = source ++ [')', '$']) :
    (w = source ∧ rest = ['$']) ∨
      ∃ after, source = w ++ ')' :: after ∧ rest = after ++ [')', '$'] := by
  rcases List.append_eq_append_iff.1 h with ⟨u, rfl, hu⟩ | ⟨u, rfl, hu⟩
  · cases u with
    | nil =>
      cases hu
      exact .inl ⟨by simp, rfl⟩
    | cons c u =>
      cases hu
      exact .inr ⟨u, rfl, rfl⟩
  · match u, hu with
    | [], hu =>
      cases hu
      exact .inl ⟨by simp, rfl⟩
    | [_], hu => cases hu
    | _ :: _ :: u, hu =>
      simp at hu

/-- **A source in its group is a pattern by itself or closes the group.** -/
theorem read?_enclosed {source : List Char} {e : Expr} (h : Expr.read? (enclosed source) = some e) :
    ClosesGroup source ∨ ∃ e', Expr.read? source = some e' ∧
      e = .seq (.assertion .lineStart)
        (.seq (.group (some ⟨[], []⟩) e') (.assertion .lineEnd)) := by
  obtain ⟨q, hread, hnesting, rfl⟩ := read?_eq_some_iff.1 h
  have hcaret : Step (source.length + 6) ⟨false, [], [], []⟩ (enclosed source)
      ⟨false, [], [], [.assertion .lineStart]⟩ ('(' :: '?' :: ':' :: (source ++ [')', '$'])) :=
    .single _ (by simp [StartsPart])
  have hlength : (enclosed source).length + 1 = source.length + 6 + 1 := by simp [enclosed]
  have hnext : readBranches? (source.length + 6 + 1) ⟨false, [], [], []⟩ (enclosed source) = _ :=
    hcaret.read
  rw [hlength, hnext] at hread
  obtain ⟨inner, rest, hinner, hrest⟩ := readBranches?_group_iff.1 hread
  dsimp only [Progress.push] at hinner hrest
  -- The group is a part of what is read, so its inside is not nested too deep.
  have hexpr : Progress.expr ⟨false, inner.names, [],
      [.group (some ⟨[], []⟩) inner.expr, .assertion .lineStart]⟩ =
      .seq (.assertion .lineStart) (.group (some ⟨[], []⟩) inner.expr) := rfl
  have hdeep := nestsWithin_of_readBranches? hrest .none
  simp only [hexpr, Expr.nesting, reduceCtorEq, ↓reduceIte] at hdeep
  obtain ⟨w, hw⟩ := readBranches?_suffix hinner
  rw [← hw] at hinner
  rcases split_enclosed hw with ⟨rfl, rfl⟩ | ⟨after, rfl, rfl⟩
  · refine .inr ⟨inner.expr, read?_eq_some_iff.2 ⟨inner, ?_, by omega, rfl⟩, ?_⟩
    · have halone := readBranches?_append hinner (.inl rfl) (Nat.lt_succ_self _)
      rwa [List.append_nil] at halone
    · cases hrest
      rfl
  · refine .inl ⟨w, after, rfl, Option.isSome_iff_exists.2
      ⟨.group (some ⟨[], []⟩) inner.expr, read?_eq_some_iff.2 ⟨⟨false, inner.names, [],
        [.group (some ⟨[], []⟩) inner.expr]⟩, ?_, ?_, rfl⟩⟩⟩
    · have hlength : (['(', '?', ':'] ++ w ++ [')']).length = w.length + 4 := by simp
      rw [hlength]
      have hgroup : readBranches? (w.length + 4) ⟨false, [], [], []⟩ (w ++ [')']) = _ :=
        readBranches?_append hinner (.inr ⟨[], rfl⟩) (by omega)
      exact readBranches?_group_iff.2 ⟨inner, [], hgroup, rfl⟩
    · change 1 + inner.expr.nesting .none ≤ nestingLimit
      omega

/-! ## Matches -/

/-- The flags of the group around a source change nothing. -/
theorem regex?_anchored (e : Expr) :
    (Expr.seq (.assertion .lineStart)
      (.seq (.group (some ⟨[], []⟩) e) (.assertion .lineEnd))).regex? =
      e.regex?.map fun r ↦ .seq (.look .textStart) (.seq r (.look .textEnd)) := by
  have hflags : Flags.start.change ⟨[], []⟩ = Flags.start := rfl
  simp only [Expr.regex?, Expr.regexUnder?, hflags, Option.bind_eq_bind, Option.bind_some]
  cases e.regexUnder? Flags.start <;> rfl

end Pattern

namespace Regex

theorem total_le_anchored (ofSet : CharSet → Cost) (r : Regex) (l l' : Look) :
    (r.cost ofSet false).total ≤
      ((Regex.seq (.look l) (.seq r (.look l'))).cost ofSet false).total := by
  simp only [cost, Cost.add, Cost.total, Nat.add_mul]
  omega

theorem fits_of_fits_anchored {r : Regex} {l l' : Look}
    (h : (Regex.seq (.look l) (.seq r (.look l'))).fits = true) : r.fits = true := by
  have hle := fun ofSet ↦ total_le_anchored ofSet r l l'
  simp only [fits, Bool.or_eq_true, Bool.and_eq_true, decide_eq_true_eq] at h ⊢
  exact h.imp (Nat.le_trans (hle _)) (And.imp (Nat.le_trans (hle _)) (Nat.le_trans (hle _)))

theorem holdsAt_textStart {t : Array Char} {i : Nat} (hi : i ≤ t.size) :
    Look.textStart.holdsAt t i = true ↔ i = 0 := by
  simp only [Look.holdsAt, Look.holds]
  split
  · simp_all
  · rw [Option.isNone_iff_eq_none, Array.getElem?_eq_none_iff]
    omega

theorem holdsAt_textEnd {t : Array Char} {i : Nat} :
    Look.textEnd.holdsAt t i = true ↔ t.size ≤ i := by
  simp only [Look.holdsAt, Look.holds]
  rw [Option.isNone_iff_eq_none, Array.getElem?_eq_none_iff]

/-- Between the assertions for the ends of the text, only matches of the whole text are found. -/
theorem search_anchored_iff {t : Array Char} {r : Regex} :
    (Regex.seq (.look .textStart) (.seq r (.look .textEnd))).search t = true ↔
      Matches t r 0 t.size := by
  rw [search_iff]
  constructor
  · rintro ⟨i, hi, j, h⟩
    cases h with
    | seq hstart h =>
      cases h with
      | seq hr hend =>
        cases hstart with
        | look hstart =>
          cases hend with
          | look hend =>
            obtain rfl := (holdsAt_textStart hi).1 hstart
            have hsize := holdsAt_textEnd.1 hend
            have hle := hr.le.2
            obtain rfl : j = t.size := by omega
            exact hr
  · intro h
    exact ⟨0, Nat.zero_le _, t.size, .seq (.look ((holdsAt_textStart (Nat.zero_le _)).2 rfl))
      (.seq h (.look (holdsAt_textEnd.2 (Nat.le_refl _))))⟩

end Regex

theorem Regex.compile?_eq_some_iff {source : List Char} {r : Regex} :
    Regex.compile? source = some r ↔
      ∃ e, Pattern.Expr.read? source = some e ∧ e.regex? = some r ∧ r.fits = true := by
  simp only [Regex.compile?, Option.bind_eq_bind, Option.bind_eq_some_iff,
    Option.ite_none_right_eq_some, Option.some.injEq]
  constructor
  · rintro ⟨e, hread, r, hregex, hfits, rfl⟩
    exact ⟨e, hread, hregex, hfits⟩
  · rintro ⟨e, hread, hregex, hfits⟩
    exact ⟨e, hread, r, hregex, hfits, rfl⟩

namespace Pattern

theorem source_of_compile? {source : String} {p : Pattern} (h : compile? source = some p) :
    p.source = source := by
  unfold compile? at h
  split at h <;> cases h
  rfl

/-- **A pattern matches whole texts unless its source closes the group around it.** -/
theorem matches_whole_iff {source : String} {p : Pattern} (h : compile? source = some p) :
    (∃ e, Regex.compile? source.toList = some e ∧ ∀ text : String,
      p.isMatch text = true ↔ e.Matches text.toList.toArray 0 text.toList.length) ↔
      ¬ ClosesGroup source.toList := by
  obtain rfl := source_of_compile? h
  constructor
  · rintro ⟨r, halone, -⟩ hcloses
    obtain ⟨e, hread, -⟩ := Regex.compile?_eq_some_iff.1 halone
    rw [hcloses.read?_eq_none] at hread
    cases hread
  · intro hcloses
    obtain ⟨e, hread, hregex, hfits⟩ := Regex.compile?_eq_some_iff.1 p.compiled
    obtain ⟨e', hread', rfl⟩ := (read?_enclosed hread).resolve_left hcloses
    rw [regex?_anchored, Option.map_eq_some_iff] at hregex
    obtain ⟨r, hr, hregex⟩ := hregex
    rw [← hregex] at hfits
    refine ⟨r, Regex.compile?_eq_some_iff.2 ⟨e', hread', hr, Regex.fits_of_fits_anchored hfits⟩,
      fun text ↦ ?_⟩
    rw [isMatch, ← hregex, Regex.search_anchored_iff, List.size_toArray]

/-- A choice has its branches inside the group. -/
theorem matches_whole_choice : ∃ p, compile? "a|b" = some p ∧ ¬ ClosesGroup "a|b".toList ∧
    ∃ e, Regex.compile? "a|b".toList = some e ∧ ∀ text : String,
      p.isMatch text = true ↔ e.Matches text.toList.toArray 0 text.toList.length := by
  have hcompiled : Regex.compile? (enclosed "a|b".toList) =
      some (.seq (.look .textStart)
        (.seq (.alt (.set (.single 'a'.toNat)) (.set (.single 'b'.toNat))) (.look .textEnd))) := by
    rfl
  have h := compile?_source ⟨"a|b", _, hcompiled⟩
  have hcloses : ¬ ClosesGroup "a|b".toList := by
    rintro ⟨before, after, heq, -⟩
    have hmem : ')' ∈ "a|b".toList := by
      rw [heq]
      simp
    exact absurd hmem (by decide)
  exact ⟨_, h, hcloses, (matches_whole_iff h).2 hcloses⟩

/-- Such a source is taken as a pattern though it is none by itself, and it matches a text that only
starts with what its first branch asks for. -/
theorem matches_closing_source : ∃ p, compile? "a)|(b" = some p ∧
    Regex.compile? "a)|(b".toList = none ∧ p.isMatch "axx" = true := by
  have hcompiled : Regex.compile? (enclosed "a)|(b".toList) =
      some (.alt (.seq (.look .textStart) (.set (.single 'a'.toNat)))
        (.seq (.set (.single 'b'.toNat)) (.look .textEnd))) := by
    rfl
  exact ⟨_, compile?_source ⟨"a)|(b", _, hcompiled⟩, by rfl, by rfl⟩

end Pattern

end SurveyQuests
