import SurveyQuests.Pattern.Regex
import Mathlib.Data.List.Basic

/-!
# The ends of matches

`Regex.reach` computes the places that a match from any of the given places can end at, and it finds
all of them: this is what `Regex.Matches` says, by induction on the expression.  Only repetitions
take an argument.  They are followed one step at a time, and the number of steps is cut short in two
ways: a step that leads back to the same places is the last one that counts, and no more steps are
taken than the text has places.  The first is right since a step depends on which places there are
and on nothing else.  The second is right since no match ever goes back, so that a repetition that
does not move can be left out, and what is left moves one place ahead each time.

## What is here

* `Steps` — so many steps of a relation in a row, and `Steps.shorten` for relations that never go
  back;
* `Regex.mem_exactly`, `Regex.mem_upTo` — following repetitions;
* `Regex.matches_rep_iff` — a repetition as so many matches in a row;
* `Regex.mem_reach`, `Regex.search_iff` — **the search finds a match if there is one**.
-/

set_option autoImplicit false

namespace SurveyQuests

/-! ## Steps in a row -/

/-- Does the relation lead from one place to another in exactly so many steps? -/
def Steps (R : Nat → Nat → Prop) : Nat → Nat → Nat → Prop
  | 0, i, k => i = k
  | n + 1, i, k => ∃ j, R i j ∧ Steps R n j k

variable {R : Nat → Nat → Prop}

theorem Steps.le (hR : ∀ i j, R i j → i ≤ j) {n i k : Nat} (h : Steps R n i k) : i ≤ k := by
  induction n generalizing i with
  | zero => exact Nat.le_of_eq h
  | succ n ih =>
    obtain ⟨j, hij, hjk⟩ := h
    exact Nat.le_trans (hR i j hij) (ih hjk)

theorem Steps.bounded {b : Nat} (hR : ∀ i j, R i j → j ≤ max i b) {n i k : Nat}
    (h : Steps R n i k) : k ≤ max i b := by
  induction n generalizing i with
  | zero =>
    obtain rfl := h
    exact Nat.le_max_left i b
  | succ n ih =>
    obtain ⟨j, hij, hjk⟩ := h
    have hj := hR i j hij
    have hk := ih hjk
    omega

theorem Steps.append {m n i j k : Nat} (h : Steps R m i j) (h' : Steps R n j k) :
    Steps R (m + n) i k := by
  induction m generalizing i with
  | zero =>
    obtain rfl := h
    rwa [Nat.zero_add]
  | succ m ih =>
    obtain ⟨l, hil, hlj⟩ := h
    rw [Nat.succ_add]
    exact ⟨l, hil, ih hlj⟩

theorem Steps.split {m n i k : Nat} (h : Steps R (m + n) i k) :
    ∃ j, Steps R m i j ∧ Steps R n j k := by
  induction m generalizing i with
  | zero =>
    rw [Nat.zero_add] at h
    exact ⟨i, rfl, h⟩
  | succ m ih =>
    rw [Nat.succ_add] at h
    obtain ⟨l, hil, hlk⟩ := h
    obtain ⟨j, hlj, hjk⟩ := ih hlk
    exact ⟨j, ⟨l, hil, hlj⟩, hjk⟩

/-- Steps that never go back need not be more than the places that they move ahead. -/
theorem Steps.shorten (hR : ∀ i j, R i j → i ≤ j) {n i k : Nat} (h : Steps R n i k) :
    ∃ m ≤ n, m ≤ k - i ∧ Steps R m i k := by
  induction n generalizing i with
  | zero => exact ⟨0, Nat.le_refl 0, Nat.zero_le _, h⟩
  | succ n ih =>
    obtain ⟨j, hij, hjk⟩ := h
    obtain ⟨m, hmn, hm, hsteps⟩ := ih hjk
    have hle := hsteps.le hR
    rcases Nat.eq_or_lt_of_le (hR i j hij) with rfl | hlt
    · exact ⟨m, Nat.le_succ_of_le hmn, hm, hsteps⟩
    · exact ⟨m + 1, Nat.succ_le_succ hmn, by omega, j, hij, hsteps⟩

theorem exists_steps_succ {s : Nat → Prop} {n k : Nat} :
    (∃ i, s i ∧ Steps R (n + 1) i k) ↔ ∃ j, (∃ i, s i ∧ R i j) ∧ Steps R n j k := by
  constructor
  · rintro ⟨i, hi, j, hij, hjk⟩
    exact ⟨j, ⟨i, hi, hij⟩, hjk⟩
  · rintro ⟨j, ⟨i, hi, hij⟩, hjk⟩
    exact ⟨i, hi, j, hij, hjk⟩

/-- Where one step leads from a set to all of the set and no further, so do any number of steps. -/
theorem exists_steps_of_fixed {s : Nat → Prop} (hs : ∀ j, (∃ i, s i ∧ R i j) ↔ s j) (n k : Nat) :
    (∃ i, s i ∧ Steps R n i k) ↔ s k := by
  induction n with
  | zero => simp [Steps]
  | succ n ih =>
    rw [exists_steps_succ, ← ih]
    exact exists_congr fun j ↦ and_congr_left fun _ ↦ hs j

/-- Steps from a set of which each step leads into itself or into another one: they end in the set,
or they can be taken from a place of the other one, and are no more then. -/
theorem Steps.leave {s next : Nat → Prop} (hs : ∀ i, s i → ∀ j, R i j → s j ∨ next j) {n i k : Nat}
    (h : Steps R n i k) (hi : s i) : s k ∨ ∃ m ≤ n, ∃ j, next j ∧ Steps R m j k := by
  induction n generalizing i with
  | zero => exact .inl (h ▸ hi)
  | succ n ih =>
    obtain ⟨j, hij, hjk⟩ := h
    rcases hs i hi j hij with hj | hj
    · rcases ih hjk hj with hk | ⟨m, hm, j', hj', hsteps⟩
      · exact .inl hk
      · exact .inr ⟨m, Nat.le_succ_of_le hm, j', hj', hsteps⟩
    · exact .inr ⟨n, Nat.le_succ n, j, hj, hjk⟩

namespace Regex

/-! ## Following repetitions -/

theorem mem_merge {more places : List Nat} {j : Nat} :
    j ∈ merge more places ↔ j ∈ more ∨ j ∈ places := by
  rw [merge]
  induction more generalizing places with
  | nil => simp
  | cons i more ih =>
    rw [List.foldl_cons, ih, List.mem_cons]
    split
    · rename_i hmem
      have hi : i ∈ places := by simpa using hmem
      grind
    · grind

theorem mem_of_samePlaces {a b : List Nat} (h : samePlaces a b = true) (j : Nat) :
    j ∈ a ↔ j ∈ b := by
  simp only [samePlaces, Bool.and_eq_true, List.all_eq_true, List.contains_iff_mem] at h
  exact ⟨h.2.1 j, h.2.2 j⟩

section

variable {step : List Nat → List Nat}
  (hstep : ∀ (places : List Nat) (j : Nat), j ∈ step places ↔ ∃ i ∈ places, R i j)

include hstep

theorem mem_exactly (n : Nat) (places : List Nat) (j : Nat) :
    j ∈ exactly step n places ↔ ∃ i ∈ places, Steps R n i j := by
  induction n generalizing places with
  | zero => simp [exactly, Steps]
  | succ n ih =>
    rw [exactly]
    split
    · rename_i hsame
      refine (exists_steps_of_fixed (fun k ↦ ?_) (n + 1) j).symm
      rw [← hstep, mem_of_samePlaces hsame]
    · rw [ih, exists_steps_succ (s := (· ∈ places))]
      exact exists_congr fun k ↦ and_congr_left fun _ ↦ hstep places k

/-- What at most so many steps from the newest of the places that are reached add to them.  Steps
from the older ones lead to places that are reached already. -/
theorem mem_upTo (n : Nat) {fresh reached : List Nat} (hfresh : ∀ i ∈ fresh, i ∈ reached)
    (hreached : ∀ i ∈ reached, i ∉ fresh → ∀ j, R i j → j ∈ reached) (k : Nat) :
    k ∈ upTo step n fresh reached ↔ k ∈ reached ∨ ∃ m ≤ n, ∃ i ∈ fresh, Steps R m i k := by
  induction n generalizing fresh reached with
  | zero =>
    rw [upTo]
    constructor
    · exact .inl
    · rintro (hk | ⟨m, hm, i, hi, hsteps⟩)
      · exact hk
      · obtain rfl := Nat.le_zero.1 hm
        exact hsteps ▸ hfresh i hi
  | succ n ih =>
    rw [upTo]
    let next := (step fresh).filter fun i ↦ !reached.contains i
    have hnext : ∀ j, j ∈ next ↔ (∃ i ∈ fresh, R i j) ∧ j ∉ reached := by
      intro j
      simp [next, hstep]
    have hleave : ∀ i, i ∈ reached → ∀ j, R i j → j ∈ reached ∨ j ∈ next := by
      intro i hi j hij
      by_cases hj : j ∈ reached
      · exact .inl hj
      · by_cases hif : i ∈ fresh
        · exact .inr ((hnext j).2 ⟨⟨i, hif, hij⟩, hj⟩)
        · exact absurd (hreached i hi hif j hij) hj
    change k ∈ (if next.isEmpty then reached else upTo step n next (next ++ reached)) ↔ _
    split
    · rename_i hempty
      rw [List.isEmpty_iff] at hempty
      refine ⟨.inl, ?_⟩
      rintro (hk | ⟨m, -, i, hi, hsteps⟩)
      · exact hk
      · rcases hsteps.leave hleave (hfresh i hi) with hk | ⟨-, -, j, hj, -⟩
        · exact hk
        · rw [hempty] at hj
          cases hj
    · have hclosed : ∀ i ∈ next ++ reached, i ∉ next → ∀ j, R i j → j ∈ next ++ reached := by
        intro i hi hin j hij
        have hir : i ∈ reached := (List.mem_append.1 hi).resolve_left hin
        exact List.mem_append.2 (hleave i hir j hij).symm
      rw [ih (fun i ↦ List.mem_append_left reached) hclosed, List.mem_append]
      constructor
      · rintro ((hk | hk) | ⟨m, hm, j, hj, hsteps⟩)
        · obtain ⟨⟨i, hi, hik⟩, -⟩ := (hnext k).1 hk
          exact .inr ⟨1, Nat.succ_pos n, i, hi, k, hik, rfl⟩
        · exact .inl hk
        · obtain ⟨⟨i, hi, hij⟩, -⟩ := (hnext j).1 hj
          exact .inr ⟨m + 1, Nat.succ_le_succ hm, i, hi, j, hij, hsteps⟩
      · rintro (hk | ⟨m, hm, i, hi, hsteps⟩)
        · exact .inl (.inr hk)
        · cases m with
          | zero => exact .inl (.inr (hsteps ▸ hfresh i hi))
          | succ m =>
            -- the first step leads to a new place, or to one from which new places are found later
            obtain ⟨j, hij, hjk⟩ := hsteps
            have hmn : m ≤ n := Nat.le_of_succ_le_succ hm
            rcases hleave i (hfresh i hi) j hij with hj | hj
            · rcases hjk.leave hleave hj with hk | ⟨m', hm', j', hj', hsteps⟩
              · exact .inl (.inr hk)
              · exact .inr ⟨m', Nat.le_trans hm' hmn, j', hj', hsteps⟩
            · exact .inr ⟨m, hmn, j, hj, hjk⟩

end

/-! ## Matches -/

variable {t : Array Char}

/-- A match does not go back, and not beyond the end of the text. -/
theorem Matches.le {e : Regex} {i j : Nat} (h : Matches t e i j) : i ≤ j ∧ j ≤ max i t.size := by
  induction h with
  | empty i => exact ⟨Nat.le_refl i, Nat.le_max_left _ _⟩
  | @set s i c hc _ =>
    have hi : i < t.size := (Array.getElem?_eq_some_iff.1 hc).1
    omega
  | look _ => omega
  | seq _ _ iha ihb => omega
  | altLeft _ ih => exact ih
  | altRight _ ih => exact ih
  | repDone => omega
  | repMore _ _ _ ihe ihr => omega

/-- **A repetition is so many matches in a row.** -/
theorem matches_rep_iff {e : Regex} {least : Nat} {most : Option Nat} {i k : Nat} :
    Matches t (.rep e least most) i k ↔
      ∃ n, least ≤ n ∧ (∀ m ∈ most, n ≤ max least m) ∧ Steps (Matches t e) n i k := by
  constructor
  · intro h
    generalize hr : Regex.rep e least most = r at h
    induction h generalizing least most with
    | repDone =>
      cases hr
      exact ⟨0, Nat.le_refl 0, fun m _ ↦ Nat.zero_le _, rfl⟩
    | @repMore _ least' _ i j k hmost he _ _ ih =>
      cases hr
      obtain ⟨n, hleast, hn, hsteps⟩ := ih rfl
      refine ⟨n + 1, by omega, fun m hm ↦ ?_, j, he, hsteps⟩
      have hrest := hn (m - 1) (by simp_all)
      have hzero : least' = 0 → m ≠ 0 := fun h0 hm0 ↦ hmost h0 (by simp_all)
      omega
    | _ => cases hr
  · rintro ⟨n, hleast, hmost, hsteps⟩
    induction n generalizing least most i with
    | zero =>
      obtain rfl := Nat.le_zero.1 hleast
      obtain rfl := hsteps
      exact .repDone
    | succ n ih =>
      obtain ⟨j, hij, hjk⟩ := hsteps
      refine .repMore (fun h0 hm0 ↦ ?_) hij (ih (by omega) (fun m hm ↦ ?_) hjk)
      · have hnone := hmost 0 hm0
        omega
      · obtain ⟨m', hm', rfl⟩ := Option.map_eq_some_iff.1 hm
        have hall := hmost m' hm'
        omega

theorem after?_eq_some_iff {s : CharSet} {i j : Nat} :
    after? t s i = some j ↔ Matches t (.set s) i j := by
  constructor
  · intro h
    rw [after?] at h
    split at h
    · rename_i c hc
      obtain ⟨hs, hj⟩ := Option.ite_none_right_eq_some.1 h
      obtain rfl := Option.some.inj hj
      exact .set hc hs
    · cases h
  · intro h
    cases h with
    | set hc hs => simp [after?, hc, hs]

/-- A repetition is followed as far as is called for, and then as many steps as are allowed and as
the text has places: any more would not lead any further. -/
theorem mem_upTo_exactly {e : Regex} {least more : Nat} {most : Option Nat}
    (ih : ∀ (places : List Nat) (j : Nat),
      j ∈ reach t e places ↔ ∃ i ∈ places, Matches t e i j)
    (hmore : ∀ m, m ≤ more ↔ m ≤ t.size + 1 ∧ ∀ n ∈ most, least + m ≤ max least n)
    (places : List Nat) (k : Nat) :
    k ∈ upTo (reach t e) more (exactly (reach t e) least places)
        (exactly (reach t e) least places) ↔
      ∃ i ∈ places, Matches t (.rep e least most) i k := by
  rw [mem_upTo ih more (fun _ ↦ id) (fun i hi hni ↦ absurd hi hni)]
  simp only [mem_exactly ih, matches_rep_iff]
  constructor
  · rintro (⟨i, hi, hsteps⟩ | ⟨m, hm, j, ⟨i, hi, hij⟩, hjk⟩)
    · exact ⟨i, hi, least, Nat.le_refl least, fun m _ ↦ Nat.le_max_left least m, hsteps⟩
    · exact ⟨i, hi, least + m, Nat.le_add_right least m, ((hmore m).1 hm).2, hij.append hjk⟩
  · rintro ⟨i, hi, n, hleast, hmost, hsteps⟩
    obtain ⟨m, rfl⟩ := Nat.exists_eq_add_of_le hleast
    obtain ⟨j, hij, hjk⟩ := hsteps.split
    have hk := hjk.bounded fun i j h ↦ h.le.2
    obtain ⟨m', hmm, hm', hsteps⟩ := hjk.shorten fun i j h ↦ h.le.1
    refine .inr ⟨m', (hmore m').2 ⟨by omega, fun n hn ↦ ?_⟩, j, ⟨i, hi, hij⟩, hsteps⟩
    exact Nat.le_trans (Nat.add_le_add_left hmm least) (hmost n hn)

/-- **The places that are reached are the ends of matches.** -/
theorem mem_reach (e : Regex) (places : List Nat) (j : Nat) :
    j ∈ reach t e places ↔ ∃ i ∈ places, Matches t e i j := by
  induction e generalizing places j with
  | empty =>
    constructor
    · exact fun hj ↦ ⟨j, hj, .empty j⟩
    · rintro ⟨i, hi, ⟨⟩⟩
      exact hi
  | set s =>
    rw [reach, List.mem_filterMap]
    exact exists_congr fun i ↦ and_congr_right fun _ ↦ after?_eq_some_iff
  | look l =>
    rw [reach, List.mem_filter]
    constructor
    · exact fun hj ↦ ⟨j, hj.1, .look hj.2⟩
    · rintro ⟨i, hi, hl⟩
      cases hl with
      | look hl => exact ⟨hi, hl⟩
  | seq a b iha ihb =>
    rw [reach, ihb]
    constructor
    · rintro ⟨k, hk, hb⟩
      obtain ⟨i, hi, ha⟩ := (iha places k).1 hk
      exact ⟨i, hi, .seq ha hb⟩
    · rintro ⟨i, hi, h⟩
      cases h with
      | seq ha hb => exact ⟨_, (iha places _).2 ⟨i, hi, ha⟩, hb⟩
  | alt a b iha ihb =>
    rw [reach, mem_merge, iha, ihb]
    constructor
    · rintro (⟨i, hi, h⟩ | ⟨i, hi, h⟩)
      · exact ⟨i, hi, .altRight h⟩
      · exact ⟨i, hi, .altLeft h⟩
    · rintro ⟨i, hi, h⟩
      cases h with
      | altLeft h => exact .inr ⟨i, hi, h⟩
      | altRight h => exact .inl ⟨i, hi, h⟩
  | rep e least most ih =>
    rw [reach.eq_def]
    cases most with
    | none => exact mem_upTo_exactly ih (fun m ↦ by simp) places j
    | some n =>
      refine mem_upTo_exactly ih (fun m ↦ Nat.le_min.trans ?_) places j
      simp only [Option.mem_some_iff, forall_eq']
      omega

/-- **The search finds a match if there is one.** -/
theorem search_iff (e : Regex) :
    e.search t = true ↔ ∃ i ≤ t.size, ∃ j, Matches t e i j := by
  rw [search, Bool.not_eq_true', List.isEmpty_eq_false_iff_exists_mem]
  simp only [mem_reach, List.mem_range, Nat.lt_succ_iff]
  grind

end Regex

end SurveyQuests
