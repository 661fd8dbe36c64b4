import SurveyQuests.Pattern.Reader
import Mathlib.Data.List.Basic

/-!
# What stands behind a part of a pattern

The reader of patterns goes from left to right, and what it makes of a part does not depend on what
stands behind the closing parenthesis that it stops at.  Another text may stand there as long as it
starts with a closing parenthesis too, or nothing at all: the reader stops in the same place, having
read the same.

Each reader has a lemma of its own for this, named `follows_` and the reader.  It says that what is
left is the end of the text, and that the reader goes along with a change of what stands there.  A
reader that takes fuel needs as much of it as it reads characters.

## What is here

* `Endings`, `Endings.swap` — two endings, and a text with the one in the place of the other;
* `Endings.swap_skip` — what does not count is passed over alike;
* `Endings.follows_readWhile` — runs of digits and letters;
* `Endings.follows_readEscape?` — escapes.
-/

set_option autoImplicit false

namespace SurveyQuests.Pattern

/-- A text that is read up to, and one that may stand in its place.  Both start with a closing
parenthesis, but that the second one may be empty. -/
structure Endings where
  old : List Char
  new : List Char
  old_eq : ∃ r, old = ')' :: r
  new_eq : new = [] ∨ ∃ r, new = ')' :: r

namespace Endings

variable (d : Endings)

/-- The text with the new ending in the place of the old one. -/
def swap (cs : List Char) : List Char := cs.take (cs.length - d.old.length) ++ d.new

theorem swap_append (w : List Char) : d.swap (w ++ d.old) = w ++ d.new := by
  simp [swap]

theorem swap_old : d.swap d.old = d.new := d.swap_append []

variable {d}

theorem swap_append_of_suffix {w s : List Char} (h : d.old <:+ s) :
    d.swap (w ++ s) = w ++ d.swap s := by
  obtain ⟨v, rfl⟩ := h
  rw [← List.append_assoc, swap_append, swap_append, List.append_assoc]

theorem swap_cons {c : Char} {r : List Char} (h : d.old <:+ r) :
    d.swap (c :: r) = c :: d.swap r :=
  swap_append_of_suffix (w := [c]) h

theorem not_suffix_nil : ¬ d.old <:+ [] := by
  obtain ⟨r, hr⟩ := d.old_eq
  rw [hr]
  simp

theorem suffix_cons_cons (c c' : Char) (s : List Char) : s <:+ c :: c' :: s :=
  (List.suffix_cons c' s).trans (List.suffix_cons c _)

theorem suffix_of_cons_suffix {x c : Char} {t r : List Char} (h : x :: t <:+ c :: r) : t <:+ r := by
  rcases List.suffix_cons_iff.1 h with heq | hr
  · exact (List.cons.inj heq).2 ▸ List.suffix_rfl
  · exact (List.suffix_cons x t).trans hr

theorem eq_old_or_suffix {c : Char} {r : List Char} (h : d.old <:+ c :: r) :
    c :: r = d.old ∨ d.old <:+ r :=
  (List.suffix_cons_iff.1 h).imp_left Eq.symm

/-- Nothing but a closing parenthesis comes first in a text because of the new ending. -/
theorem swap_eq_cons {cs rest : List Char} {c : Char} (h : d.old <:+ cs)
    (hswap : d.swap cs = c :: rest) (hc : c ≠ ')') : ∃ r, cs = c :: r := by
  cases cs with
  | nil => exact absurd h not_suffix_nil
  | cons c' r =>
    rcases eq_old_or_suffix h with heq | hr
    · rw [heq, swap_old] at hswap
      rcases d.new_eq with hnew | ⟨r', hnew⟩
      · cases hnew.symm.trans hswap
      · exact absurd (List.cons.inj (hnew.symm.trans hswap)).1.symm hc
    · rw [swap_cons hr] at hswap
      exact ⟨r, (List.cons.inj hswap).1 ▸ rfl⟩

theorem swap_eq_cons_cons {cs t rest : List Char} {x c c' : Char} (h : x :: t <:+ cs)
    (ht : d.old <:+ t) (hswap : d.swap cs = c :: c' :: rest) (hc : c ≠ ')') (hc' : c' ≠ ')') :
    ∃ r, cs = c :: c' :: r := by
  obtain ⟨r, rfl⟩ := swap_eq_cons ((ht.trans (List.suffix_cons x t)).trans h) hswap hc
  have hr := ht.trans (suffix_of_cons_suffix h)
  rw [swap_cons hr] at hswap
  obtain ⟨r', rfl⟩ := swap_eq_cons hr (List.cons.inj hswap).2 hc'
  exact ⟨r', rfl⟩

/-- What is taken from the front of a text before the old ending is in the new text as well. -/
theorem length_le_swap {cs s : List Char} (hs : s <:+ cs) (h : d.old <:+ s) :
    cs.length ≤ (d.swap cs).length + s.length := by
  obtain ⟨u, rfl⟩ := hs
  obtain ⟨w, rfl⟩ := h
  rw [← List.append_assoc, swap_append]
  simp only [List.length_append]
  omega

/-! ## What does not count -/

theorem skipExtended_suffix (inComment : Bool) (cs : List Char) :
    skipExtended inComment cs <:+ cs := by
  fun_induction skipExtended inComment cs with
  | case1 => exact List.suffix_rfl
  | case2 c cs ih => exact ih.trans (List.suffix_cons c cs)
  | case3 c cs _ ih => exact ih.trans (List.suffix_cons c cs)
  | case4 cs _ ih => exact ih.trans (List.suffix_cons _ cs)
  | case5 => exact List.suffix_rfl

theorem skip_suffix (extended : Bool) (cs : List Char) : skip extended cs <:+ cs := by
  cases extended
  · exact List.suffix_rfl
  · exact skipExtended_suffix false cs

theorem skipBlanks_suffix (extended : Bool) (cs : List Char) : skipBlanks extended cs <:+ cs := by
  cases extended
  · exact List.dropWhile_suffix _
  · exact skipExtended_suffix false cs

theorem suffix_of_skip {extended : Bool} {cs rest : List Char} {c : Char}
    (h : skip extended cs = c :: rest) : rest <:+ cs :=
  (List.suffix_cons c rest).trans (h ▸ skip_suffix extended cs)

theorem length_lt_of_skip {extended : Bool} {cs rest : List Char} {c : Char}
    (h : skip extended cs = c :: rest) : rest.length < cs.length := by
  have hle := (skip_suffix extended cs).length_le
  rwa [h, List.length_cons] at hle

theorem skipExtended_new : skipExtended false d.new = d.new := by
  rcases d.new_eq with h | ⟨r, h⟩
  · rw [h]
    rfl
  · rw [h, skipExtended, if_neg (by decide), if_neg (by decide)]

theorem swap_skipExtended {inComment : Bool} {cs : List Char}
    (h : d.old <:+ skipExtended inComment cs) :
    skipExtended inComment (d.swap cs) = d.swap (skipExtended inComment cs) := by
  fun_induction skipExtended inComment cs with
  | case1 => exact absurd h not_suffix_nil
  | case2 c cs ih =>
    rw [swap_cons (h.trans (skipExtended_suffix _ _)), skipExtended, ih h]
  | case3 c cs hc ih =>
    rw [swap_cons (h.trans (skipExtended_suffix _ _)), skipExtended, if_pos hc, ih h]
  | case4 cs hc ih =>
    rw [swap_cons (h.trans (skipExtended_suffix _ _)), skipExtended, if_neg hc, if_pos rfl, ih h]
  | case5 c cs hc hcomment =>
    rcases eq_old_or_suffix h with heq | hcs
    · rw [heq, swap_old, skipExtended_new]
    · rw [swap_cons hcs, skipExtended, if_neg hc, if_neg hcomment]

theorem swap_skip {extended : Bool} {cs : List Char} (h : d.old <:+ skip extended cs) :
    skip extended (d.swap cs) = d.swap (skip extended cs) := by
  cases extended
  · rfl
  · exact swap_skipExtended h

theorem swap_dropWhile {p : Char → Bool} (hp : p ')' = false) {cs : List Char}
    (h : d.old <:+ cs.dropWhile p) : (d.swap cs).dropWhile p = d.swap (cs.dropWhile p) := by
  induction cs with
  | nil => exact absurd h not_suffix_nil
  | cons c cs ih =>
    cases hc : p c with
    | true =>
      rw [List.dropWhile_cons_of_pos hc] at h ⊢
      rw [swap_cons (h.trans (List.dropWhile_suffix p)), List.dropWhile_cons_of_pos hc, ih h]
    | false =>
      rw [List.dropWhile_cons_of_neg (by simp [hc])] at h ⊢
      rcases eq_old_or_suffix h with heq | hcs
      · rw [heq, swap_old]
        rcases d.new_eq with hnew | ⟨r, hnew⟩
        · rw [hnew]
          rfl
        · rw [hnew, List.dropWhile_cons_of_neg (by simp [hp])]
      · rw [swap_cons hcs, List.dropWhile_cons_of_neg (by simp [hc])]

theorem swap_skipBlanks {extended : Bool} {cs : List Char} (h : d.old <:+ skipBlanks extended cs) :
    skipBlanks extended (d.swap cs) = d.swap (skipBlanks extended cs) := by
  cases extended
  · exact swap_dropWhile (by decide) h
  · exact swap_skipExtended h

/-- A character that counts still does. -/
theorem skip_swap_eq_cons {extended : Bool} {cs rest : List Char} {c : Char}
    (h : skip extended cs = c :: rest) (hrest : d.old <:+ rest) :
    skip extended (d.swap cs) = c :: d.swap rest := by
  rw [swap_skip (h ▸ hrest.trans (List.suffix_cons c rest)), h, swap_cons hrest]

/-! ## Readers -/

variable (d) in
/-- Does the outcome of reading a text go along with the outcome of reading the text with the new
ending?  What is left is what stands at the end of the text, and if the old ending is in it, then
the same is read, and what is left has the new ending. -/
def Follows {α : Type} (cs : List Char) (o o' : Option (α × List Char)) : Prop :=
  ∀ ⦃x : α⦄ ⦃s : List Char⦄, o = some (x, s) →
    s <:+ cs ∧ (d.old <:+ s → o' = some (x, d.swap s))

variable {extended : Bool} {cs : List Char}

/-! ### Runs of characters -/

/-- Reads characters that pass a test, and passes over what does not count between them. -/
def readWhile (test : Char → Bool) (extended : Bool) :
    (fuel : Nat) → List Char → List Char × List Char
  | 0, cs => ([], cs)
  | _ + 1, [] => ([], [])
  | fuel + 1, c :: cs =>
    if test c then
      let (inner, after) := readWhile test extended fuel (skip extended cs)
      (c :: inner, after)
    else ([], c :: cs)

theorem readAssertionName_eq (extended : Bool) (fuel : Nat) (cs : List Char) :
    readAssertionName extended fuel cs = readWhile isAssertionLetter extended fuel cs := by
  induction fuel generalizing cs with
  | zero => rfl
  | succ fuel ih =>
    cases cs with
    | nil => rfl
    | cons c cs => rw [readAssertionName, readWhile, ih]

theorem readDigits_eq (extended : Bool) (fuel : Nat) (cs : List Char) :
    readDigits extended fuel cs = readWhile Char.isDigit extended fuel cs := by
  induction fuel generalizing cs with
  | zero => rfl
  | succ fuel ih =>
    cases cs with
    | nil => rfl
    | cons c cs => rw [readDigits, readWhile, ih]

theorem follows_readWhile {test : Char → Bool} (htest : test ')' = false) {fuel : Nat}
    {run s : List Char} (h : readWhile test extended fuel cs = (run, s))
    (hfuel : cs.length ≤ fuel) :
    s <:+ cs ∧ (d.old <:+ s → ∀ n, cs.length ≤ n + s.length →
      readWhile test extended n (d.swap cs) = (run, d.swap s)) := by
  induction fuel generalizing cs run with
  | zero =>
    cases h
    refine ⟨List.suffix_rfl, fun hold ↦ ?_⟩
    rw [List.length_eq_zero_iff.1 (Nat.le_zero.1 hfuel)] at hold
    exact absurd hold not_suffix_nil
  | succ fuel ih =>
    cases cs with
    | nil =>
      cases h
      exact ⟨List.suffix_rfl, fun hold ↦ absurd hold not_suffix_nil⟩
    | cons c cs =>
      rw [readWhile] at h
      split at h
      · rename_i hc
        cases hread : readWhile test extended fuel (skip extended cs) with
        | mk inner after =>
          rw [hread] at h
          cases h
          have hskip := skip_suffix extended cs
          have hle := hskip.length_le
          rw [List.length_cons] at hfuel
          have hs := (ih hread (by omega)).1
          have hle' := hs.length_le
          refine ⟨(hs.trans hskip).trans (List.suffix_cons c cs), fun hold n hn ↦ ?_⟩
          rw [List.length_cons] at hn
          obtain ⟨n, rfl⟩ : ∃ m, n = m + 1 := ⟨n - 1, by omega⟩
          rw [swap_cons (hold.trans (hs.trans hskip)), readWhile, if_pos hc,
            swap_skip (hold.trans hs), (ih hread (by omega)).2 hold n (by omega)]
      · rename_i hc
        cases h
        refine ⟨List.suffix_rfl, fun hold n _ ↦ ?_⟩
        cases n with
        | zero => rfl
        | succ n =>
          cases hswap : d.swap (c :: cs) with
          | nil => rfl
          | cons c' rest =>
            rw [readWhile, if_neg]
            by_cases hc' : c' = ')'
            · simp [hc', htest]
            · obtain ⟨r, hr⟩ := swap_eq_cons hold hswap hc'
              rwa [← (List.cons.inj hr).1]

/-! ### Escapes -/

theorem follows_readHexDigits? (left value : Nat) :
    d.Follows cs (readHexDigits? extended left value cs)
      (readHexDigits? extended left value (d.swap cs)) := by
  induction left generalizing value cs with
  | zero =>
    rintro n s ⟨⟩
    exact ⟨List.suffix_rfl, fun _ ↦ rfl⟩
  | succ left ih =>
    intro n s h
    cases cs with
    | nil => cases h
    | cons c cs =>
      obtain ⟨v, hv, h⟩ := Option.bind_eq_some_iff.1 h
      obtain ⟨hs, hswap⟩ := ih (value * 16 + v) h
      have hcs := hs.trans (skip_suffix extended cs)
      refine ⟨hcs.trans (List.suffix_cons c cs), fun hold ↦ ?_⟩
      rw [swap_cons (hold.trans hcs), readHexDigits?, hv, swap_skip (hold.trans hs)]
      exact hswap hold

theorem follows_readBraced? {fuel : Nat} {inner s : List Char}
    (h : readBraced? extended fuel cs = some (inner, s)) :
    s <:+ cs ∧ (d.old <:+ s → ∀ n, cs.length ≤ n + s.length →
      readBraced? extended n (d.swap cs) = some (inner, d.swap s)) := by
  induction fuel generalizing cs inner with
  | zero => cases h
  | succ fuel ih =>
    rw [readBraced?] at h
    split at h
    · cases h
    · rename_i c rest hskip
      have hrest := suffix_of_skip hskip
      have hlt := length_lt_of_skip hskip
      split at h
      · rename_i hc
        cases h
        refine ⟨hrest, fun hold n hn ↦ ?_⟩
        obtain ⟨n, rfl⟩ : ∃ m, n = m + 1 := ⟨n - 1, by omega⟩
        rw [readBraced?, skip_swap_eq_cons hskip hold]
        simp only [hc, ↓reduceIte]
      · rename_i hc
        obtain ⟨⟨inner', s'⟩, h, he⟩ := Option.map_eq_some_iff.1 h
        cases he
        have hs : s <:+ rest := (ih h).1
        have hle := hs.length_le
        refine ⟨hs.trans hrest, fun hold n hn ↦ ?_⟩
        obtain ⟨n, rfl⟩ : ∃ m, n = m + 1 := ⟨n - 1, by omega⟩
        rw [readBraced?, skip_swap_eq_cons hskip (hold.trans hs)]
        simp only [hc, ↓reduceIte, (ih h).2 hold n (by omega),
          Option.map_some]

/-- The fuel that a reader is given by the length of its text is enough for the new ending. -/
theorem le_fuel {rest s : List Char} (hs : s <:+ rest) (h : d.old <:+ s) (n : Nat) :
    rest.length ≤ (d.swap rest).length + n + s.length :=
  Nat.le_trans (length_le_swap hs h) (by omega)

theorem follows_readCodePoint? {count : Nat} (hcount : count ≠ 0) :
    d.Follows cs (readCodePoint? extended count cs)
      (readCodePoint? extended count (d.swap cs)) := by
  intro l s h
  rw [readCodePoint?] at h
  split at h
  · cases h
  · rename_i c rest hskip
    have hrest := suffix_of_skip hskip
    split at h
    · rename_i hc
      obtain ⟨⟨inner, after⟩, hread, h⟩ := Option.bind_eq_some_iff.1 h
      obtain ⟨digits, hdigits, h⟩ := Option.bind_eq_some_iff.1 h
      dsimp only at h
      split at h
      · cases h
      · rename_i hne
        obtain ⟨char, hchar, h⟩ := Option.bind_eq_some_iff.1 h
        cases h
        have hafter := (follows_readBraced? (d := d) hread).1
        have hs := skip_suffix extended after
        refine ⟨(hs.trans hafter).trans hrest, fun hold ↦ ?_⟩
        have hread' := (follows_readBraced? hread).2 (hold.trans hs) _
          (le_fuel hafter (hold.trans hs) 1)
        rw [readCodePoint?, skip_swap_eq_cons hskip (hold.trans (hs.trans hafter))]
        dsimp only
        rw [if_pos hc, hread', Option.bind_eq_bind, Option.bind_some, hdigits]
        simp only [hne, hchar, swap_skip hold, Option.bind_eq_bind, Option.bind_some,
          Bool.false_eq_true, ↓reduceIte]
    · rename_i hc
      obtain ⟨n, rfl⟩ := Nat.exists_eq_succ_of_ne_zero hcount
      obtain ⟨⟨value, after⟩, hread, h⟩ := Option.bind_eq_some_iff.1 h
      obtain ⟨char, hchar, h⟩ := Option.bind_eq_some_iff.1 h
      cases h
      obtain ⟨v, hv, hread⟩ := Option.bind_eq_some_iff.1 hread
      obtain ⟨hs, hswap⟩ := follows_readHexDigits? (d := d) n _ hread
      have hs' := hs.trans (skip_suffix extended rest)
      refine ⟨hs'.trans hrest, fun hold ↦ ?_⟩
      rw [readCodePoint?, skip_swap_eq_cons hskip (hold.trans hs')]
      dsimp only
      rw [if_neg hc, readHexDigits?, hv, swap_skip (hold.trans hs)]
      simp only [hswap hold, hchar, Option.bind_eq_bind, Option.bind_some]

theorem follows_readProperty? :
    d.Follows cs (readProperty? extended cs) (readProperty? extended (d.swap cs)) := by
  intro name s h
  rw [readProperty?] at h
  split at h
  · cases h
  · rename_i c rest hskip
    have hrest := suffix_of_skip hskip
    split at h
    · rename_i hc
      obtain ⟨⟨inner, after⟩, hread, h⟩ := Option.bind_eq_some_iff.1 h
      cases h
      have hs := (follows_readBraced? (d := d) hread).1
      refine ⟨hs.trans hrest, fun hold ↦ ?_⟩
      have hread' := (follows_readBraced? hread).2 hold _ (le_fuel hs hold 1)
      rw [readProperty?, skip_swap_eq_cons hskip (hold.trans hs)]
      dsimp only
      rw [if_pos hc, hread', Option.bind_eq_bind, Option.bind_some]
    · rename_i hc
      split at h
      · cases h
      · rename_i hc'
        cases h
        have hs := skip_suffix extended rest
        refine ⟨hs.trans hrest, fun hold ↦ ?_⟩
        rw [readProperty?, skip_swap_eq_cons hskip (hold.trans hs)]
        dsimp only
        rw [if_neg hc, if_neg hc', swap_skip hold]

variable (d) in
/-- If a brace comes first, then what counts behind it starts before the old ending. -/
def BehindBrace (extended : Bool) (s : List Char) : Prop :=
  ∀ r, s = '\x7b' :: r → ∃ c rest, skip extended r = c :: rest ∧ d.old <:+ rest

theorem follows_readWordBoundary? {a : Assertion} {s : List Char}
    (h : readWordBoundary? extended cs = some (a, s)) :
    s <:+ cs ∧ (d.old <:+ s → (a = .wordBoundary → d.BehindBrace extended s) →
      readWordBoundary? extended (d.swap cs) = some (a, d.swap s)) := by
  rw [readWordBoundary?.eq_def] at h
  split at h
  · rename_i rest
    split at h
    · cases h
    · rename_i c after hskip
      have hrest := suffix_of_skip hskip
      dsimp only at h
      split at h
      · rename_i hc
        cases hread : readAssertionName extended (after.length + 2) (c :: after)
        rw [hread] at h
        split at h
        · rename_i rest' hname
          cases hname
          obtain ⟨b, hb, h⟩ := Option.map_eq_some_iff.1 h
          cases h
          rw [readAssertionName_eq] at hread
          obtain ⟨hs, hswap⟩ := follows_readWhile (d := d) (by decide) hread (by simp)
          have hs' := suffix_of_cons_suffix hs
          refine ⟨(hs'.trans hrest).trans (List.suffix_cons _ _), fun hold _ ↦ ?_⟩
          have hafter := hold.trans hs'
          have hclose := hold.trans (List.suffix_cons '\x7d' s)
          have hread' := hswap hclose _ (le_fuel hs hclose 1)
          rw [swap_cons hold, swap_cons hafter, List.length_cons, ← readAssertionName_eq] at hread'
          rw [swap_cons (hafter.trans hrest)]
          simp only [readWordBoundary?, skip_swap_eq_cons hskip hafter, hc, ↓reduceIte, hread', hb,
            Option.map_some]
        · cases h
      · rename_i hc
        cases h
        refine ⟨List.suffix_rfl, fun hold hbrace ↦ ?_⟩
        obtain ⟨c', rest', hskip', hold'⟩ := hbrace rfl rest rfl
        rw [hskip] at hskip'
        cases hskip'
        rw [swap_cons (hold'.trans hrest)]
        simp only [readWordBoundary?, skip_swap_eq_cons hskip hold', hc, Bool.false_eq_true,
          ↓reduceIte]
  · rename_i hcs
    cases h
    refine ⟨List.suffix_rfl, fun hold _ ↦ ?_⟩
    rw [readWordBoundary?.eq_def]
    split
    · rename_i rest heq
      obtain ⟨r, hr⟩ := swap_eq_cons hold heq (by decide)
      exact absurd hr (hcs r)
    · rfl

theorem follows_readEscape? {e : Expr} {s : List Char}
    (h : readEscape? extended cs = some (e, s)) :
    s <:+ cs ∧ (d.old <:+ s → (e = .assertion .wordBoundary → d.BehindBrace extended s) →
      readEscape? extended (d.swap cs) = some (e, d.swap s)) := by
  cases cs with
  | nil => cases h
  | cons c cs =>
    rw [readEscape?] at h
    split at h
    · rename_i hc
      obtain ⟨⟨l, after⟩, hread, h⟩ := Option.map_eq_some_iff.1 h
      cases h
      obtain ⟨hs, hswap⟩ := follows_readCodePoint? (d := d) (by split_ifs <;> decide) hread
      refine ⟨hs.trans (List.suffix_cons c cs), fun hold _ ↦ ?_⟩
      rw [swap_cons (hold.trans hs), readEscape?, if_pos hc, hswap hold, Option.map_some]
    · rename_i hc
      split at h
      · rename_i hp
        obtain ⟨⟨name, after⟩, hread, h⟩ := Option.map_eq_some_iff.1 h
        cases h
        obtain ⟨hs, hswap⟩ := follows_readProperty? (d := d) hread
        refine ⟨hs.trans (List.suffix_cons c cs), fun hold _ ↦ ?_⟩
        rw [swap_cons (hold.trans hs), readEscape?, if_neg hc, if_pos hp, hswap hold,
          Option.map_some]
      · rename_i hp
        split at h
        · rename_i hb
          obtain ⟨⟨a, after⟩, hread, h⟩ := Option.map_eq_some_iff.1 h
          cases h
          obtain ⟨hs, hswap⟩ := follows_readWordBoundary? (d := d) hread
          refine ⟨hs.trans (List.suffix_cons c cs), fun hold hbrace ↦ ?_⟩
          rw [swap_cons (hold.trans hs), readEscape?, if_neg hc, if_neg hp, if_pos hb,
            hswap hold fun ha ↦ hbrace (ha ▸ rfl), Option.map_some]
        · rename_i hb
          -- Nothing but the character behind the backslash counts.
          have hs : s = cs ∧ ∀ cs', readEscape? extended (c :: cs') = some (e, cs') := by
            split at h
            · rename_i k hk
              cases h
              exact ⟨rfl, fun cs' ↦ by simp only [readEscape?, hc, hp, hb, hk, ↓reduceIte]⟩
            · rename_i hk
              split at h
              · rename_i he
                cases h
                exact ⟨rfl, fun cs' ↦ by simp only [readEscape?, hc, hp, hb, hk, he, ↓reduceIte]⟩
              · rename_i he
                split at h
                · rename_i l hl
                  cases h
                  exact ⟨rfl, fun cs' ↦ by simp [readEscape?, hc, hp, hb, hk, he, hl]⟩
                · rename_i hl
                  obtain ⟨a, ha, h⟩ := Option.map_eq_some_iff.1 h
                  cases h
                  exact ⟨rfl, fun cs' ↦ by simp [readEscape?, hc, hp, hb, hk, he, hl, ha]⟩
          obtain ⟨rfl, hall⟩ := hs
          refine ⟨List.suffix_cons c s, fun hold _ ↦ ?_⟩
          rw [swap_cons hold, hall]

end Endings

end SurveyQuests.Pattern
