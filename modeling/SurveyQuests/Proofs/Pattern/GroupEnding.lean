import SurveyQuests.Proofs.Pattern.ClassEnding
import SurveyQuests.Proofs.Pattern.Step

/-!
# What stands behind a group of a pattern

Parts of a pattern are read up to the closing parenthesis of their group, or up to the end of the
text.  `followsBranches` says that what stands behind that place does not matter, by induction on
the fuel: one step of the reader is the same for both endings, given that the inside of a group is
(`FollowsBranches.step`).
-/

set_option autoImplicit false

namespace SurveyQuests.Pattern

namespace Endings

variable {d : Endings} {extended : Bool} {cs s : List Char}

/-! ## Repetitions -/

theorem follows_readCount? {n : Option Nat} (h : readCount? extended cs = some (n, s)) :
    s <:+ cs ∧ (d.old <:+ s → readCount? extended (d.swap cs) = some (n, d.swap s)) := by
  have hdrop := List.dropWhile_suffix (l := cs) Character.isSpace
  cases hdigits : readDigits extended (cs.dropWhile Character.isSpace).length
      (cs.dropWhile Character.isSpace) with
  | mk digits after =>
    rw [readDigits_eq] at hdigits
    obtain ⟨hafter, hread⟩ := follows_readWhile (d := d) (by decide) hdigits (Nat.le_refl _)
    rw [← readDigits_eq] at hdigits
    have hblanks := skipBlanks_suffix extended after
    have hswap : d.old <:+ skipBlanks extended after →
        readDigits extended ((d.swap cs).dropWhile Character.isSpace).length
          ((d.swap cs).dropWhile Character.isSpace) = (digits, d.swap after) := fun hold ↦ by
      have hold' := hold.trans hblanks
      rw [swap_dropWhile (by decide) (hold'.trans hafter), readDigits_eq]
      exact hread hold' _ (length_le_swap hafter hold')
    rw [readCount?, hdigits] at h
    dsimp only at h
    split at h
    · rename_i hempty
      cases h
      refine ⟨hblanks.trans (hafter.trans hdrop), fun hold ↦ ?_⟩
      rw [readCount?, hswap hold]
      dsimp only
      rw [if_pos hempty, swap_skipBlanks hold]
    · rename_i hempty
      split at h
      · rename_i hlt
        cases h
        refine ⟨hblanks.trans (hafter.trans hdrop), fun hold ↦ ?_⟩
        rw [readCount?, hswap hold]
        dsimp only
        rw [if_neg hempty, if_pos hlt, swap_skipBlanks hold]
      · cases h

theorem skipReluctant_suffix (cs : List Char) : skipReluctant cs <:+ cs := by
  rw [skipReluctant.eq_def]
  split
  · exact List.suffix_cons _ _
  · exact List.suffix_rfl

theorem swap_skipReluctant (h : d.old <:+ skipReluctant cs) :
    skipReluctant (d.swap cs) = d.swap (skipReluctant cs) := by
  rw [skipReluctant.eq_def cs] at h ⊢
  split at h
  · rw [swap_cons h]
    rfl
  · rename_i hmark
    rw [skipReluctant.eq_def]
    split
    · rename_i heq
      obtain ⟨r, hr⟩ := swap_eq_cons h heq (by decide)
      exact absurd hr (hmark r)
    · rfl

theorem exists_cons_of_suffix {x : Char} {t l : List Char} (h : x :: t <:+ l) :
    ∃ c r, l = c :: r ∧ t <:+ r := by
  cases l with
  | nil => exact absurd (List.suffix_nil.1 h) (List.cons_ne_nil x t)
  | cons c r => exact ⟨c, r, rfl, suffix_of_cons_suffix h⟩

/-- What is left after the closing brace of a repetition. -/
theorem skipReluctant_skip_suffix (extended : Bool) (cs : List Char) :
    skipReluctant (skip extended cs) <:+ cs :=
  (skipReluctant_suffix _).trans (skip_suffix extended cs)

theorem swap_skipReluctant_skip (h : d.old <:+ skipReluctant (skip extended cs)) :
    skipReluctant (skip extended (d.swap cs)) = d.swap (skipReluctant (skip extended cs)) := by
  rw [swap_skip (h.trans (skipReluctant_suffix _)), swap_skipReluctant h]

theorem follows_readBounds? {least : Nat} {most : Option Nat}
    (h : readBounds? extended cs = some (least, most, s)) :
    (∃ c rest, skip extended cs = c :: rest ∧ s <:+ rest) ∧
      (d.old <:+ s → readBounds? extended (d.swap cs) = some (least, most, d.swap s)) := by
  obtain ⟨⟨first, rest⟩, hfirst, hbounds⟩ := Option.bind_eq_some_iff.1 h
  obtain ⟨least', hleast, hmatch⟩ := Option.bind_eq_some_iff.1 hbounds
  dsimp only at hleast hmatch
  obtain ⟨hrest, hswap⟩ := follows_readCount? (d := d) hfirst
  have hcons : ∀ {x t}, rest = x :: t → s <:+ t →
      ∃ c rest, skip extended cs = c :: rest ∧ s <:+ rest := fun hx hs ↦
    let ⟨c, r, hcs, hr⟩ := exists_cons_of_suffix (hx ▸ hrest)
    ⟨c, r, hcs, hs.trans hr⟩
  split at hmatch
  · rename_i after
    cases hmatch
    have hs := skipReluctant_skip_suffix extended after
    refine ⟨hcons rfl hs, fun hold ↦ ?_⟩
    have hafter := hold.trans hs
    have hclosed := hafter.trans (List.suffix_cons '\x7d' after)
    simp only [readBounds?, swap_skip (hclosed.trans hrest), hswap hclosed, hleast,
      swap_cons hafter, swap_skipReluctant_skip hold, Option.bind_eq_bind, Option.bind_some]
  · rename_i rest
    split at hmatch
    · rename_i after hskip
      cases hmatch
      have hs := skipReluctant_skip_suffix extended after
      have hs' := hs.trans (suffix_of_skip hskip)
      refine ⟨hcons rfl hs', fun hold ↦ ?_⟩
      have hmore := hold.trans hs'
      have hcomma := hmore.trans (List.suffix_cons ',' rest)
      simp only [readBounds?, swap_skip (hcomma.trans hrest), hswap hcomma, hleast,
        swap_cons hmore, skip_swap_eq_cons hskip (hold.trans hs), swap_skipReluctant_skip hold,
        Option.bind_eq_bind, Option.bind_some]
    · rename_i hbrace
      obtain ⟨⟨second, rest'⟩, hsecond, hbound⟩ := Option.bind_eq_some_iff.1 hmatch
      obtain ⟨most', hmost, hclose⟩ := Option.bind_eq_some_iff.1 hbound
      dsimp only at hmost hclose
      obtain ⟨hrest', hswap'⟩ := follows_readCount? (d := d) hsecond
      split at hclose
      · rename_i after
        split at hclose
        · rename_i hle
          cases hclose
          have hs := skipReluctant_skip_suffix extended after
          obtain ⟨c, r, hskip, hr⟩ := exists_cons_of_suffix hrest'
          have hs' := hs.trans hr
          refine ⟨hcons rfl (hs'.trans (suffix_of_skip hskip)), fun hold ↦ ?_⟩
          have hafter := hold.trans hs
          have hmore := hold.trans (hs'.trans (suffix_of_skip hskip))
          have hcomma := hmore.trans (List.suffix_cons ',' rest)
          have hcount := hswap' (hafter.trans (List.suffix_cons '\x7d' after))
          rw [hskip, swap_cons (hold.trans hs')] at hcount
          simp only [readBounds?, swap_skip (hcomma.trans hrest), hswap hcomma, hleast,
            swap_cons hmore, Option.bind_eq_bind, Option.bind_some,
            skip_swap_eq_cons hskip (hold.trans hs')]
          split
          · rename_i heq
            cases heq
            exact absurd hskip (hbrace r)
          · simp only [hcount, hmost, swap_cons hafter, hle, swap_skipReluctant_skip hold,
              Option.bind_some, ↓reduceIte]
        · cases hclose
      · cases hclose
  · cases hmatch

/-! ## Openings of groups -/

theorem follows_readFlags? {negated : Bool} {f f' : FlagChange}
    (h : readFlags? negated f cs = some (f', s)) :
    ∃ c rest, s = c :: rest ∧ (c = ':' ∨ c = ')') ∧ s <:+ cs ∧ (d.old <:+ rest →
      readFlags? negated f (d.swap cs) = some (f', c :: d.swap rest)) := by
  induction cs generalizing negated f with
  | nil => cases h
  | cons c cs ih =>
    rw [readFlags?] at h
    split at h
    · rename_i hc
      split at h
      · cases h
      · rename_i hoff
        cases h
        refine ⟨c, cs, rfl, hc, List.suffix_rfl, fun hold ↦ ?_⟩
        rw [swap_cons hold, readFlags?, if_pos hc, if_neg hoff]
    · rename_i hc
      -- What is left is behind the character, which is read before the other ending as well.
      have step : ∀ {negated₁ f₁}, readFlags? negated₁ f₁ cs = some (f', s) →
          (∀ cs', readFlags? negated f (c :: cs') = readFlags? negated₁ f₁ cs') →
          ∃ c₁ rest, s = c₁ :: rest ∧ (c₁ = ':' ∨ c₁ = ')') ∧ s <:+ c :: cs ∧ (d.old <:+ rest →
            readFlags? negated f (d.swap (c :: cs)) = some (f', c₁ :: d.swap rest)) := by
        intro negated₁ f₁ hread heq
        obtain ⟨c₁, rest, rfl, hc₁, hs, hswap⟩ := ih hread
        refine ⟨c₁, rest, rfl, hc₁, hs.trans (List.suffix_cons c cs), fun hold ↦ ?_⟩
        rw [swap_cons (hold.trans ((List.suffix_cons c₁ rest).trans hs)), heq, hswap hold]
      split at h
      · rename_i hdash
        split at h
        · cases h
        · rename_i hneg
          exact step h fun cs' ↦ by rw [readFlags?, if_neg hc, if_pos hdash, if_neg hneg]
      · rename_i hdash
        obtain ⟨flag, hflag, h'⟩ := Option.bind_eq_some_iff.1 h
        split at h'
        · cases h'
        · rename_i hnew
          split at h'
          · rename_i hneg
            exact step h' fun cs' ↦ by
              simp only [readFlags?, hc, hdash, hflag, hnew, hneg, Option.bind_eq_bind,
                Option.bind_some, ↓reduceIte, Bool.false_eq_true]
          · rename_i hneg
            exact step h' fun cs' ↦ by
              simp only [readFlags?, hc, hdash, hflag, hnew, hneg, Option.bind_eq_bind,
                Option.bind_some, ↓reduceIte, Bool.false_eq_true]

/-- A text that stands before a character for the first time is followed by the character. -/
theorem swap_takeWhile_dropWhile {p : Char → Bool} {c : Char} {rest : List Char}
    (h : cs.dropWhile p = c :: rest) (hrest : d.old <:+ rest) :
    (d.swap cs).takeWhile p = cs.takeWhile p ∧ (d.swap cs).dropWhile p = c :: d.swap rest := by
  induction cs with
  | nil => cases h
  | cons x cs ih =>
    cases hx : p x with
    | true =>
      rw [List.dropWhile_cons_of_pos hx] at h
      have hcs : c :: rest <:+ cs := h ▸ List.dropWhile_suffix p
      rw [swap_cons (hrest.trans ((List.suffix_cons c rest).trans hcs)),
        List.takeWhile_cons_of_pos hx, List.takeWhile_cons_of_pos hx,
        List.dropWhile_cons_of_pos hx, (ih h).1, (ih h).2]
      exact ⟨rfl, rfl⟩
    | false =>
      have hx' : ¬ p x = true := by simp [hx]
      rw [List.dropWhile_cons_of_neg hx'] at h
      cases h
      rw [swap_cons hrest, List.takeWhile_cons_of_neg hx', List.takeWhile_cons_of_neg hx',
        List.dropWhile_cons_of_neg hx']
      exact ⟨rfl, rfl⟩

theorem follows_readName? {name : String} (h : readName? cs = some (name, s)) :
    s <:+ cs ∧ (d.old <:+ s → readName? (d.swap cs) = some (name, d.swap s)) := by
  rw [readName?] at h
  split at h
  · cases h
  · rename_i c after hdrop
    split at h
    · cases h
    · rename_i first rest htake
      split at h
      · rename_i hname
        cases h
        refine ⟨(List.suffix_cons c s).trans (hdrop ▸ List.dropWhile_suffix _), fun hold ↦ ?_⟩
        obtain ⟨htake', hdrop'⟩ := swap_takeWhile_dropWhile hdrop hold
        simp only [readName?, hdrop', htake', htake, hname, ↓reduceIte]
      · cases h

theorem readOpening?_pName {rest : List Char} (hcs : skip extended cs = '?' :: 'P' :: '<' :: rest) :
    readOpening? extended cs =
      (readName? rest).map fun (name, after) ↦ (.group none (some name), after) := by
  rw [readOpening?, hcs]
  rfl

theorem readOpening?_name {rest : List Char} (hcs : skip extended cs = '?' :: '<' :: rest)
    (hbehind : ∀ t, rest ≠ '=' :: t) (hnotBehind : ∀ t, rest ≠ '!' :: t) :
    readOpening? extended cs =
      (readName? rest).map fun (name, after) ↦ (.group none (some name), after) := by
  rw [readOpening?, hcs]
  split
  all_goals rename_i heq
  · cases heq
  · cases heq
  · cases heq
    exact absurd rfl (hbehind _)
  · cases heq
    exact absurd rfl (hnotBehind _)
  · cases heq
  · cases heq
    rfl
  · rename_i hname
    cases heq
    exact absurd rfl (hname _)
  · exact absurd rfl (heq _)

/-- Do flags stand behind the question mark that this text follows? -/
def SetsFlags (rest : List Char) : Prop :=
  ∀ t, rest ≠ '=' :: t ∧ rest ≠ '!' :: t ∧ rest ≠ '<' :: t ∧ rest ≠ 'P' :: '<' :: t

/-- What flags start depends on the character that ends them. -/
def openingOfFlags? (f : FlagChange) : List Char → Option (Opening × List Char)
  | ')' :: after => if f.on.isEmpty && f.off.isEmpty then none else some (.flags f, after)
  | _ :: after => some (.group (some f) none, after)
  | [] => none

theorem openingOfFlags?_cons {f : FlagChange} {c : Char} {after : List Char} {o : Opening}
    (h : openingOfFlags? f (c :: after) = some (o, s)) :
    s = after ∧ ∀ after', openingOfFlags? f (c :: after') = some (o, after') := by
  by_cases hc : c = ')'
  · subst hc
    rw [openingOfFlags?] at h
    split at h
    · cases h
    · rename_i hempty
      cases h
      exact ⟨rfl, fun after' ↦ by rw [openingOfFlags?, if_neg hempty]⟩
  · have hcons : ∀ after',
        openingOfFlags? f (c :: after') = some (.group (some f) none, after') := by
      intro after'
      rw [openingOfFlags?]
      exact hc
    rw [hcons] at h
    cases h
    exact ⟨rfl, hcons⟩

theorem readOpening?_flags {rest : List Char} (hcs : skip extended cs = '?' :: rest)
    (hflags : SetsFlags rest) :
    readOpening? extended cs = (readFlags? false ⟨[], []⟩ rest).bind fun (f, rest) ↦
      openingOfFlags? f rest := by
  rw [readOpening?, hcs]
  split
  all_goals rename_i heq
  · cases heq
    exact absurd rfl (hflags _).1
  · cases heq
    exact absurd rfl (hflags _).2.1
  · cases heq
    exact absurd rfl (hflags _).2.2.1
  · cases heq
    exact absurd rfl (hflags _).2.2.1
  · cases heq
    exact absurd rfl (hflags _).2.2.2
  · cases heq
    exact absurd rfl (hflags _).2.2.1
  · cases heq
    rfl
  · exact absurd rfl (heq _)

theorem readOpening?_plain (h : ∀ t, skip extended cs ≠ '?' :: t) :
    readOpening? extended cs = some (.group none none, skip extended cs) := by
  rw [readOpening?]
  split
  all_goals first
    | rfl
    | rename_i heq
      exact absurd heq (h _)

theorem follows_readOpening? {o : Opening} (h : readOpening? extended cs = some (o, s)) :
    s <:+ cs ∧ (d.old <:+ s → readOpening? extended (d.swap cs) = some (o, d.swap s)) := by
  have hskip := skip_suffix extended cs
  rw [readOpening?] at h
  split at h
  · cases h
  · cases h
  · cases h
  · cases h
  · rename_i rest hcs
    obtain ⟨⟨name, after⟩, hname, h⟩ := Option.map_eq_some_iff.1 h
    cases h
    obtain ⟨hs, hname'⟩ := follows_readName? (d := d) hname
    have hs' := hs.trans (suffix_cons_cons 'P' '<' rest)
    refine ⟨hs'.trans (suffix_of_skip hcs), fun hold ↦ ?_⟩
    have hcs' := skip_swap_eq_cons hcs (hold.trans hs')
    rw [swap_cons (hold.trans (hs.trans (List.suffix_cons '<' rest))),
      swap_cons (hold.trans hs)] at hcs'
    rw [readOpening?_pName hcs', hname' hold, Option.map_some]
  · rename_i rest hbehind hnotBehind hcs
    obtain ⟨⟨name, after⟩, hname, h⟩ := Option.map_eq_some_iff.1 h
    cases h
    obtain ⟨hs, hname'⟩ := follows_readName? (d := d) hname
    have hs' := hs.trans (List.suffix_cons '<' rest)
    refine ⟨hs'.trans (suffix_of_skip hcs), fun hold ↦ ?_⟩
    have hcs' := skip_swap_eq_cons hcs (hold.trans hs')
    rw [swap_cons (hold.trans hs)] at hcs'
    have hhead : ∀ {c}, c ≠ ')' → (∀ t, rest = c :: t → False) → ∀ t, d.swap rest ≠ c :: t :=
      fun hc hne t heq ↦
        let ⟨r, hr⟩ := swap_eq_cons (hold.trans hs) heq hc
        hne r hr
    rw [readOpening?_name hcs' (hhead (by decide) hbehind) (hhead (by decide) hnotBehind),
      hname' hold, Option.map_some]
  · rename_i rest hahead hnotAhead hbehind hnotBehind hpName hname hcs
    obtain ⟨⟨f, rest'⟩, hflags, hmatch⟩ := Option.bind_eq_some_iff.1 h
    obtain ⟨c, after, rfl, hc, hrest, hflags'⟩ := follows_readFlags? (d := d) hflags
    obtain ⟨rfl, hopening⟩ := openingOfFlags?_cons (f := f) hmatch
    have hs := (List.suffix_cons c s).trans hrest
    refine ⟨hs.trans (suffix_of_skip hcs), fun hold ↦ ?_⟩
    have hrest' := hold.trans hs
    have hsets : SetsFlags (d.swap rest) := by
      intro t
      refine ⟨fun heq ↦ ?_, fun heq ↦ ?_, fun heq ↦ ?_, fun heq ↦ ?_⟩
      · obtain ⟨r, hr⟩ := swap_eq_cons hrest' heq (by decide)
        exact hahead r hr
      · obtain ⟨r, hr⟩ := swap_eq_cons hrest' heq (by decide)
        exact hnotAhead r hr
      · obtain ⟨r, hr⟩ := swap_eq_cons hrest' heq (by decide)
        exact hname r hr
      · obtain ⟨r, hr⟩ := swap_eq_cons_cons hrest hold heq (by decide) (by decide)
        exact hpName r hr
    rw [readOpening?_flags (skip_swap_eq_cons hcs hrest') hsets, hflags' hold, Option.bind_some]
    exact hopening _
  · rename_i hplain
    cases h
    refine ⟨hskip, fun hold ↦ ?_⟩
    rw [readOpening?_plain, swap_skip hold]
    intro t ht
    rw [swap_skip hold] at ht
    obtain ⟨r, hr⟩ := swap_eq_cons hold ht (by decide)
    exact hplain r hr

/-! ## Parts and branches -/

theorem follows_readMark? {c : Char} {min : Nat} {max : Option Nat}
    (h : readMark? extended c cs = some (min, max, s)) :
    s <:+ cs ∧ (d.old <:+ s →
      readMark? extended c (d.swap cs) = some (min, max, d.swap s)) := by
  rw [readMark?] at h
  split_ifs at h with h₁ h₂ h₃ h₄
  · cases h
    refine ⟨skipReluctant_suffix cs, fun hold ↦ ?_⟩
    rw [readMark?, if_pos h₁, swap_skipReluctant hold]
  · cases h
    refine ⟨skipReluctant_suffix cs, fun hold ↦ ?_⟩
    rw [readMark?, if_neg h₁, if_pos h₂, swap_skipReluctant hold]
  · cases h
    refine ⟨skipReluctant_suffix cs, fun hold ↦ ?_⟩
    rw [readMark?, if_neg h₁, if_neg h₂, if_pos h₃, swap_skipReluctant hold]
  · obtain ⟨⟨c', rest, hcs, hs⟩, hswap⟩ := follows_readBounds? (d := d) h
    refine ⟨hs.trans (suffix_of_skip hcs), fun hold ↦ ?_⟩
    rw [readMark?, if_neg h₁, if_neg h₂, if_neg h₃, if_pos h₄, hswap hold]

theorem stops_swap (hstops : Stops s) (h : d.old <:+ s) : Stops (d.swap s) := by
  obtain rfl | ⟨rest, rfl⟩ := hstops
  · exact absurd h not_suffix_nil
  · rcases eq_old_or_suffix h with heq | hrest
    · rw [heq, swap_old]
      exact d.new_eq
    · exact .inr ⟨d.swap rest, swap_cons hrest⟩

variable (d) in
/-- Parts that are read with so much fuel are read up to a closing parenthesis or to the end, and it
does not matter what stands behind it. -/
def FollowsBranches (fuel : Nat) : Prop :=
  ∀ ⦃p q : Progress⦄ ⦃cs s : List Char⦄, readBranches? fuel p cs = some (q, s) →
    s <:+ cs ∧ Stops s ∧ (d.old <:+ s → ∀ n, cs.length < n + s.length →
      readBranches? n p (d.swap cs) = some (q, d.swap s))

variable {fuel : Nat} {p p₁ q : Progress} {rest : List Char}

theorem FollowsBranches.step (hinner : d.FollowsBranches fuel) (h : Step fuel p cs p₁ rest) :
    (∃ c r, cs = c :: r ∧ rest <:+ r) ∧ (d.old <:+ rest → d.BehindBrace p₁.extended rest →
      ∀ n, cs.length ≤ n + rest.length → Step n p (d.swap cs) p₁ (d.swap rest)) := by
  cases h with
  | branch =>
    refine ⟨⟨_, _, rfl, List.suffix_rfl⟩, fun hold _ n _ ↦ ?_⟩
    rw [swap_cons hold]
    exact .branch _
  | flags hopening =>
    obtain ⟨hs, hswap⟩ := follows_readOpening? (d := d) hopening
    refine ⟨⟨_, _, rfl, hs⟩, fun hold _ n _ ↦ ?_⟩
    rw [swap_cons (hold.trans hs)]
    exact .flags (hswap hold)
  | @group r r₁ _ f name names inner hopening hnames hread =>
    obtain ⟨hs, hswap⟩ := follows_readOpening? (d := d) hopening
    have hs' := (hinner hread).1
    have hs'' := (List.suffix_cons _ _).trans hs'
    refine ⟨⟨_, _, rfl, hs''.trans hs⟩, fun hold _ n hn ↦ ?_⟩
    have hle := hs.length_le
    rw [List.length_cons] at hn
    have hread' := (hinner hread).2.2 (hold.trans (List.suffix_cons _ _)) n
      (by rw [List.length_cons]; omega)
    rw [swap_cons hold] at hread'
    rw [swap_cons (hold.trans (hs''.trans hs))]
    exact .group (hswap (hold.trans hs'')) hnames hread'
  | @set r _ negated x hclass =>
    have hs := (follows_readClass? (d := d) hclass).1
    refine ⟨⟨_, _, rfl, hs⟩, fun hold _ n _ ↦ ?_⟩
    have hle := length_le_swap hs hold
    have hclass' := (follows_readClass? hclass).2 hold ((d.swap r).length + 1) (by omega)
    rw [swap_cons (hold.trans hs)]
    exact .set hclass'
  | mark hmark hparts =>
    obtain ⟨hs, hswap⟩ := follows_readMark? (d := d) hmark
    refine ⟨⟨_, _, rfl, hs⟩, fun hold _ n _ ↦ ?_⟩
    rw [swap_cons (hold.trans hs)]
    exact .mark (hswap hold) hparts
  | escape hescape =>
    obtain ⟨hs, hswap⟩ := follows_readEscape? (d := d) hescape
    refine ⟨⟨_, _, rfl, hs⟩, fun hold hbrace n _ ↦ ?_⟩
    rw [swap_cons (hold.trans hs)]
    exact .escape (hswap hold fun _ ↦ hbrace)
  | single _ hc =>
    refine ⟨⟨_, _, rfl, List.suffix_rfl⟩, fun hold _ n _ ↦ ?_⟩
    rw [swap_cons hold]
    exact .single _ hc

theorem skip_brace (extended : Bool) (cs : List Char) :
    skip extended ('\x7b' :: cs) = '\x7b' :: cs := by
  cases extended <;> rfl

/-- A brace that parts are read from starts the bounds of a repetition. -/
theorem FollowsBranches.behindBrace (hfuel : d.FollowsBranches fuel)
    (h : readBranches? (fuel + 1) p cs = some (q, s)) (hold : d.old <:+ s) :
    d.BehindBrace p.extended cs := by
  rintro r rfl
  have hskip := skip_brace p.extended r
  rcases readBranches?_succ_iff.1 h with ⟨hstops, -, -⟩ | ⟨p₁, rest, hstep, hread⟩
  · rw [hskip] at hstops
    rcases hstops with hr | ⟨r', hr⟩ <;> cases hr
  · rw [hskip] at hstep
    have hs := (hfuel hread).1
    cases hstep with
    | mark hmark _ =>
      obtain ⟨⟨c', rest', hcs, hrest⟩, -⟩ := follows_readBounds? (d := d) hmark
      exact ⟨c', rest', hcs, hold.trans (hs.trans hrest)⟩
    | single _ hc => exact absurd (by simp [StartsPart]) hc

theorem followsBranches (fuel : Nat) : d.FollowsBranches fuel := by
  induction fuel using Nat.strongRecOn with
  | _ fuel ih =>
    intro p q cs s h
    cases fuel with
    | zero => cases h
    | succ fuel =>
      have ih' := ih fuel (Nat.lt_succ_self fuel)
      have hskip := skip_suffix p.extended cs
      rcases readBranches?_succ_iff.1 h with ⟨hstops, rfl, rfl⟩ | ⟨p₁, rest, hstep, hread⟩
      · refine ⟨hskip, hstops, fun hold n hn ↦ ?_⟩
        have hle := hskip.length_le
        obtain ⟨n, rfl⟩ : ∃ m, n = m + 1 := ⟨n - 1, by omega⟩
        refine readBranches?_succ_iff.2 (.inl ?_)
        rw [swap_skip hold]
        exact ⟨stops_swap hstops hold, rfl, rfl⟩
      · obtain ⟨⟨c, r, hcs, hrest⟩, -⟩ := ih'.step hstep
        obtain ⟨hs, hstops, -⟩ := ih' hread
        have hrest' := hrest.trans (suffix_of_skip hcs)
        refine ⟨hs.trans hrest', hstops, fun hold n hn ↦ ?_⟩
        have hle := hs.length_le
        have hlt := Nat.lt_of_le_of_lt hrest.length_le (length_lt_of_skip hcs)
        have hle' := hskip.length_le
        obtain ⟨n, rfl⟩ : ∃ m, n = m + 1 := ⟨n - 1, by omega⟩
        have hbrace : d.BehindBrace p₁.extended rest := by
          cases fuel with
          | zero => cases hread
          | succ fuel => exact (ih fuel (by omega)).behindBrace hread hold
        have hrest'' := hold.trans hs
        have hstep' := (ih'.step hstep).2 hrest'' hbrace n (by omega)
        rw [← swap_skip (hcs ▸ hrest''.trans (hrest.trans (List.suffix_cons c r)))] at hstep'
        rw [hstep'.read]
        exact (ih' hread).2.2 hold n (by omega)

end Endings

/-- **What stands behind a group does not matter.**  Parts that are read up to a closing parenthesis
are read from any text that starts alike, if that goes on with a closing parenthesis or ends. -/
theorem readBranches?_append {fuel fuel' : Nat} {p q : Progress} {before rest behind : List Char}
    (h : readBranches? fuel p (before ++ ')' :: rest) = some (q, ')' :: rest))
    (hbehind : Stops behind) (hfuel : before.length < fuel') :
    readBranches? fuel' p (before ++ behind) = some (q, behind) := by
  let d : Endings := ⟨')' :: rest, behind, ⟨rest, rfl⟩, hbehind⟩
  have hlt : (before ++ ')' :: rest).length < fuel' + (')' :: rest).length := by
    rw [List.length_append]
    omega
  have hswap := (Endings.followsBranches (d := d) fuel h).2.2 List.suffix_rfl _ hlt
  rwa [d.swap_append before, d.swap_old] at hswap

theorem readBranches?_suffix {fuel : Nat} {p q : Progress} {cs s : List Char}
    (h : readBranches? fuel p cs = some (q, s)) : s <:+ cs :=
  (Endings.followsBranches (d := ⟨[')'], [], ⟨[], rfl⟩, .inl rfl⟩) fuel h).1

end SurveyQuests.Pattern
