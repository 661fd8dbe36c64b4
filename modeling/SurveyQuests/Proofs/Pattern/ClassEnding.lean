import SurveyQuests.Proofs.Pattern.Ending

/-!
# What stands behind a class of a pattern

A class in brackets holds texts that are read in another way than the rest of a pattern: what
follows a dash or a bracket decides how they are read.  All that is looked at stands before the
bracket that closes the class, though, so that the reader of a class does not notice either what
the text ends with.
-/

set_option autoImplicit false

namespace SurveyQuests.Pattern

namespace Endings

variable {d : Endings} {extended : Bool} {cs s : List Char}

variable (d) in
/-- Is there a closing bracket before the old ending?  A class that is closed reads nothing behind
its bracket. -/
def InClass (cs : List Char) : Prop := ∃ t, ']' :: t <:+ cs ∧ d.old <:+ t

theorem InClass.mono (h : d.InClass s) (hs : s <:+ cs) : d.InClass cs :=
  let ⟨t, ht, hold⟩ := h
  ⟨t, ht.trans hs, hold⟩

theorem InClass.old_suffix (h : d.InClass cs) : d.old <:+ cs :=
  let ⟨_, ht, hold⟩ := h
  (hold.trans (List.suffix_cons _ _)).trans ht

theorem InClass.old_suffix_tail {c : Char} (h : d.InClass (c :: cs)) : d.old <:+ cs :=
  let ⟨_, ht, hold⟩ := h
  hold.trans (suffix_of_cons_suffix ht)

/-- The text as a part that is closed, and what stands behind it. -/
theorem InClass.exists_eq (h : d.InClass cs) :
    ∃ w t t', cs = w ++ ']' :: t ∧ d.swap cs = w ++ ']' :: t' := by
  obtain ⟨t, ⟨w, rfl⟩, hold⟩ := h
  refine ⟨w, t, d.swap t, rfl, ?_⟩
  rw [swap_append_of_suffix (hold.trans (List.suffix_cons _ _)), swap_cons hold]

/-! ## ASCII classes -/

/-- A key that is found in a table passes a test that all keys of the table pass. -/
theorem of_isSome_lookup {α β : Type} [BEq α] [LawfulBEq α] {test : α → Bool}
    {table : List (α × β)} {key : α} (hall : table.all (fun p ↦ test p.1) = true)
    (h : (table.lookup key).isSome) : test key = true := by
  obtain ⟨value, hvalue⟩ := Option.isSome_iff_exists.1 h
  obtain ⟨before, after, rfl, -⟩ := List.lookup_eq_some_iff.1 hvalue
  exact List.all_eq_true.1 hall (key, value) (by simp)

/-- Does the name hold none of the marks around names? -/
def isUnmarked (name : String) : Bool :=
  name.toList.all fun c ↦ c != ':' && (c != ']' && c != '^')

theorem name_of_asciiRanges? {name : String} (h : (CharSet.asciiRanges? name).isSome) :
    ∀ c ∈ name.toList, c ≠ ':' ∧ c ≠ ']' ∧ c ≠ '^' := by
  have hall : isUnmarked name = true := of_isSome_lookup rfl h
  simpa [isUnmarked] using hall

theorem readAsciiClass?_eq_some_iff {k : NamedClass} {after : List Char} :
    readAsciiClass? cs = some (k, after) ↔ ∃ (negated : Bool) (name : String),
      (CharSet.asciiRanges? name).isSome ∧ k = .ascii name negated ∧
      cs = ':' :: ((if negated then ['^'] else []) ++ name.toList) ++ ':' :: ']' :: after := by
  constructor
  · intro h
    rw [readAsciiClass?.eq_def] at h
    split at h
    · rename_i rest
      split at h
      rename_i negated rest' hrest
      have hsplit : rest = (if negated then ['^'] else []) ++ rest' := by
        split at hrest <;> cases hrest <;> rfl
      split at h
      · rename_i after' hdrop
        dsimp only at h
        split at h
        · rename_i hname
          cases h
          have hrest' := rest'.takeWhile_append_dropWhile (p := (· != ':'))
          rw [hdrop] at hrest'
          refine ⟨negated, _, hname, rfl, ?_⟩
          rw [hsplit, String.toList_ofList, List.cons_append, List.append_assoc, hrest']
        · cases h
      · cases h
    · cases h
  · rintro ⟨negated, name, hname, rfl, rfl⟩
    have hchars := name_of_asciiRanges? hname
    have hall : ∀ c ∈ name.toList, (c != ':') = true := fun c hc ↦ by simp [(hchars c hc).1]
    cases negated with
    | true =>
      simp [readAsciiClass?, List.dropWhile_append_of_pos hall, List.takeWhile_append_of_pos hall,
        hname]
    | false =>
      have hcaret : ∀ r, name.toList ++ ':' :: ']' :: after ≠ '^' :: r := by
        intro r h
        cases hn : name.toList with
        | nil =>
          rw [hn] at h
          cases h
        | cons c cs =>
          rw [hn] at h
          exact (hchars c (by simp [hn])).2.2 (List.cons.inj h).1
      simp [readAsciiClass?, List.dropWhile_append_of_pos hall, List.takeWhile_append_of_pos hall,
        hname]

/-- The first of the places where a character stands is not behind another one. -/
theorem prefix_of_notMem {c : Char} {pre w z z' : List Char} (hc : c ∉ pre)
    (h : w ++ c :: z = pre ++ c :: z') : pre ++ [c] <+: w ++ [c] := by
  have hw : w ++ [c] <+: pre ++ c :: z' := ⟨z, by simp [← h]⟩
  have hpre : pre ++ [c] <+: pre ++ c :: z' := ⟨z', by simp⟩
  rcases Nat.lt_or_ge w.length pre.length with hlt | hle
  · have hw' : w ++ [c] <+: pre := List.prefix_of_prefix_length_le hw ⟨c :: z', rfl⟩ (by simpa)
    exact absurd (hw'.subset (by simp)) hc
  · exact List.prefix_of_prefix_length_le hpre hw (by simpa)

/-- Whether a class has a name depends on what stands before the first closing bracket only. -/
theorem readAsciiClass?_eq_none {w t : List Char} (h : readAsciiClass? (w ++ ']' :: t) = none)
    (t' : List Char) : readAsciiClass? (w ++ ']' :: t') = none := by
  rw [Option.eq_none_iff_forall_ne_some] at h ⊢
  rintro ⟨k, after⟩ hsome
  obtain ⟨negated, name, hname, rfl, heq⟩ := readAsciiClass?_eq_some_iff.1 hsome
  have hbracket : ']' ∉ ':' :: ((if negated then ['^'] else []) ++ name.toList) ++ [':'] := by
    have hmem : ']' ∉ name.toList := fun hc ↦ (name_of_asciiRanges? hname _ hc).2.1 rfl
    cases negated <;> simpa using hmem
  rw [List.append_cons (_ :: _)] at heq
  obtain ⟨u, hu⟩ := prefix_of_notMem hbracket heq
  refine h ⟨.ascii name negated, u ++ t⟩
    (readAsciiClass?_eq_some_iff.2 ⟨negated, name, hname, rfl, ?_⟩)
  rw [List.append_cons, ← hu]
  simp

/-! ## Items -/

theorem InClass.of_cons {c : Char} (hc : c ≠ ']') (h : d.InClass (c :: cs)) : d.InClass cs := by
  obtain ⟨t, ht, hold⟩ := h
  rcases List.suffix_cons_iff.1 ht with heq | hcs
  · exact absurd (List.cons.inj heq).1.symm hc
  · exact ⟨t, hcs, hold⟩

/-- What stands behind a closing bracket is not looked at. -/
theorem peekExtended_closed (first first' : List Char) (inComment : Bool) (w t t' : List Char) :
    peekExtended first inComment (w ++ ']' :: t) =
      peekExtended first' inComment (w ++ ']' :: t') := by
  induction w generalizing inComment with
  | nil => cases inComment <;> rfl
  | cons c w ih =>
    rw [List.cons_append, List.cons_append, peekExtended, peekExtended, ih, ih]

theorem InClass.peek_swap (h : d.InClass cs) : peek extended (d.swap cs) = peek extended cs := by
  obtain ⟨w, t, t', hcs, hswap⟩ := h.exists_eq
  rw [hswap, hcs]
  cases extended with
  | true => exact peekExtended_closed _ _ false w t' t
  | false => cases w <;> rfl

theorem follows_readSetItem? {c : Char} {e : Expr}
    (h : readSetItem? extended (c :: cs) = some (e, s)) :
    s <:+ cs ∧ (d.old <:+ s → e ≠ .assertion .wordBoundary →
      readSetItem? extended (c :: d.swap cs) = some (e, d.swap s)) := by
  rw [readSetItem?.eq_def] at h
  split at h
  · rename_i heq
    cases heq
  · rename_i heq
    cases heq
    obtain ⟨hs, hswap⟩ := follows_readEscape? (d := d) h
    exact ⟨hs, fun hold hne ↦ hswap hold fun he ↦ absurd he hne⟩
  · rename_i hslash heq
    cases heq
    cases h
    refine ⟨List.suffix_rfl, fun _ _ ↦ ?_⟩
    rw [readSetItem?]
    exact hslash

theorem follows_readSetRange? {c : Char} {x : SetExpr}
    (h : readSetRange? extended (c :: cs) = some (x, s)) :
    s <:+ cs ∧ (d.InClass s →
      readSetRange? extended (c :: d.swap cs) = some (x, d.swap s)) := by
  obtain ⟨⟨first, after⟩, hfirst, h⟩ := Option.bind_eq_some_iff.1 h
  obtain ⟨hafter, hswap⟩ := follows_readSetItem? (d := d) hfirst
  have hset : ∀ {set}, itemSet? first = some set → first ≠ .assertion .wordBoundary := by
    rintro set hset rfl
    cases hset
  dsimp only at h
  split at h
  · cases h
  · rename_i rest hskip
    split at h
    · rename_i hnext
      obtain ⟨set, hfirstSet, h⟩ := Option.bind_eq_some_iff.1 h
      cases h
      refine ⟨hskip ▸ (skip_suffix _ _).trans hafter, fun hin ↦ ?_⟩
      have hrest := hin.old_suffix_tail
      have hin' : d.InClass rest := hin.of_cons (by decide)
      simp only [readSetRange?, hswap (hrest.trans (suffix_of_skip hskip)) (hset hfirstSet),
        skip_swap_eq_cons hskip hrest, hin'.peek_swap, hnext, hfirstSet, swap_cons hrest,
        Option.bind_eq_bind, Option.bind_some, ↓reduceIte]
    · rename_i hnext
      obtain ⟨⟨last, after'⟩, hlast, h⟩ := Option.bind_eq_some_iff.1 h
      dsimp only at h
      split at h
      · rename_i a b
        split at h
        · rename_i hle
          cases h
          cases hrest : skip extended rest with
          | nil =>
            rw [hrest] at hlast
            cases hlast
          | cons c' rest' =>
            rw [hrest] at hlast
            obtain ⟨hs, hswap'⟩ := follows_readSetItem? (d := d) hlast
            have hs' : s <:+ rest := hs.trans (suffix_of_skip hrest)
            refine ⟨hs'.trans ((suffix_of_skip hskip).trans hafter), fun hin ↦ ?_⟩
            have hold := hin.old_suffix
            have hrest' := hold.trans hs'
            simp only [readSetRange?, hswap (hrest'.trans (suffix_of_skip hskip)) (by simp),
              skip_swap_eq_cons hskip hrest', (hin.mono hs').peek_swap, hnext,
              skip_swap_eq_cons hrest (hold.trans hs), hswap' hold (by simp), hle,
              Option.bind_eq_bind, Option.bind_some, ↓reduceIte]
        · cases h
      · cases h
  · rename_i hnil hdash
    obtain ⟨set, hfirstSet, h⟩ := Option.bind_eq_some_iff.1 h
    cases h
    refine ⟨(skip_suffix _ _).trans hafter, fun hin ↦ ?_⟩
    cases hskip : skip extended after with
    | nil => exact absurd hskip hnil
    | cons c' rest =>
      rw [hskip] at hin
      have hrest := hin.old_suffix_tail
      simp only [readSetRange?, hswap (hrest.trans (suffix_of_skip hskip)) (hset hfirstSet),
        skip_swap_eq_cons hskip hrest, hfirstSet, swap_cons hrest, Option.bind_eq_bind,
        Option.bind_some]
      split
      · rename_i heq
        cases heq
      · rename_i heq
        cases heq
        exact absurd hskip (hdash rest)
      · rfl

/-! ## Classes -/

theorem follows_readDashes {fuel : Nat} {items items' : List SetExpr}
    (h : readDashes extended fuel items cs = (items', s)) (hfuel : cs.length ≤ fuel) :
    s <:+ cs ∧ (d.InClass s → ∀ n, cs.length ≤ n + s.length →
      readDashes extended n items (d.swap cs) = (items', d.swap s)) := by
  induction fuel generalizing cs items with
  | zero =>
    cases h
    refine ⟨List.suffix_rfl, fun hin ↦ ?_⟩
    rw [List.length_eq_zero_iff.1 (Nat.le_zero.1 hfuel)] at hin
    exact absurd hin.old_suffix not_suffix_nil
  | succ fuel ih =>
    rw [readDashes.eq_def] at h
    dsimp only at h
    split at h
    · rename_i rest
      have hle := (skip_suffix extended rest).length_le
      rw [List.length_cons] at hfuel
      have hs := (ih h (by omega)).1
      have hle' := hs.length_le
      have hs' := hs.trans (skip_suffix extended rest)
      refine ⟨hs'.trans (List.suffix_cons _ _), fun hin n hn ↦ ?_⟩
      rw [List.length_cons] at hn
      obtain ⟨n, rfl⟩ : ∃ m, n = m + 1 := ⟨n - 1, by omega⟩
      have hold := hin.old_suffix
      rw [swap_cons (hold.trans hs'), readDashes, swap_skip (hold.trans hs)]
      exact (ih h (by omega)).2 hin n (by omega)
    · rename_i hdash
      cases h
      refine ⟨List.suffix_rfl, fun hin n _ ↦ ?_⟩
      cases n with
      | zero => rfl
      | succ n =>
        rw [readDashes.eq_def]
        dsimp only
        split
        · rename_i rest heq
          obtain ⟨r, hr⟩ := swap_eq_cons hin.old_suffix heq (by decide)
          exact absurd hr (hdash r)
        · rfl

/-- Reads what may come first in a class behind its mark of negation. -/
def readFirstItems? (extended negated : Bool) (cs : List Char) :
    Option (Bool × List SetExpr × List Char) :=
  let (items, cs) := readDashes extended cs.length [] cs
  match items, cs with
  | [], ']' :: rest => some (negated, [.literal ⟨']', false⟩], skip extended rest)
  | _, [] => none
  | _, _ => some (negated, items, cs)

theorem readSetOpen?_of_caret {rest : List Char} (h : skip extended cs = '^' :: rest) :
    readSetOpen? extended cs = readFirstItems? extended true (skip extended rest) := by
  rw [readSetOpen?, h]
  rfl

theorem readSetOpen?_of_not_caret (h : ∀ rest, skip extended cs ≠ '^' :: rest) :
    readSetOpen? extended cs = readFirstItems? extended false (skip extended cs) := by
  rw [readSetOpen?]
  split
  rename_i hopen
  split at hopen
  · rename_i hskip
    exact absurd hskip (h _)
  · cases hopen
    rfl

theorem follows_readFirstItems? {negated negated' : Bool} {items : List SetExpr}
    (h : readFirstItems? extended negated cs = some (negated', items, s)) :
    s <:+ cs ∧ (d.InClass s →
      readFirstItems? extended negated (d.swap cs) = some (negated', items, d.swap s)) := by
  cases hdashes : readDashes extended cs.length [] cs with
  | mk found rest =>
    obtain ⟨hrest, -⟩ := follows_readDashes (d := d) hdashes (Nat.le_refl _)
    have hswap : d.InClass rest →
        readDashes extended (d.swap cs).length [] (d.swap cs) = (found, d.swap rest) := fun hin ↦
      (follows_readDashes hdashes (Nat.le_refl _)).2 hin _ (length_le_swap hrest hin.old_suffix)
    rw [readFirstItems?, hdashes] at h
    dsimp only at h
    split at h
    · rename_i rest
      cases h
      have hs := skip_suffix extended rest
      refine ⟨(hs.trans (List.suffix_cons _ _)).trans hrest, fun hin ↦ ?_⟩
      have hold := hin.old_suffix.trans hs
      rw [readFirstItems?, hswap ⟨rest, List.suffix_rfl, hold⟩, swap_cons hold,
        ← swap_skip hin.old_suffix]
      rfl
    · cases h
    · rename_i hnil hbracket
      cases h
      refine ⟨hrest, fun hin ↦ ?_⟩
      cases s with
      | nil => exact absurd hin.old_suffix not_suffix_nil
      | cons c r =>
        rw [readFirstItems?, hswap hin, swap_cons hin.old_suffix_tail]
        dsimp only
        split
        · rename_i heq
          cases heq
          exact (hbracket r rfl rfl).elim
        · rename_i heq
          cases heq
        · rfl

theorem follows_readSetOpen? {negated : Bool} {items : List SetExpr}
    (h : readSetOpen? extended cs = some (negated, items, s)) :
    s <:+ cs ∧ (d.InClass s →
      readSetOpen? extended (d.swap cs) = some (negated, items, d.swap s)) := by
  by_cases hcaret : ∃ rest, skip extended cs = '^' :: rest
  · obtain ⟨rest, hskip⟩ := hcaret
    rw [readSetOpen?_of_caret hskip] at h
    obtain ⟨hs, hswap⟩ := follows_readFirstItems? (d := d) h
    have hs' := hs.trans (skip_suffix extended rest)
    refine ⟨hs'.trans (suffix_of_skip hskip), fun hin ↦ ?_⟩
    have hold := hin.old_suffix
    rw [readSetOpen?_of_caret (skip_swap_eq_cons hskip (hold.trans hs')), swap_skip (hold.trans hs),
      hswap hin]
  · have hcaret' := not_exists.1 hcaret
    rw [readSetOpen?_of_not_caret hcaret'] at h
    obtain ⟨hs, hswap⟩ := follows_readFirstItems? (d := d) h
    refine ⟨hs.trans (skip_suffix extended cs), fun hin ↦ ?_⟩
    have hold := hin.old_suffix.trans hs
    rw [readSetOpen?_of_not_caret, swap_skip hold, hswap hin]
    intro rest hrest
    rw [swap_skip hold] at hrest
    exact hcaret (swap_eq_cons hold hrest (by decide))

theorem splitSetOp?_eq_none (h : d.InClass cs) (hnone : splitSetOp? cs = none) :
    splitSetOp? (d.swap cs) = none := by
  obtain ⟨t, ht, hold⟩ := h
  rw [splitSetOp?.eq_def]
  split
  all_goals first
    | rfl
    | rename_i heq
      obtain ⟨r, rfl⟩ := swap_eq_cons_cons ht hold heq (by decide) (by decide)
      cases hnone

theorem follows_splitSetOp? {op : SetOp} (h : splitSetOp? cs = some (op, s)) :
    (∃ c c', cs = c :: c' :: s) ∧
      (d.old <:+ s → splitSetOp? (d.swap cs) = some (op, d.swap s)) := by
  rw [splitSetOp?.eq_def] at h
  split at h <;> cases h <;> refine ⟨⟨_, _, rfl⟩, fun hold ↦ ?_⟩ <;>
    rw [swap_cons (hold.trans (List.suffix_cons _ _)), swap_cons hold] <;> rfl

theorem follows_readAsciiClass? {k : NamedClass} (h : readAsciiClass? cs = some (k, s)) :
    s <:+ cs ∧ (d.old <:+ s → readAsciiClass? (d.swap cs) = some (k, d.swap s)) := by
  obtain ⟨negated, name, hname, rfl, rfl⟩ := readAsciiClass?_eq_some_iff.1 h
  refine ⟨(suffix_cons_cons _ _ _).trans (List.suffix_append _ _), fun hold ↦ ?_⟩
  rw [swap_append_of_suffix (hold.trans (suffix_cons_cons _ _ _)),
    swap_cons (hold.trans (List.suffix_cons _ _)), swap_cons hold]
  exact readAsciiClass?_eq_some_iff.2 ⟨negated, name, hname, rfl, rfl⟩

theorem readAsciiClass?_swap_eq_none (h : d.InClass cs) (hnone : readAsciiClass? cs = none) :
    readAsciiClass? (d.swap cs) = none := by
  obtain ⟨w, t, t', rfl, hswap⟩ := h.exists_eq
  rw [hswap]
  exact readAsciiClass?_eq_none hnone t'

theorem readItems?_open {fuel : Nat} {pending : Option (SetOp × SetExpr)} {items : List SetExpr}
    {rest : List Char} (h : skip extended cs = '[' :: rest) :
    readItems? extended (fuel + 1) pending items cs =
      match readAsciiClass? rest with
      | some (c, rest) => readItems? extended fuel pending (.named c :: items) rest
      | none => (Pattern.readClass? extended fuel rest).bind fun (negated, inner, rest) ↦
        readItems? extended fuel pending (.bracketed negated inner :: items) rest := by
  rw [readItems?, h]
  rfl

theorem readItems?_range {fuel : Nat} {pending : Option (SetOp × SetExpr)} {items : List SetExpr}
    {c : Char} {rest : List Char} (h : skip extended cs = c :: rest)
    (hop : splitSetOp? (c :: rest) = none) (hclose : c ≠ ']') (hopen : c ≠ '[') :
    readItems? extended (fuel + 1) pending items cs =
      (readSetRange? extended (c :: rest)).bind fun (item, rest) ↦
        readItems? extended fuel pending (item :: items) rest := by
  rw [readItems?, h]
  dsimp only
  rw [hop]
  dsimp only
  split
  · rename_i heq
    cases heq
  · rename_i heq
    exact absurd (List.cons.inj heq).1 hclose
  · rename_i heq
    exact absurd (List.cons.inj heq).1 hopen
  · rfl

variable (d extended) in
/-- Items of a class that are read with so much fuel are read up to a closing bracket, and it does
not matter what stands behind it. -/
def FollowsItems (fuel : Nat) : Prop :=
  ∀ ⦃pending : Option (SetOp × SetExpr)⦄ ⦃items : List SetExpr⦄ ⦃x : SetExpr⦄
    ⦃cs s : List Char⦄, readItems? extended fuel pending items cs = some (x, s) →
    ']' :: s <:+ cs ∧ (d.old <:+ s → ∀ n, cs.length ≤ n + s.length →
      readItems? extended n pending items (d.swap cs) = some (x, d.swap s))

theorem FollowsItems.readClass? {fuel : Nat} {negated : Bool} {x : SetExpr}
    (hitems : d.FollowsItems extended fuel)
    (h : readClass? extended (fuel + 1) cs = some (negated, x, s)) :
    ']' :: s <:+ cs ∧ (d.old <:+ s → ∀ n, cs.length < n + s.length →
      readClass? extended n (d.swap cs) = some (negated, x, d.swap s)) := by
  obtain ⟨⟨negated', items, rest⟩, hopen, h⟩ := Option.bind_eq_some_iff.1 h
  obtain ⟨⟨x', s'⟩, hread, h⟩ := Option.bind_eq_some_iff.1 h
  cases h
  obtain ⟨hrest, hopen'⟩ := follows_readSetOpen? (d := d) hopen
  have hs := (hitems hread).1
  refine ⟨hs.trans hrest, fun hold n hn ↦ ?_⟩
  have hle := hrest.length_le
  have hle' := hs.length_le
  rw [List.length_cons] at hle'
  obtain ⟨n, rfl⟩ : ∃ m, n = m + 1 := ⟨n - 1, by omega⟩
  simp only [Pattern.readClass?, hopen' ⟨s, hs, hold⟩,
    (hitems hread).2 hold n (by omega), Option.bind_eq_bind,
    Option.bind_some]

/-- What holds of the items of a class holds of those behind an item that has been read. -/
theorem FollowsItems.step {fuel : Nat} {pending pending' : Option (SetOp × SetExpr)}
    {items items' : List SetExpr} {x : SetExpr} {rest : List Char}
    (hitems : d.FollowsItems extended fuel)
    (h : readItems? extended fuel pending' items' rest = some (x, s)) (hrest : rest <:+ cs)
    (hlt : rest.length < cs.length)
    (hstep : d.InClass rest → ∀ n, cs.length ≤ n + rest.length →
      readItems? extended (n + 1) pending items (d.swap cs) =
        readItems? extended n pending' items' (d.swap rest)) :
    ']' :: s <:+ cs ∧ (d.old <:+ s → ∀ n, cs.length ≤ n + s.length →
      readItems? extended n pending items (d.swap cs) = some (x, d.swap s)) := by
  obtain ⟨hs, hswap⟩ := hitems h
  refine ⟨hs.trans hrest, fun hold n hn ↦ ?_⟩
  have hle := hs.length_le
  rw [List.length_cons] at hle
  obtain ⟨n, rfl⟩ : ∃ m, n = m + 1 := ⟨n - 1, by omega⟩
  rw [hstep ⟨s, hs, hold⟩ n (by omega)]
  exact hswap hold n (by omega)

theorem followsItems (fuel : Nat) : d.FollowsItems extended fuel := by
  induction fuel using Nat.strongRecOn with
  | _ fuel ih =>
    intro pending items x cs s h
    cases fuel with
    | zero =>
      rw [readItems?] at h
      cases h
    | succ fuel =>
      have ih' := ih fuel (Nat.lt_succ_self fuel)
      have hskip := skip_suffix extended cs
      rw [readItems?] at h
      dsimp only at h
      split at h
      · rename_i op rest hop
        obtain ⟨⟨c, c', hcs⟩, hop'⟩ := follows_splitSetOp? (d := d) hop
        rw [hcs] at hskip
        have hle := hskip.length_le
        simp only [List.length_cons] at hle
        refine ih'.step h ((suffix_cons_cons c c' rest).trans hskip) (by omega) fun hin n _ ↦ ?_
        have hold := hin.old_suffix
        rw [readItems?]
        dsimp only
        rw [swap_skip (hcs ▸ hold.trans (suffix_cons_cons c c' rest)), hop' hold]
      · rename_i hop
        split at h
        · cases h
        · rename_i rest hcs
          cases h
          have hs : ']' :: s <:+ cs := hcs ▸ hskip
          refine ⟨hs, fun hold n hn ↦ ?_⟩
          have hle := hs.length_le
          rw [List.length_cons] at hle
          obtain ⟨n, rfl⟩ : ∃ m, n = m + 1 := ⟨n - 1, by omega⟩
          rw [readItems?, skip_swap_eq_cons hcs hold]
          rfl
        · rename_i rest hcs
          have hlt := length_lt_of_skip hcs
          split at h
          · rename_i k rest' hname
            obtain ⟨hrest, hname'⟩ := follows_readAsciiClass? (d := d) hname
            have hle := hrest.length_le
            refine ih'.step h (hrest.trans (suffix_of_skip hcs)) (by omega) fun hin n _ ↦ ?_
            have hold := hin.old_suffix
            rw [readItems?_open (skip_swap_eq_cons hcs (hold.trans hrest)), hname' hold]
          · rename_i hname
            obtain ⟨⟨negated, inner, rest'⟩, hclass, h⟩ := Option.bind_eq_some_iff.1 h
            dsimp only at h
            cases fuel with
            | zero =>
              rw [Pattern.readClass?] at hclass
              cases hclass
            | succ fuel =>
              obtain ⟨hclosed, hclass'⟩ := (ih fuel (by omega)).readClass? hclass
              have hrest := (List.suffix_cons _ _).trans hclosed
              have hle := hrest.length_le
              refine ih'.step h (hrest.trans (suffix_of_skip hcs)) (by omega) fun hin n hn ↦ ?_
              have hold := hin.old_suffix
              rw [readItems?_open (skip_swap_eq_cons hcs (hold.trans hrest)),
                readAsciiClass?_swap_eq_none ⟨rest', hclosed, hold⟩ hname]
              dsimp only
              rw [hclass' hold n (by omega), Option.bind_some]
        · rename_i hnil hclose hopen
          cases hcs : skip extended cs with
          | nil => exact absurd hcs hnil
          | cons c rest =>
            rw [hcs] at h hop
            obtain ⟨⟨item, rest'⟩, hrange, h⟩ := Option.bind_eq_some_iff.1 h
            dsimp only at h
            obtain ⟨hrest, hrange'⟩ := follows_readSetRange? (d := d) hrange
            have hlt := length_lt_of_skip hcs
            have hle := hrest.length_le
            refine ih'.step h (hrest.trans (suffix_of_skip hcs)) (by omega) fun hin n _ ↦ ?_
            have hold := hin.old_suffix.trans hrest
            have hop' := splitSetOp?_eq_none (hin.mono (hrest.trans (List.suffix_cons c _))) hop
            rw [swap_cons hold] at hop'
            rw [readItems?_range (skip_swap_eq_cons hcs hold) hop'
              (fun hc ↦ hclose rest (hc ▸ hcs)) (fun hc ↦ hopen rest (hc ▸ hcs)), hrange' hin,
              Option.bind_some]

theorem follows_readClass? {fuel : Nat} {negated : Bool} {x : SetExpr}
    (h : Pattern.readClass? extended fuel cs = some (negated, x, s)) :
    s <:+ cs ∧ (d.old <:+ s → ∀ n, cs.length < n + s.length →
      Pattern.readClass? extended n (d.swap cs) = some (negated, x, d.swap s)) := by
  cases fuel with
  | zero =>
    rw [Pattern.readClass?] at h
    cases h
  | succ fuel =>
    obtain ⟨hs, hswap⟩ := (followsItems (d := d) fuel).readClass? h
    exact ⟨(List.suffix_cons _ _).trans hs, hswap⟩

end Endings

end SurveyQuests.Pattern
