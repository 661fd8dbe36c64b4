import Mathlib.Data.List.DropRight
import SurveyQuests.Filter.Eval
import SurveyQuests.Proofs.Calendar.IsoText
import SurveyQuests.Proofs.Filter.Literals
import SurveyQuests.Proofs.Number.Overflow

/-!
# Numbers with a unit

The value of a tag may be a number with a unit after it, as in `50 mph`.  Such a value is not the
text of a number as a whole, since nothing but an exponent may follow the digits, and so the number
is taken from what stands at its front.  That gives the same number as the digits alone, with one
exception: a value that is a number as a whole has to be finite, and a number at the front of
another value does not.  Digits that are too large for a finite number count as no number by
themselves, and as infinite when a unit follows.

## What is here

* `DecimalText`, `DecimalText.read?_append` — digits, and what may follow them;
* `readNumeric?_text`, `readNumeric?_text_append` — the number without and with a unit;
* `leadingRun`, `isFinite_of_readNumeric?` — which values give a number that is not finite;
* `readNumeric?_unit_iff` — **a unit changes nothing, unless the digits are too large**.
-/

set_option autoImplicit false

namespace SurveyQuests

/-! ## White space behind a text -/

theorem dropWhile_isSpace_append {cs : List Char} (hne : cs ≠ [])
    (h : ∀ c ∈ cs, Character.isSpace c = false) (u : List Char) :
    (cs ++ u).dropWhile Character.isSpace = cs ++ u := by
  refine dropWhile_isSpace fun c hc ↦ h c (List.mem_of_mem_head? ?_)
  rwa [List.head?_append_of_ne_nil _ hne] at hc

/-- White space is taken off behind a text that has none. -/
theorem trim_append {cs : List Char} (hne : cs ≠ [])
    (h : ∀ c ∈ cs, Character.isSpace c = false) (u : List Char) :
    Character.trim (cs ++ u) = cs ++ u.rdropWhile Character.isSpace := by
  have hreverse : cs.reverse.dropWhile Character.isSpace = cs.reverse :=
    dropWhile_isSpace fun c hc ↦ h c (List.mem_reverse.1 (List.mem_of_mem_head? hc))
  rw [Character.trim, dropWhile_isSpace_append hne h, List.reverse_append, List.dropWhile_append,
    List.rdropWhile]
  split
  · rename_i hnil
    rw [hreverse, List.isEmpty_iff.1 hnil, List.reverse_reverse, List.reverse_nil, List.append_nil]
  · rw [List.reverse_append, List.reverse_reverse]

/-! ## Digits -/

/-- A number in digits: perhaps a minus, then digits, then perhaps a point and more digits. -/
structure DecimalText where
  negative : Bool := false
  whole : List Char
  part : List Char := []
  whole_ne_nil : whole ≠ []
  isDigit_whole : ∀ c ∈ whole, c.isDigit = true
  isDigit_part : ∀ c ∈ part, c.isDigit = true

namespace DecimalText

variable (d : DecimalText)

/-- The characters of the text, as in `-12.5`. -/
def chars : List Char := (if d.negative then ['-'] else []) ++ numeral d.whole d.part

/-- The text of the number. -/
def text : String := String.ofList d.chars

/-- The number that the text stands for. -/
def decimal : Decimal :=
  ⟨d.negative, Decimal.ofDigits (d.whole ++ d.part), -(d.part.length : Int)⟩

variable {d}

theorem chars_ne_nil : d.chars ≠ [] := by
  have hnumeral : numeral d.whole d.part ≠ [] := by
    rw [numeral]
    split <;> simp [d.whole_ne_nil]
  simp [chars, hnumeral]

theorem isNumeralChar_of_mem {c : Char} (h : c ∈ d.chars) : isNumeralChar c = true := by
  rcases List.mem_append.1 h with hsign | hnumeral
  · have hminus : c = '-' := by
      split at hsign <;> simp_all
    rw [hminus]
    decide
  · rcases isDigit_or_point_of_mem_numeral d.isDigit_whole d.isDigit_part c hnumeral with hc | rfl
    · simp [isNumeralChar, hc]
    · decide

theorem isSpace_of_isNumeralChar {c : Char} (h : isNumeralChar c = true) :
    Character.isSpace c = false := by
  simp only [isNumeralChar, Bool.or_eq_true, beq_iff_eq] at h
  rcases h with (hdigit | rfl) | rfl
  · exact isSpace_of_isDigit hdigit
  · decide
  · decide

theorem isSpace_of_mem {c : Char} (h : c ∈ d.chars) : Character.isSpace c = false :=
  isSpace_of_isNumeralChar (isNumeralChar_of_mem h)

/-- **What follows the digits is read for an exponent.** -/
theorem read?_append {rest : List Char} (hrest : ∀ c ∈ rest.head?, c.isDigit = false ∧ c ≠ '.') :
    Binary64.read? (d.chars ++ rest) = (Decimal.readExponent? rest).map fun e ↦
      .ofDecimal ⟨d.negative, d.decimal.digits, e - (d.part.length : Int)⟩ := by
  obtain ⟨c, whole, hwhole⟩ := List.exists_cons_of_ne_nil d.whole_ne_nil
  have hc : c.isDigit = true := d.isDigit_whole c (hwhole ▸ List.mem_cons_self)
  have hsplit : Decimal.splitSign (d.chars ++ rest) =
      (d.negative, numeral d.whole d.part ++ rest) := by
    rw [chars, hwhole, numeral_cons]
    cases d.negative with
    | false => exact Binary64.splitSign_of_isDigit hc
    | true => rfl
  have hword : Binary64.readWord? d.negative (numeral d.whole d.part ++ rest) = none := by
    rw [hwhole, numeral_cons, List.cons_append, Binary64.readWord?_of_isDigit hc]
  rw [Binary64.read?, hsplit]
  dsimp only
  rw [hword, Binary64.readUnsigned?_numeral_append d.whole_ne_nil d.isDigit_whole d.isDigit_part
    hrest, Option.map_map]
  rfl

theorem read?_chars : Binary64.read? d.chars = some (.ofDecimal d.decimal) := by
  have hrest : ∀ c ∈ ([] : List Char).head?, c.isDigit = false ∧ c ≠ '.' := by simp
  rw [← List.append_nil d.chars, read?_append hrest, Decimal.readExponent?, Option.map_some,
    Int.zero_sub]
  rfl

/-- Digits with white space and more behind them are not the text of a number. -/
theorem read?_append_of_isSpace {c : Char} (h : Character.isSpace c = true) (rest : List Char) :
    Binary64.read? (d.chars ++ c :: rest) = none := by
  have hne : ∀ {d : Char}, Character.isSpace d = false → c ≠ d := by
    rintro d hd rfl
    rw [h] at hd
    cases hd
  have hdigit : c.isDigit = false := by
    by_contra hdigit
    exact hne (isSpace_of_isDigit (Bool.not_eq_false _ ▸ hdigit)) rfl
  have hletter : ¬ (c = 'e' ∨ c = 'E') := not_or.2 ⟨hne (by decide), hne (by decide)⟩
  have hexponent : Decimal.readExponent? (c :: rest) = none := if_neg hletter
  have hhead : ∀ a ∈ (c :: rest).head?, a.isDigit = false ∧ a ≠ '.' := by
    intro a ha
    obtain rfl := Option.some.inj ha
    exact ⟨hdigit, hne (by decide)⟩
  rw [read?_append hhead, hexponent, Option.map_none]

end DecimalText

/-! ## The number of a value -/

/-- What is at the front of a value, as far as it may belong to a number. -/
def leadingRun (s : String) : List Char :=
  (s.toList.dropWhile Character.isSpace).takeWhile isNumeralChar

/-- A value that is a number as a whole has to be finite. -/
theorem readNumeric?_of_whole {s : String} {x : Binary64}
    (h : Binary64.read? (Character.trim s.toList) = some x) :
    readNumeric? s = if x.isFinite then some x else none := by
  rw [readNumeric?, h]

/-- Another value has the number at its front. -/
theorem readNumeric?_of_not_whole {s : String}
    (h : Binary64.read? (Character.trim s.toList) = none) :
    readNumeric? s = Binary64.read? (leadingRun s) := by
  rw [readNumeric?, h, leadingRun]

namespace DecimalText

variable {d : DecimalText} {u : String}

theorem leadingRun_append (hu : u.toList.head?.any Character.isSpace = true) :
    leadingRun (d.text ++ u) = d.chars := by
  obtain ⟨c, rest, hrest⟩ : ∃ c rest, u.toList = c :: rest := by
    cases h : u.toList with
    | nil => simp [h] at hu
    | cons c rest => exact ⟨c, rest, rfl⟩
  have hspace : Character.isSpace c = true := by simpa [hrest] using hu
  have hstop : ¬ isNumeralChar c = true := by
    intro hc
    rw [isSpace_of_isNumeralChar hc] at hspace
    cases hspace
  rw [leadingRun, String.toList_append, text, String.toList_ofList,
    dropWhile_isSpace_append d.chars_ne_nil fun b hb ↦ isSpace_of_mem hb,
    List.takeWhile_append_of_pos fun b hb ↦ isNumeralChar_of_mem hb, hrest,
    List.takeWhile_cons_of_neg hstop, List.append_nil]

/-- A value that is digits as a whole has no number if they are too large. -/
theorem readNumeric?_of_trim {s : String} (h : Character.trim s.toList = d.chars) :
    readNumeric? s = if d.decimal.Overflows then none else some (.ofDecimal d.decimal) := by
  rw [readNumeric?_of_whole (h ▸ read?_chars)]
  by_cases hlarge : d.decimal.Overflows
  · rw [if_pos hlarge, if_neg (mt Binary64.isFinite_ofDecimal.1 (not_not_intro hlarge))]
  · rw [if_neg hlarge, if_pos (Binary64.isFinite_ofDecimal.2 hlarge)]

/-- **The number of digits alone.** -/
theorem readNumeric?_text :
    readNumeric? d.text = if d.decimal.Overflows then none else some (.ofDecimal d.decimal) := by
  refine readNumeric?_of_trim ?_
  rw [text, String.toList_ofList, trim_of_forall fun c hc ↦ isSpace_of_mem hc]

/-- **The number of digits with a unit**: the one that they stand for, though it may be infinite. -/
theorem readNumeric?_text_append (hu : u.toList.head?.any Character.isSpace = true) :
    readNumeric? (d.text ++ u) =
      if d.decimal.Overflows ∧ u.toList.all Character.isSpace = true then none
      else some (.ofDecimal d.decimal) := by
  have htrim : Character.trim (d.text ++ u).toList =
      d.chars ++ u.toList.rdropWhile Character.isSpace := by
    rw [String.toList_append, text, String.toList_ofList,
      trim_append d.chars_ne_nil fun c hc ↦ isSpace_of_mem hc]
  by_cases hblank : u.toList.all Character.isSpace = true
  · -- Nothing is left of the unit, so the value reads as the digits alone do.
    have hnil : u.toList.rdropWhile Character.isSpace = [] :=
      List.rdropWhile_eq_nil_iff.2 (List.all_eq_true.1 hblank)
    rw [hnil, List.append_nil] at htrim
    rw [readNumeric?_of_trim htrim]
    simp [hblank]
  · obtain ⟨c, rest, hrest⟩ : ∃ c rest, u.toList.rdropWhile Character.isSpace = c :: rest :=
      List.exists_cons_of_ne_nil fun hnil ↦
        hblank (List.all_eq_true.2 (List.rdropWhile_eq_nil_iff.1 hnil))
    have hspace : Character.isSpace c = true := by
      obtain ⟨back, hback⟩ := List.rdropWhile_prefix Character.isSpace u.toList
      rw [hrest] at hback
      simpa [← hback] using hu
    have hwhole : Binary64.read? (Character.trim (d.text ++ u).toList) = none := by
      rw [htrim, hrest, read?_append_of_isSpace hspace]
    rw [readNumeric?_of_not_whole hwhole, leadingRun_append hu, read?_chars,
      if_neg fun h ↦ hblank h.2]

end DecimalText

/-! ## Values with a number that is not finite -/

/-- Digits, points and minus signs are no word. -/
theorem read?_of_isNumeralChar {cs : List Char} (h : ∀ c ∈ cs, isNumeralChar c = true) :
    Binary64.read? cs = (Decimal.read? cs).map .ofDecimal := by
  have hsubset : ∀ c ∈ (Decimal.splitSign cs).2, c ∈ cs := by
    intro c hc
    unfold Decimal.splitSign at hc
    split at hc
    · exact List.mem_cons_of_mem _ hc
    · exact List.mem_cons_of_mem _ hc
    · exact hc
  have hword : Binary64.readWord? (Decimal.splitSign cs).1 (Decimal.splitSign cs).2 = none := by
    refine Binary64.readWord?_of_head? fun c hc ↦ ?_
    have hnumeral := h c (hsubset c (List.mem_of_mem_head? hc))
    simp only [isNumeralChar, Bool.or_eq_true, beq_iff_eq] at hnumeral
    rcases hnumeral with (hdigit | rfl) | rfl
    · exact Binary64.isAlpha_of_isDigit hdigit
    · decide
    · decide
  rw [Binary64.read?, Decimal.read?]
  dsimp only
  rw [hword]

/-- **A value gives a number that is not finite exactly if it is not a number as a whole and the
number at its front is too large.** -/
theorem isFinite_of_readNumeric? {s : String} {x : Binary64} (h : readNumeric? s = some x) :
    x.isFinite = false ↔ Binary64.read? (Character.trim s.toList) = none ∧
      ∃ d, Decimal.read? (leadingRun s) = some d ∧ d.Overflows := by
  cases hwhole : Binary64.read? (Character.trim s.toList) with
  | some y =>
    rw [readNumeric?_of_whole hwhole] at h
    obtain ⟨hfinite, hy⟩ := Option.ite_none_right_eq_some.1 h
    obtain rfl := Option.some.inj hy
    simp [hfinite]
  | none =>
    have hrun : ∀ c ∈ leadingRun s, isNumeralChar c = true :=
      fun c hc ↦ List.mem_takeWhile_imp hc
    rw [readNumeric?_of_not_whole hwhole, read?_of_isNumeralChar hrun] at h
    obtain ⟨d, hd, rfl⟩ := Option.map_eq_some_iff.1 h
    have hfinite := Binary64.isFinite_ofDecimal (d := d)
    simp [hd, ← Bool.not_eq_true, hfinite]

/-! ## Numeric conditions -/

theorem Condition.holds_numeric {key s : String} {op : Comparison} {value : Binary64} {e : Element}
    {ctx : EvalContext} (h : e.tags.get? key = some s) :
    (numeric key op value).holds e ctx = (readNumeric? s).any fun x ↦ op.test x value := by
  rw [holds, h, Option.bind_some]
  cases readNumeric? s <;> rfl

/-- An infinite number differs from zero. -/
theorem Comparison.test_ne_infinite (negative : Bool) :
    Comparison.ne.test ⟨negative, .infinite⟩ .zero = true := by
  cases negative <;> decide +kernel

namespace DecimalText

variable {d : DecimalText} {u : String}

/-- A unit behind digits that are too large makes a difference to some condition. -/
theorem exists_holds_ne (hu : u.toList.head?.any Character.isSpace = true)
    (hlarge : d.decimal.Overflows) (hunit : ¬ u.toList.all Character.isSpace = true) :
    ∃ (key : String) (op : Comparison) (value : Binary64) (e e' : Element) (ctx : EvalContext),
      e.tags.get? key = some d.text ∧ e'.tags.get? key = some (d.text ++ u) ∧
        (Condition.numeric key op value).holds e' ctx ≠
          (Condition.numeric key op value).holds e ctx := by
  have hget (value : String) : (Tags.empty.insert "width" value).get? "width" = some value := by
    rw [Tags.get?_insert, if_pos rfl]
  refine ⟨"width", .ne, .zero, { kind := .way, tags := Tags.empty.insert "width" d.text },
    { kind := .way, tags := Tags.empty.insert "width" (d.text ++ u) }, ⟨.latest, default⟩,
    hget _, hget _, ?_⟩
  rw [Condition.holds_numeric (hget _), Condition.holds_numeric (hget _), readNumeric?_text,
    readNumeric?_text_append hu, if_pos hlarge, if_neg fun h ↦ hunit h.2,
    Binary64.ofDecimal_eq_infinite hlarge, Option.any_some, Option.any_none,
    Comparison.test_ne_infinite]
  exact Bool.noConfusion

theorem readNumeric?_append_eq_iff (hu : u.toList.head?.any Character.isSpace = true) :
    readNumeric? (d.text ++ u) = readNumeric? d.text ↔
      (d.decimal.Overflows → u.toList.all Character.isSpace = true) := by
  rw [readNumeric?_text_append hu, readNumeric?_text]
  by_cases hlarge : d.decimal.Overflows
  · by_cases hblank : u.toList.all Character.isSpace = true
    · simp [hlarge, hblank]
    · rw [if_pos hlarge, if_neg fun h ↦ hblank h.2]
      exact iff_of_false (Option.some_ne_none _) fun h ↦ hblank (h hlarge)
  · simp [hlarge]

end DecimalText

/-- **A unit changes nothing, unless the digits are too large.**  Digits with a unit give the number
of the digits alone, and numeric conditions hold alike for both, if and only if the digits are not
too large for a finite number or there is only white space behind them.  And a value gives a number
that is not finite if and only if it is not a number as a whole and the number at its front is too
large. -/
theorem readNumeric?_unit_iff (d : DecimalText) (u : String)
    (hu : u.toList.head?.any Character.isSpace = true) :
    (readNumeric? (d.text ++ u) = readNumeric? d.text ↔
        (d.decimal.Overflows → u.toList.all Character.isSpace = true)) ∧
      ((∀ (key : String) (op : Comparison) (value : Binary64) (e e' : Element) (ctx : EvalContext),
        e.tags.get? key = some d.text → e'.tags.get? key = some (d.text ++ u) →
          (Condition.numeric key op value).holds e' ctx =
            (Condition.numeric key op value).holds e ctx) ↔
        (d.decimal.Overflows → u.toList.all Character.isSpace = true)) ∧
      ∀ (s : String) (x : Binary64), readNumeric? s = some x →
        (x.isFinite = false ↔ Binary64.read? (Character.trim s.toList) = none ∧
          ∃ d, Decimal.read? (leadingRun s) = some d ∧ d.Overflows) := by
  refine ⟨DecimalText.readNumeric?_append_eq_iff hu, ?_, fun s x ↦ isFinite_of_readNumeric?⟩
  constructor
  · intro hsame hlarge
    by_contra hunit
    obtain ⟨key, op, value, e, e', ctx, he, he', hne⟩ := DecimalText.exists_holds_ne hu hlarge hunit
    exact hne (hsame key op value e e' ctx he he')
  · intro hblank key op value e e' ctx he he'
    rw [Condition.holds_numeric he, Condition.holds_numeric he',
      (DecimalText.readNumeric?_append_eq_iff hu).2 hblank]

/-- A speed of 50 with a unit. -/
theorem readNumeric?_unit_iff_mph :
    let value := Binary64.ofRatio false 50 1
    readNumeric? "50 mph" = readNumeric? "50" ∧
      (∀ (e e' : Element) (ctx : EvalContext), e.tags.get? "maxspeed" = some "50" →
        e'.tags.get? "maxspeed" = some "50 mph" →
        (Condition.numeric "maxspeed" .ge value).holds e' ctx =
          (Condition.numeric "maxspeed" .ge value).holds e ctx) ∧
      ∀ x, readNumeric? "50 mph" = some x → x.isFinite = true := by
  intro value
  let d : DecimalText :=
    { whole := ['5', '0']
      whole_ne_nil := by decide
      isDigit_whole := by simp
      isDigit_part := by simp }
  have hsmall : ¬ d.decimal.Overflows := by decide +kernel
  have htext : d.text = "50" := by decide
  have hunit : d.text ++ " mph" = "50 mph" := by decide
  obtain ⟨hsame, hholds, hfinite⟩ := readNumeric?_unit_iff d " mph" (by decide)
  rw [hunit, htext] at hsame hholds
  refine ⟨hsame.2 fun h ↦ absurd h hsmall, ?_, fun x hx ↦ ?_⟩
  · exact hholds.2 (fun h ↦ absurd h hsmall) "maxspeed" .ge value
  · by_contra hx'
    obtain ⟨-, d', hd', hlarge⟩ := (hfinite "50 mph" x hx).1 (Bool.not_eq_true _ ▸ hx')
    have hd : Decimal.read? (leadingRun "50 mph") = some d.decimal := by decide
    rw [hd] at hd'
    exact hsmall (Option.some.inj hd' ▸ hlarge)

/-- A one with 309 zeros is no number by itself, and infinite in metres. -/
theorem readNumeric?_unit_overflow :
    let digits := String.ofList ('1' :: List.replicate 309 '0')
    readNumeric? digits = none ∧ readNumeric? (digits ++ " m") = some ⟨false, .infinite⟩ := by
  intro digits
  let d : DecimalText :=
    { whole := '1' :: List.replicate 309 '0'
      whole_ne_nil := List.cons_ne_nil _ _
      isDigit_whole := List.forall_mem_cons.2 ⟨by decide, Decimal.isDigit_zeros⟩
      isDigit_part := by simp }
  have hlarge : d.decimal.Overflows := by decide +kernel
  have htext : d.text = digits := by
    show String.ofList ([] ++ numeral ('1' :: List.replicate 309 '0') []) = digits
    rw [numeral_nil, List.nil_append]
  rw [← htext, DecimalText.readNumeric?_text, if_pos hlarge,
    DecimalText.readNumeric?_text_append (by decide), if_neg fun h ↦ absurd h.2 (by decide),
    Binary64.ofDecimal_eq_infinite hlarge]
  exact ⟨rfl, rfl⟩

end SurveyQuests
