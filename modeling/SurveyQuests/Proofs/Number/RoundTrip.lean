import SurveyQuests.Number.Shortest
import SurveyQuests.Proofs.Number.Rounding
import SurveyQuests.Unicode.Character

/-!
# Numbers are read back as they are written

`Binary64.plainText` writes a finite number as a numeral: digits, or digits with a point among them.
Reading the numeral gives the number again.  The digits that are written are chosen among those that
read back, so there is nothing to be shown of the choice itself; but the zeros at the end are taken
off afterwards, and where no choice is left all digits are written, and these have to be shown to
read back as well.

## What is here

* `IsNumeral` — digits, and perhaps a point and more digits;
* `read?_numeral` — the number of a numeral;
* `DecimalMagnitude.number_trimmed`, `number_shortest` — the digits that are written;
* `isNumeral_plainText`, `read?_plainText` — **the round trip**.
-/

set_option autoImplicit false

namespace SurveyQuests

/-! ## Digits -/

namespace Decimal

theorem ofDigits_eq (cs : List Char) : ofDigits cs = Nat.ofDigitChars 10 cs 0 := rfl

theorem ofDigits_toDigits (n : Nat) : ofDigits (Nat.toDigits 10 n) = n :=
  Nat.ofDigitChars_ten_toDigits

/-- Zeros at the end of the digits. -/
theorem ofDigits_append_zeros (n k : Nat) :
    ofDigits (Nat.toDigits 10 n ++ List.replicate k '0') = n * 10 ^ k := by
  rw [ofDigits_eq, Nat.ofDigitChars_append, Nat.ofDigitChars_ten_toDigits,
    Nat.ofDigitChars_replicate_zero, Nat.mul_comm]

/-- Zeros in front of the digits. -/
theorem ofDigits_zeros_append (n k : Nat) :
    ofDigits (List.replicate k '0' ++ Nat.toDigits 10 n) = n := by
  rw [ofDigits_eq, Nat.ofDigitChars_append, Nat.ofDigitChars_replicate_zero, Nat.mul_zero,
    Nat.ofDigitChars_ten_toDigits]

theorem isDigit_toDigits {n : Nat} : ∀ c ∈ Nat.toDigits 10 n, c.isDigit = true :=
  fun _ hc ↦ Nat.isDigit_of_mem_toDigits (by omega) (by omega) hc

theorem isDigit_zeros {k : Nat} : ∀ c ∈ List.replicate k '0', c.isDigit = true := by
  intro c hc
  rw [List.eq_of_mem_replicate hc]
  decide

end Decimal

/-! ## Numerals -/

/-- The text of a numeral: its digits before the point, and the point and the digits after it unless
there are none. -/
def numeral (whole part : List Char) : List Char :=
  if part.isEmpty then whole else whole ++ '.' :: part

/-- Is the text digits, or digits with a point among them? -/
def IsNumeral (cs : List Char) : Prop :=
  ∃ whole part : List Char, whole ≠ [] ∧ (∀ c ∈ whole, c.isDigit = true) ∧
    (∀ c ∈ part, c.isDigit = true) ∧ cs = numeral whole part

theorem numeral_nil (whole : List Char) : numeral whole [] = whole := rfl

theorem numeral_of_ne_nil (whole : List Char) {part : List Char} (h : part ≠ []) :
    numeral whole part = whole ++ '.' :: part := by
  rw [numeral, if_neg (by simpa using h)]

theorem numeral_cons (c : Char) (whole part : List Char) :
    numeral (c :: whole) part = c :: numeral whole part := by
  rw [numeral, numeral]
  split <;> rfl

theorem isDigit_point : Char.isDigit '.' = false := by decide

/-- The digits at the front of a text are taken off. -/
theorem splitDigits_append {ds rest : List Char} (h : ∀ c ∈ ds, c.isDigit = true)
    (hrest : ∀ c ∈ rest.head?, c.isDigit = false) :
    Decimal.splitDigits (ds ++ rest) = (ds, rest) := by
  rw [Decimal.splitDigits, List.takeWhile_append_of_pos h, List.dropWhile_append_of_pos h]
  cases rest with
  | nil => rw [List.takeWhile_nil, List.append_nil, List.dropWhile_nil]
  | cons c rest =>
    have hc : ¬ c.isDigit = true := by rw [hrest c rfl]; exact Bool.false_ne_true
    rw [List.takeWhile_cons_of_neg hc, List.append_nil, List.dropWhile_cons_of_neg hc]

namespace Binary64

/-- A numeral in front of a text is read, and the text is read for its exponent. -/
theorem readUnsigned?_numeral_append {negative : Bool} {whole part rest : List Char}
    (hne : whole ≠ []) (hwhole : ∀ c ∈ whole, c.isDigit = true)
    (hpart : ∀ c ∈ part, c.isDigit = true)
    (hrest : ∀ c ∈ rest.head?, c.isDigit = false ∧ c ≠ '.') :
    Decimal.readUnsigned? negative (numeral whole part ++ rest) =
      (Decimal.readExponent? rest).map fun e ↦
        ⟨negative, Decimal.ofDigits (whole ++ part), e - (part.length : Int)⟩ := by
  have hempty : whole.isEmpty = false := by simpa using hne
  have hdigit : ∀ c ∈ rest.head?, c.isDigit = false := fun c hc ↦ (hrest c hc).1
  by_cases h : part = []
  · subst h
    rw [numeral_nil, Decimal.readUnsigned?, splitDigits_append hwhole hdigit]
    rcases rest with _ | ⟨c, rest⟩
    · simp [hempty]
    · have hpoint : c ≠ '.' := (hrest c rfl).2
      simp [hempty, hpoint]
  · rw [numeral_of_ne_nil whole h, Decimal.readUnsigned?, List.append_assoc, List.cons_append,
      splitDigits_append hwhole (by simp [isDigit_point])]
    simp [hempty, splitDigits_append hpart hdigit]

theorem readUnsigned?_numeral {whole part : List Char} (hne : whole ≠ [])
    (hwhole : ∀ c ∈ whole, c.isDigit = true) (hpart : ∀ c ∈ part, c.isDigit = true) :
    Decimal.readUnsigned? false (numeral whole part) =
      some ⟨false, Decimal.ofDigits (whole ++ part), -(part.length : Int)⟩ := by
  have hrest : ∀ c ∈ ([] : List Char).head?, c.isDigit = false ∧ c ≠ '.' := by simp
  rw [← List.append_nil (numeral whole part), readUnsigned?_numeral_append hne hwhole hpart hrest,
    Decimal.readExponent?, Option.map_some, Int.zero_sub]

theorem splitSign_of_isDigit {c : Char} {cs : List Char} (h : c.isDigit = true) :
    Decimal.splitSign (c :: cs) = (false, c :: cs) := by
  unfold Decimal.splitSign
  split
  · rename_i heq
    cases heq
    cases h
  · rename_i heq
    cases heq
    cases h
  · rfl

/-- Only letters are letters in lower case. -/
theorem isAlpha_of_isAlpha_toLower {c : Char} (h : c.toLower.isAlpha = true) :
    c.isAlpha = true := by
  by_cases hupper : c.isUpper = true
  · exact Bool.or_eq_true_iff.2 (.inl hupper)
  · have hlower : c.toLower = c := dif_neg fun hrange ↦ hupper (decide_eq_true hrange)
    exact hlower ▸ h

/-- Words begin with letters. -/
theorem readWord?_of_head? {negative : Bool} {cs : List Char}
    (h : ∀ c ∈ cs.head?, c.isAlpha = false) : readWord? negative cs = none := by
  have hword : ∀ w : String, w.toList.head?.any Char.isAlpha = true →
      String.ofList (cs.map Char.toLower) ≠ w := by
    rintro w hw rfl
    rw [String.toList_ofList] at hw
    rcases cs with _ | ⟨c, cs⟩
    · exact Bool.false_ne_true hw
    · have halpha := isAlpha_of_isAlpha_toLower hw
      rw [h c rfl] at halpha
      cases halpha
  rw [readWord?]
  rw [if_neg, if_neg]
  · exact hword "nan" rfl
  · rintro (heq | heq)
    · exact hword "inf" rfl heq
    · exact hword "infinity" rfl heq

theorem isAlpha_of_isDigit {c : Char} (h : c.isDigit = true) : c.isAlpha = false := by
  have hdigit := Character.toNat_of_isDigit h
  rw [Bool.eq_false_iff]
  intro halpha
  have hletter := Character.toNat_of_isAlpha halpha
  omega

theorem readWord?_of_isDigit {negative : Bool} {c : Char} {cs : List Char} (h : c.isDigit = true) :
    readWord? negative (c :: cs) = none :=
  readWord?_of_head? fun _ hd ↦ isAlpha_of_isDigit (Option.some.inj hd ▸ h)

/-- **The number of a numeral.** -/
theorem read?_numeral {whole part : List Char} (hne : whole ≠ [])
    (hwhole : ∀ c ∈ whole, c.isDigit = true) (hpart : ∀ c ∈ part, c.isDigit = true) :
    read? (numeral whole part) =
      some (ofDecimal ⟨false, Decimal.ofDigits (whole ++ part), -(part.length : Int)⟩) := by
  have hdecimal := readUnsigned?_numeral hne hwhole hpart
  obtain ⟨c, whole, rfl⟩ := List.exists_cons_of_ne_nil hne
  have hc : c.isDigit = true := hwhole c List.mem_cons_self
  rw [numeral_cons] at hdecimal ⊢
  rw [read?, splitSign_of_isDigit hc]
  dsimp only
  rw [readWord?_of_isDigit hc, hdecimal]
  rfl

theorem negative_ofDecimal (d : Decimal) : (ofDecimal d).negative = d.negative := by
  rw [ofDecimal_eq]
  rfl

/-- A numeral has no sign. -/
theorem negative_of_read?_numeral {cs : List Char} (h : IsNumeral cs) {x : Binary64}
    (hx : read? cs = some x) : x.negative = false := by
  obtain ⟨whole, part, hne, hwhole, hpart, rfl⟩ := h
  rw [read?_numeral hne hwhole hpart] at hx
  cases hx
  exact negative_ofDecimal _

/-! ## The digits that are written -/

/-- The binary number of a decimal magnitude. -/
def DecimalMagnitude.number (d : DecimalMagnitude) : Binary64 :=
  ofDecimal ⟨false, d.digits, d.exponent⟩

theorem ofRatio_mul_left {negative : Bool} {k : Nat} (hk : 0 < k) (num den : Nat) :
    ofRatio negative (k * num) (k * den) = ofRatio negative num den := by
  rw [ofRatio, ofRatio, ofUnits, ofUnits, Nat.mul_assoc, nearestRank_mul_left hk]

theorem number_ten_mul (m : Nat) (e : Int) :
    DecimalMagnitude.number ⟨10 * m, e⟩ = DecimalMagnitude.number ⟨m, e + 1⟩ := by
  rw [DecimalMagnitude.number, DecimalMagnitude.number]
  rw [ofDecimal_eq, ofDecimal_eq]
  dsimp only
  by_cases he : 0 ≤ e
  · have hpos : (e + 1).toNat = e.toNat + 1 := by omega
    have hneg : (-(e + 1)).toNat = (-e).toNat := by omega
    rw [hpos, hneg, Nat.pow_succ, Nat.mul_comm (10 ^ e.toNat), ← Nat.mul_assoc,
      Nat.mul_comm 10 m]
  · have hpos : (e + 1).toNat = e.toNat := by omega
    have hneg : (-e).toNat = (-(e + 1)).toNat + 1 := by omega
    rw [hpos, hneg, Nat.pow_succ, Nat.mul_comm _ 10, Nat.mul_assoc,
      ofRatio_mul_left (by omega)]

/-- Zeros at the end of the digits do not count. -/
theorem DecimalMagnitude.number_trimmed (d : DecimalMagnitude) : d.trimmed.number = d.number := by
  fun_induction DecimalMagnitude.trimmed d with
  | case1 d h ih =>
    have hten : 10 * (d.digits / 10) = d.digits := by omega
    rw [ih, ← number_ten_mul, hten]
  | case2 => rfl

theorem number_of_readsBack {rank : Nat} {d : DecimalMagnitude} (h : readsBack rank d = true) :
    d.number = ⟨false, .ofRank rank⟩ :=
  beq_iff_eq.1 h

theorem number_bestOnGrid? {rank : Nat} {e : Int} {d : DecimalMagnitude}
    (h : bestOnGrid? rank e = some d) : d.number = ⟨false, .ofRank rank⟩ := by
  rw [bestOnGrid?] at h
  dsimp only at h
  split at h
  · rename_i hlow hhigh
    split at h
    · cases h
      exact number_of_readsBack hlow
    · cases h
      exact number_of_readsBack hhigh
  · rename_i hlow _
    cases h
    exact number_of_readsBack hlow
  · rename_i _ hhigh
    cases h
    exact number_of_readsBack hhigh
  · cases h

theorem number_allDigits (rank : Nat) : (allDigits rank).number = ⟨false, .ofRank rank⟩ := by
  have hpow (k : Nat) : ofUnits false (units rank * 5 ^ k * 2 ^ k) (10 ^ k)
      = ofUnits false (units rank) 1 := by
    have hten : units rank * 5 ^ k * 2 ^ k = 10 ^ k * units rank := by
      rw [Nat.mul_assoc, ← Nat.mul_pow, Nat.mul_comm]
    rw [ofUnits, ofUnits, hten]
    have := nearestRank_mul_left (Nat.pow_pos (n := k) (show 0 < 10 by omega)) (units rank) 1
    rw [Nat.mul_one] at this
    rw [this]
  have hzero : (-1074 : Int).toNat = 0 := by decide
  have hplaces : (-(-1074) : Int).toNat = unitExponent := by decide
  rw [DecimalMagnitude.number, allDigits, ← unitExponent_eq]
  simp only [Nat.pow_eq]
  rw [ofDecimal_eq, ofRatio]
  dsimp only
  rw [hzero, hplaces, Nat.pow_zero, Nat.mul_one, unitsPerOne_eq, hpow, ofUnits, nearestRank_units]

/-- **The digits that are written read back.** -/
theorem number_shortest (rank : Nat) : (shortest rank).number = ⟨false, .ofRank rank⟩ := by
  unfold shortest
  dsimp only
  rw [DecimalMagnitude.number_trimmed]
  cases h : (List.range 17).findSome? fun (n : Nat) ↦
      bestOnGrid? rank (decimalPlace rank - (n + 1 : Nat)) with
  | none => exact number_allDigits rank
  | some d =>
    obtain ⟨n, -, hn⟩ := List.exists_of_findSome?_eq_some h
    exact number_bestOnGrid? hn

/-! ## The text of a number -/

/-- The text of a decimal magnitude is a numeral with its number. -/
theorem plainDigits_eq (d : DecimalMagnitude) :
    ∃ whole part : List Char, whole ≠ [] ∧ (∀ c ∈ whole, c.isDigit = true) ∧
      (∀ c ∈ part, c.isDigit = true) ∧ plainDigits d = numeral whole part ∧
      ofDecimal ⟨false, Decimal.ofDigits (whole ++ part), -(part.length : Int)⟩ = d.number := by
  have hdigits := Decimal.isDigit_toDigits (n := d.digits)
  have hne : Nat.toDigits 10 d.digits ≠ [] := Nat.toDigits_ne_nil
  have hlength := List.length_pos_iff.2 hne
  rw [plainDigits]
  dsimp only
  split
  -- A whole number: zeros at the end stand for the exponent.
  · rename_i he
    refine ⟨Nat.toDigits 10 d.digits ++ List.replicate d.exponent.toNat '0', [],
      List.append_ne_nil_of_left_ne_nil hne _, ?_, by simp, (numeral_nil _).symm, ?_⟩
    · intro c hc
      exact (List.mem_append.1 hc).elim (hdigits c) (Decimal.isDigit_zeros c)
    · have hneg : (-d.exponent).toNat = 0 := by omega
      rw [List.append_nil, Decimal.ofDigits_append_zeros, DecimalMagnitude.number, ofDecimal_eq,
        ofDecimal_eq, hneg]
      simp
  · rename_i he
    have hplaces : -(((-d.exponent).toNat : Nat) : Int) = d.exponent := by omega
    split
    -- The point stands among the digits.
    · rename_i hlt
      refine ⟨(Nat.toDigits 10 d.digits).take ((Nat.toDigits 10 d.digits).length -
          (-d.exponent).toNat), (Nat.toDigits 10 d.digits).drop ((Nat.toDigits 10 d.digits).length -
          (-d.exponent).toNat), ?_, ?_, ?_, ?_, ?_⟩
      · rw [← List.length_pos_iff, List.length_take]
        omega
      · exact fun c hc ↦ hdigits c (List.mem_of_mem_take hc)
      · exact fun c hc ↦ hdigits c (List.mem_of_mem_drop hc)
      · rw [numeral_of_ne_nil]
        rw [← List.length_pos_iff, List.length_drop]
        omega
      · have hpart : (Nat.toDigits 10 d.digits).length - ((Nat.toDigits 10 d.digits).length -
            (-d.exponent).toNat) = (-d.exponent).toNat := by omega
        rw [List.take_append_drop, Decimal.ofDigits_toDigits, List.length_drop, hpart, hplaces]
        rfl
    -- All digits stand after the point, with zeros in front.
    · rename_i hle
      refine ⟨['0'], List.replicate ((-d.exponent).toNat - (Nat.toDigits 10 d.digits).length) '0' ++
        Nat.toDigits 10 d.digits, List.cons_ne_nil _ _, List.forall_mem_singleton.2 rfl, ?_, ?_, ?_⟩
      · intro c hc
        exact (List.mem_append.1 hc).elim (Decimal.isDigit_zeros c) (hdigits c)
      · rw [numeral_of_ne_nil _ (List.append_ne_nil_of_right_ne_nil _ hne), List.append_assoc]
        rfl
      · have hzeros (k : Nat) : ['0'] ++ (List.replicate k '0' ++ Nat.toDigits 10 d.digits)
            = List.replicate (k + 1) '0' ++ Nat.toDigits 10 d.digits := rfl
        have hpart (k : Nat) (h : (Nat.toDigits 10 d.digits).length ≤ k) :
            k - (Nat.toDigits 10 d.digits).length + (Nat.toDigits 10 d.digits).length = k := by
          omega
        rw [hzeros, Decimal.ofDigits_zeros_append, List.length_append, List.length_replicate,
          hpart _ (Nat.le_of_not_lt hle), hplaces]
        rfl

theorem ofRank_val (rank : Fin finiteCount) : Magnitude.ofRank rank = .finite rank := by
  rw [Magnitude.ofRank, dif_pos rank.isLt]

theorem plainText_eq (rank : Fin finiteCount) :
    ∃ whole part : List Char, whole ≠ [] ∧ (∀ c ∈ whole, c.isDigit = true) ∧
      (∀ c ∈ part, c.isDigit = true) ∧ Magnitude.plainText (.finite rank) = numeral whole part ∧
      ofDecimal ⟨false, Decimal.ofDigits (whole ++ part), -(part.length : Int)⟩
        = ⟨false, .finite rank⟩ := by
  unfold Magnitude.plainText
  dsimp only
  split
  · rename_i hzero
    refine ⟨['0'], [], List.cons_ne_nil _ _, List.forall_mem_singleton.2 rfl, by simp, rfl, ?_⟩
    rw [← ofRank_val, hzero]
    rfl
  · rw [← ofRank_val, ← number_shortest]
    exact plainDigits_eq (shortest rank)

/-- A finite number without its sign is written as a numeral. -/
theorem isNumeral_plainText (rank : Fin finiteCount) :
    IsNumeral (Magnitude.plainText (.finite rank)) := by
  obtain ⟨whole, part, hne, hwhole, hpart, htext, -⟩ := plainText_eq rank
  exact ⟨whole, part, hne, hwhole, hpart, htext⟩

/-- **A finite number is read back as it is written.** -/
theorem read?_plainText (rank : Fin finiteCount) :
    read? (Magnitude.plainText (.finite rank)) = some ⟨false, .finite rank⟩ := by
  obtain ⟨whole, part, hne, hwhole, hpart, htext, hnumber⟩ := plainText_eq rank
  rw [htext, read?_numeral hne hwhole hpart, hnumber]

end Binary64

end SurveyQuests
