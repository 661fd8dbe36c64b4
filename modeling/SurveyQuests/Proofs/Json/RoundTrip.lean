import Mathlib.Data.Nat.Init
import Mathlib.Tactic.SplitIfs
import SurveyQuests.Json.Reader
import SurveyQuests.Json.Writer
import SurveyQuests.Proofs.Number.RoundTrip

/-!
# JSON is read back as it is written

`Json.compact` writes a value and `Json.read?` reads it back, provided that the value is one that
can be written without loss (`Json.Written`): its texts are not broken, and its numbers are written
as the format wants them.

A character of a text is written as itself or as an escape, and either way it is read as one code
unit (`readUnits?_escapedChar`).  The code units are then those of the characters, none of which is
half of a surrogate pair.

The readers of values, items and members call each other and share a bound on their calls.  A value
of `n` characters is read within `2 * n` calls, since at most every second call takes no character.

## What is here

* `readString?_quotedText` — texts;
* `Numeral.Proper`, `readNumeral?_chars` — numbers;
* `Json.Written`, `Written.reads` — values in front of a text;
* `read?_compact` — **the round trip**;
* `Written.isPrinted` — no control character is written, so a value stands on one line.
-/

set_option autoImplicit false

namespace SurveyQuests.Json

/-! ## Texts -/

theorem hexValue?_digitChar {n : Nat} (h : n < 16) : hexValue? (Nat.digitChar n) = some n := by
  have hall : ∀ m < 16, hexValue? (Nat.digitChar m) = some m := by decide
  exact hall n h

/-- The four digits of a code unit. -/
theorem hex?_hexDigits4 {n : Nat} (h : n < 65536) : hex? (hexDigits4 n) = some n := by
  have hdigit : ∀ m k : Nat, (hexValue? (Nat.digitChar (k % 16))).map (16 * m + ·) =
      some (16 * m + k % 16) := by
    intro m k
    rw [hexValue?_digitChar (Nat.mod_lt k (by decide)), Option.map_some]
  simp only [hex?, hexDigits4, List.foldlM_cons, List.foldlM_nil, hdigit, Option.bind_eq_bind,
    Option.bind_some]
  congr 1
  omega

/-- An escape by a letter or a mark is read as what it stands for. -/
theorem readUnits?_escape {e c : Char} (h : unescape? e = some c) (rest : List Char) :
    readUnits? ('\\' :: e :: rest) =
      (readUnits? rest).map fun (units, rest) ↦ (c.toNat :: units, rest) := by
  have hu : e ≠ 'u' := by
    rintro rfl
    cases h
  rw [readUnits?]
  · rw [h]
    cases readUnits? rest <;> rfl
  · simp [hu]

/-- An escape by number is read as the number. -/
theorem readUnits?_hexDigits4 {n : Nat} (h : n < 65536) (rest : List Char) :
    readUnits? ('\\' :: 'u' :: (hexDigits4 n ++ rest)) =
      (readUnits? rest).map fun (units, rest) ↦ (n :: units, rest) := by
  have hhex := hex?_hexDigits4 h
  rw [hexDigits4] at hhex ⊢
  rw [List.cons_append, List.cons_append, List.cons_append, List.cons_append, List.nil_append,
    readUnits?, hhex]
  cases readUnits? rest <;> rfl

/-- A character that is not escaped is read as itself. -/
theorem readUnits?_plain {c : Char} (hquote : c ≠ '\x22') (hslash : c ≠ '\\')
    (h : ¬ c.toNat < 0x20) (rest : List Char) :
    readUnits? (c :: rest) =
      (readUnits? rest).map fun (units, rest) ↦ (c.toNat :: units, rest) := by
  rw [readUnits?]
  · rw [if_neg h]
    cases readUnits? rest <;> rfl
  all_goals simp [hquote, hslash]

/-- **How a character is written**: with an escape by a letter or a mark, with an escape by number,
or as it is. -/
theorem escapedChar_cases (c : Char) :
    (∃ e, unescape? e = some c ∧ 0x20 ≤ e.toNat ∧ escapedChar c = ['\\', e]) ∨
      (c.toNat < 0x20 ∧ escapedChar c = '\\' :: 'u' :: hexDigits4 c.toNat) ∨
      (c ≠ '\x22' ∧ c ≠ '\\' ∧ ¬ c.toNat < 0x20 ∧ escapedChar c = [c]) := by
  unfold escapedChar
  split_ifs with hquote hslash hback hform hfeed hreturn htab hcontrol
  · subst hquote; exact .inl ⟨_, rfl, by decide, rfl⟩
  · subst hslash; exact .inl ⟨_, rfl, by decide, rfl⟩
  · subst hback; exact .inl ⟨_, rfl, by decide, rfl⟩
  · subst hform; exact .inl ⟨_, rfl, by decide, rfl⟩
  · subst hfeed; exact .inl ⟨_, rfl, by decide, rfl⟩
  · subst hreturn; exact .inl ⟨_, rfl, by decide, rfl⟩
  · subst htab; exact .inl ⟨_, rfl, by decide, rfl⟩
  · exact .inr (.inl ⟨hcontrol, rfl⟩)
  · exact .inr (.inr ⟨hquote, hslash, hcontrol, rfl⟩)

/-- **A character is read as one code unit**, whether or not it is escaped. -/
theorem readUnits?_escapedChar (c : Char) (rest : List Char) :
    readUnits? (escapedChar c ++ rest) =
      (readUnits? rest).map fun (units, rest) ↦ (c.toNat :: units, rest) := by
  rcases escapedChar_cases c with ⟨e, he, -, h⟩ | ⟨hcontrol, h⟩ | ⟨hquote, hslash, hplain, h⟩
  · rw [h]
    exact readUnits?_escape he rest
  · rw [h]
    exact readUnits?_hexDigits4 (Nat.lt_trans hcontrol (by decide)) rest
  · rw [h]
    exact readUnits?_plain hquote hslash hplain rest

theorem readUnits?_escaped (cs rest : List Char) :
    readUnits? (cs.flatMap escapedChar ++ '\x22' :: rest) = some (cs.map Char.toNat, rest) := by
  induction cs with
  | nil => rfl
  | cons c cs ih => rw [List.flatMap_cons, List.append_assoc, readUnits?_escapedChar, ih]; rfl

/-- No character is half of a surrogate pair. -/
theorem characters?_toNat (cs : List Char) : characters? (cs.map Char.toNat) = some cs := by
  induction cs with
  | nil => rfl
  | cons c cs ih =>
    have hvalid : c.toNat < 0xd800 ∨ (0xdfff < c.toNat ∧ c.toNat < 0x110000) := c.valid
    have hlow : isLowSurrogate c.toNat = false := by
      rw [isLowSurrogate, decide_eq_false_iff_not]
      omega
    have hhigh : isHighSurrogate c.toNat = false := by
      rw [isHighSurrogate, decide_eq_false_iff_not]
      omega
    rw [List.map_cons, characters?.eq_def]
    dsimp only
    rw [hlow, hhigh, if_neg Bool.false_ne_true, if_neg Bool.false_ne_true, ih, Option.map_some,
      Char.ofNat_toNat]

/-- **A text is read back.** -/
theorem readString?_quotedText (s : String) (rest : List Char) :
    readString? (s.toList.flatMap escapedChar ++ '\x22' :: rest) = some (some s, rest) := by
  rw [readString?, readUnits?_escaped, Option.map_some]
  dsimp only
  rw [characters?_toNat, Option.map_some, String.ofList_toList]

/-! ## Numbers -/

/-- Is the number written as the format wants it? -/
structure Numeral.Proper (n : Numeral) : Prop where
  whole_ne_nil : n.whole ≠ []
  whole : ∀ c ∈ n.whole, c.isDigit = true
  leading : ∀ rest, n.whole = '0' :: rest → rest = []
  fraction : ∀ c ∈ n.fraction, c.isDigit = true
  exponent : ∀ e ∈ n.exponent, e.digits ≠ [] ∧ ∀ c ∈ e.digits, c.isDigit = true

/-- Does no number go on at the front of the text? -/
def EndsNumeral (rest : List Char) : Prop :=
  ∀ c ∈ rest.head?, c.isDigit = false ∧ c ≠ '.' ∧ c ≠ 'e' ∧ c ≠ 'E'

namespace Numeral

/-- The point and the digits after it. -/
def fractionChars (n : Numeral) : List Char := if n.fraction.isEmpty then [] else '.' :: n.fraction

/-- The letter of the exponent, its sign and its digits. -/
def exponentChars (n : Numeral) : List Char :=
  match n.exponent with
  | none => []
  | some e => 'e' :: (if e.negative then ['-'] else []) ++ e.digits

theorem chars_eq (n : Numeral) : n.chars =
    (if n.negative then ['-'] else []) ++ (n.whole ++ (n.fractionChars ++ n.exponentChars)) := by
  have hchars : n.chars =
      (if n.negative then ['-'] else []) ++ n.whole ++ n.fractionChars ++ n.exponentChars := rfl
  rw [hchars, List.append_assoc, List.append_assoc]

/-- The first character of a number. -/
def IsStart (c : Char) : Prop := c.isDigit = true ∨ c = '-'

theorem IsStart.ne {c d : Char} (h : IsStart c) (hdigit : d.isDigit = false) (hminus : d ≠ '-') :
    c ≠ d := by
  rintro rfl
  rcases h with h | h
  · rw [hdigit] at h
    cases h
  · exact hminus h

theorem exists_cons_chars {n : Numeral} (h : n.Proper) :
    ∃ c r, n.chars = c :: r ∧ IsStart c := by
  obtain ⟨d, ds, hwhole⟩ := List.exists_cons_of_ne_nil h.whole_ne_nil
  rw [chars_eq, hwhole]
  cases n.negative with
  | true => exact ⟨_, _, rfl, .inr rfl⟩
  | false =>
    refine ⟨_, _, rfl, .inl (h.whole d ?_)⟩
    rw [hwhole]
    exact List.mem_cons_self

end Numeral

theorem splitMinus_append (negative : Bool) {d : Char} (cs : List Char) (h : d.isDigit = true) :
    splitMinus ((if negative then ['-'] else []) ++ d :: cs) = (negative, d :: cs) := by
  cases negative with
  | true => rfl
  | false =>
    have hd : d ≠ '-' := by
      rintro rfl
      cases h
    simp [splitMinus, hd]

theorem readWhole?_append {n : Numeral} (h : n.Proper) {rest : List Char}
    (hrest : ∀ c ∈ rest.head?, c.isDigit = false) :
    readWhole? (n.whole ++ rest) = some (n.whole, rest) := by
  rw [readWhole?, splitDigits_append h.whole hrest]
  split
  · next heq => exact absurd (Prod.mk.inj heq).1 h.whole_ne_nil
  · next heq =>
    have hnil := h.leading _ (Prod.mk.inj heq).1
    cases hnil
  · next heq =>
    cases heq
    rfl

theorem readFraction?_append {n : Numeral} (h : n.Proper) {rest : List Char}
    (hrest : ∀ c ∈ rest.head?, c.isDigit = false ∧ c ≠ '.') :
    readFraction? (n.fractionChars ++ rest) = some (n.fraction, rest) := by
  rw [Numeral.fractionChars]
  cases hf : n.fraction with
  | nil =>
    cases rest with
    | nil => rfl
    | cons c rest =>
      have hc : c ≠ '.' := (hrest c rfl).2
      simp [readFraction?, hc]
  | cons d ds =>
    have hdigits := splitDigits_append (hf ▸ h.fraction) fun c hc ↦ (hrest c hc).1
    change readFraction? ('.' :: (d :: ds ++ rest)) = _
    rw [readFraction?, hdigits]

theorem readExponent?_append {n : Numeral} (h : n.Proper) {rest : List Char}
    (hrest : EndsNumeral rest) :
    readExponent? (n.exponentChars ++ rest) = some (n.exponent, rest) := by
  rw [Numeral.exponentChars]
  cases he : n.exponent with
  | none =>
    cases rest with
    | nil => rfl
    | cons c rest =>
      obtain ⟨-, -, hlower, hupper⟩ := hrest c rfl
      simp [readExponent?, hlower, hupper]
  | some e =>
    obtain ⟨negative, digits⟩ := e
    obtain ⟨hne, hdigits⟩ := h.exponent _ he
    obtain ⟨d, ds, rfl⟩ := List.exists_cons_of_ne_nil hne
    have hsplit := splitDigits_append hdigits fun c hc ↦ (hrest c hc).1
    have hsign : Decimal.splitSign ((if negative then ['-'] else []) ++ (d :: ds ++ rest)) =
        (negative, d :: ds ++ rest) := by
      cases negative with
      | true => rfl
      | false => exact Binary64.splitSign_of_isDigit (hdigits d List.mem_cons_self)
    dsimp only
    rw [List.cons_append, List.cons_append, List.append_assoc, readExponent?, if_pos (.inl rfl),
      hsign]
    dsimp only
    rw [hsplit]

/-- **A number is read back.** -/
theorem readNumeral?_chars {n : Numeral} (h : n.Proper) {rest : List Char}
    (hrest : EndsNumeral rest) : readNumeral? (n.chars ++ rest) = some (n, rest) := by
  have hexponent : ∀ c ∈ (n.exponentChars ++ rest).head?, c.isDigit = false ∧ c ≠ '.' := by
    rw [Numeral.exponentChars]
    cases n.exponent with
    | none => exact fun c hc ↦ ⟨(hrest c hc).1, (hrest c hc).2.1⟩
    | some e => rintro c ⟨⟩; decide
  have hfraction : ∀ c ∈ (n.fractionChars ++ (n.exponentChars ++ rest)).head?,
      c.isDigit = false := by
    rw [Numeral.fractionChars]
    split
    · exact fun c hc ↦ (hexponent c hc).1
    · rintro c ⟨⟩; decide
  obtain ⟨d, ds, hwhole⟩ := List.exists_cons_of_ne_nil h.whole_ne_nil
  have hd : d.isDigit = true := h.whole d (by rw [hwhole]; exact List.mem_cons_self)
  have hminus := splitMinus_append n.negative
    (ds ++ (n.fractionChars ++ (n.exponentChars ++ rest))) hd
  rw [← List.cons_append, ← hwhole] at hminus
  rw [readNumeral?, Numeral.chars_eq, List.append_assoc, List.append_assoc, List.append_assoc,
    hminus]
  dsimp only
  rw [readWhole?_append h hfraction, Option.bind_eq_bind, Option.bind_some,
    readFraction?_append h hexponent, Option.bind_eq_bind, Option.bind_some,
    readExponent?_append h hrest]
  rfl

/-- No digits but those of zero start with a zero. -/
theorem toDigits_eq_zero_cons {n : Nat} {rest : List Char} (h : Nat.toDigits 10 n = '0' :: rest) :
    rest = [] := by
  induction n using Nat.strong_induction_on generalizing rest with
  | _ n ih =>
    rcases Nat.lt_or_ge n 10 with hlt | hge
    · rw [Nat.toDigits_of_lt_base hlt] at h
      exact (List.cons.inj h).2.symm
    · rw [Nat.toDigits_of_base_le (by decide) hge] at h
      obtain ⟨d, ds, hds⟩ :=
        List.exists_cons_of_ne_nil (Nat.toDigits_ne_nil (n := n / 10) (b := 10))
      obtain rfl : d = '0' := by
        rw [hds] at h
        exact (List.cons.inj h).1
      obtain rfl := ih (n / 10) (Nat.div_lt_self (by omega) (by decide)) hds
      have hzero := Decimal.ofDigits_toDigits (n / 10)
      rw [hds] at hzero
      have : n / 10 = 0 := hzero.symm
      omega

/-- The number of an integer is written as the format wants it. -/
theorem Numeral.proper_ofInt (i : Int) : (Numeral.ofInt i).Proper where
  whole_ne_nil := Nat.toDigits_ne_nil
  whole := Decimal.isDigit_toDigits
  leading := fun _ ↦ toDigits_eq_zero_cons
  fraction := nofun
  exponent := nofun

/-! ## Values -/

/-- Can the value be written without loss?  Its texts are not broken, and its numbers are written as
the format wants them. -/
inductive Written : Json → Prop where
  | null : Written .null
  | bool (b : Bool) : Written (.bool b)
  | number {n : Numeral} (proper : n.Proper) : Written (.number n)
  | string (s : String) : Written (.string (some s))
  | array {items : List Json} (written : ∀ v ∈ items, Written v) : Written (.array items)
  | object {members : List (Option String × Json)} (names : ∀ m ∈ members, m.1.isSome = true)
    (written : ∀ m ∈ members, Written m.2) : Written (.object members)

/-- Is the value read back in front of any text that does not go on with a number, within two calls
for each of its characters? -/
def Reads (v : Json) : Prop :=
  ∀ (calls : Nat) (rest : List Char), 2 * v.compactChars.length ≤ calls → EndsNumeral rest →
    readValueWithin? calls (v.compactChars ++ rest) = some (v, rest)

theorem skipSpace_cons {c : Char} (h : isSpace c = false) (cs : List Char) :
    skipSpace (c :: cs) = c :: cs :=
  List.dropWhile_cons_of_neg (by rw [h]; exact Bool.false_ne_true)

theorem isSpace_of_isStart {c : Char} (h : Numeral.IsStart c) : isSpace c = false := by
  have hspace : c ≠ ' ' := h.ne (by decide) (by decide)
  have hfeed : c ≠ '\n' := h.ne (by decide) (by decide)
  have htab : c ≠ '\t' := h.ne (by decide) (by decide)
  have hreturn : c ≠ '\r' := h.ne (by decide) (by decide)
  simp [isSpace, hspace, hfeed, htab, hreturn]

/-- The first character of a value is neither white space nor the end of an array. -/
theorem Written.exists_cons {v : Json} (h : v.Written) :
    ∃ c r, v.compactChars = c :: r ∧ isSpace c = false ∧ c ≠ ']' := by
  cases h with
  | null => exact ⟨_, _, rfl, by decide, by decide⟩
  | bool b => cases b <;> exact ⟨_, _, rfl, by decide, by decide⟩
  | string s => exact ⟨_, _, rfl, by decide, by decide⟩
  | array => exact ⟨_, _, rfl, by decide, by decide⟩
  | object => exact ⟨_, _, rfl, by decide, by decide⟩
  | @number n proper =>
    obtain ⟨c, r, hchars, hc⟩ := Numeral.exists_cons_chars proper
    exact ⟨c, r, hchars, isSpace_of_isStart hc, hc.ne (by decide) (by decide)⟩

/-- Behind a quote a text is read. -/
theorem readValueWithin?_quote (calls : Nat) (cs : List Char) :
    readValueWithin? (calls + 1) ('\x22' :: cs) =
      (readString? cs).map fun (s, rest) ↦ (.string s, rest) := by
  rw [readValueWithin?]
  rfl

/-- Behind a bracket items are read, unless the array ends. -/
theorem readValueWithin?_bracket (calls : Nat) {c : Char} (cs : List Char)
    (hspace : isSpace c = false) (hc : c ≠ ']') :
    readValueWithin? (calls + 1) ('[' :: c :: cs) =
      (readItemsWithin? calls (c :: cs)).map fun (items, rest) ↦ (.array items, rest) := by
  have hbracket : isSpace '[' = false := by decide
  rw [readValueWithin?, skipSpace_cons hbracket]
  split
  · next heq => exact absurd (List.cons.inj heq).1 (by decide)
  · next heq =>
    obtain rfl := (List.cons.inj heq).2
    rw [skipSpace_cons hspace]
    split
    · next heq => exact absurd (List.cons.inj heq).1 hc
    · rfl
  · next heq => exact absurd (List.cons.inj heq).1 (by decide)
  · next hother _ => exact absurd rfl (hother _)

/-- Behind a brace members are read, the first of which starts with a quote. -/
theorem readValueWithin?_brace (calls : Nat) (cs : List Char) :
    readValueWithin? (calls + 1) ('\x7b' :: '\x22' :: cs) =
      (readMembersWithin? calls ('\x22' :: cs)).map fun (members, rest) ↦
        (.object members, rest) := by
  rw [readValueWithin?]
  rfl

/-- Where a number starts no word does. -/
theorem readWord?_of_isStart {c : Char} (h : Numeral.IsStart c) (cs : List Char) :
    readWord? (c :: cs) = none := by
  unfold readWord?
  split
  · next heq => exact absurd (List.cons.inj heq).1 (h.ne (by decide) (by decide))
  · next heq => exact absurd (List.cons.inj heq).1 (h.ne (by decide) (by decide))
  · next heq => exact absurd (List.cons.inj heq).1 (h.ne (by decide) (by decide))
  · rfl

/-- Where a number starts a number is read. -/
theorem readValueWithin?_of_isStart {c : Char} (h : Numeral.IsStart c) (calls : Nat)
    (cs : List Char) : readValueWithin? (calls + 1) (c :: cs) =
      (readNumeral? (c :: cs)).map fun (n, rest) ↦ (.number n, rest) := by
  rw [readValueWithin?, skipSpace_cons (isSpace_of_isStart h)]
  split
  · next heq => exact absurd (List.cons.inj heq).1 (h.ne (by decide) (by decide))
  · next heq => exact absurd (List.cons.inj heq).1 (h.ne (by decide) (by decide))
  · next heq => exact absurd (List.cons.inj heq).1 (h.ne (by decide) (by decide))
  · rw [readWord?_of_isStart h]

theorem reads_number {n : Numeral} (h : n.Proper) : Reads (.number n) := by
  intro calls rest hcalls hrest
  obtain ⟨c, r, hchars, hc⟩ := Numeral.exists_cons_chars h
  have hread := readNumeral?_chars h hrest
  rw [compactChars] at hcalls ⊢
  rw [hchars] at hcalls hread ⊢
  obtain ⟨calls, rfl⟩ : ∃ k, calls = k + 1 := ⟨calls - 1, by rw [List.length_cons] at hcalls; omega⟩
  rw [List.cons_append] at hread ⊢
  rw [readValueWithin?_of_isStart hc, hread]
  rfl

theorem readItemsWithin?_compactItems {items : List Json} (ne : items ≠ [])
    (h : ∀ v ∈ items, Reads v) (calls : Nat) (rest : List Char)
    (hcalls : 2 * (compactItems items).length + 1 ≤ calls) :
    readItemsWithin? calls (compactItems items ++ ']' :: rest) = some (items, rest) := by
  induction items generalizing calls with
  | nil => exact absurd rfl ne
  | cons v vs ih =>
    obtain ⟨calls, rfl⟩ : ∃ k, calls = k + 1 := ⟨calls - 1, by omega⟩
    have hv := h v List.mem_cons_self
    cases vs with
    | nil =>
      rw [compactItems] at hcalls ⊢
      rw [readItemsWithin?, hv calls _ (by omega) (by simp [EndsNumeral])]
      rfl
    | cons w vs =>
      rw [compactItems, List.length_append, List.length_cons] at hcalls
      have hvs := ih (List.cons_ne_nil w vs) (fun u hu ↦ h u (List.mem_cons_of_mem v hu))
        calls (by omega)
      rw [compactItems, List.append_assoc, List.cons_append, readItemsWithin?,
        hv calls _ (by omega) (by simp [EndsNumeral])]
      change (readItemsWithin? calls (compactItems (w :: vs) ++ ']' :: rest)).bind _ = _
      rw [hvs]
      rfl

/-- Behind the name of a member and a colon its value is read. -/
theorem readMembersWithin?_quotedText (calls : Nat) (s : String) (cs : List Char) :
    readMembersWithin? (calls + 1) (quotedText s.toList ++ ':' :: cs) =
      (do
        let (value, rest) ← readValueWithin? calls cs
        match skipSpace rest with
        | ',' :: rest =>
          let (members, rest) ← readMembersWithin? calls rest
          some ((some s, value) :: members, rest)
        | '\x7d' :: rest => some ([(some s, value)], rest)
        | _ => none) := by
  have hname := readString?_quotedText s (':' :: cs)
  rw [quotedText, List.cons_append, List.cons_append, List.append_assoc, List.singleton_append,
    readMembersWithin?]
  change (readString? (s.toList.flatMap escapedChar ++ '\x22' :: ':' :: cs)).bind _ = _
  rw [hname, Option.bind_some]
  rfl

theorem readMembersWithin?_compactMembers {members : List (Option String × Json)}
    (ne : members ≠ []) (hnames : ∀ m ∈ members, m.1.isSome = true)
    (h : ∀ m ∈ members, Reads m.2) (calls : Nat) (rest : List Char)
    (hcalls : 2 * (compactMembers members).length + 1 ≤ calls) :
    readMembersWithin? calls (compactMembers members ++ '\x7d' :: rest) = some (members, rest) := by
  induction members generalizing calls with
  | nil => exact absurd rfl ne
  | cons m ms ih =>
    obtain ⟨calls, rfl⟩ : ∃ k, calls = k + 1 := ⟨calls - 1, by omega⟩
    obtain ⟨name, v⟩ := m
    obtain ⟨s, rfl⟩ := Option.isSome_iff_exists.1 (hnames _ List.mem_cons_self)
    have hv : Reads v := h _ List.mem_cons_self
    cases ms with
    | nil =>
      rw [compactMembers, List.length_append, List.length_cons] at hcalls
      rw [compactMembers, List.append_assoc, List.cons_append, quotedString,
        readMembersWithin?_quotedText, hv calls _ (by omega) (by simp [EndsNumeral])]
      rfl
    | cons m ms =>
      rw [compactMembers, List.length_append, List.length_cons, List.length_append,
        List.length_cons] at hcalls
      have hms := ih (List.cons_ne_nil m ms) (fun u hu ↦ hnames u (List.mem_cons_of_mem _ hu))
        (fun u hu ↦ h u (List.mem_cons_of_mem _ hu)) calls (by omega)
      rw [compactMembers, List.append_assoc, List.cons_append, List.append_assoc, List.cons_append,
        quotedString, readMembersWithin?_quotedText, hv calls _ (by omega) (by simp [EndsNumeral])]
      change (readMembersWithin? calls (compactMembers (m :: ms) ++ '\x7d' :: rest)).bind _ = _
      rw [hms]
      rfl

/-- A value that is not empty is read within at least one call. -/
theorem exists_calls {v : Json} (h : v.Written) {calls : Nat}
    (hcalls : 2 * v.compactChars.length ≤ calls) : ∃ k, calls = k + 1 := by
  obtain ⟨c, r, hchars, -⟩ := h.exists_cons
  rw [hchars, List.length_cons] at hcalls
  exact ⟨calls - 1, by omega⟩

theorem reads_array {items : List Json} (written : ∀ v ∈ items, v.Written)
    (h : ∀ v ∈ items, Reads v) : Reads (.array items) := by
  intro calls rest hcalls _
  obtain ⟨calls, rfl⟩ := exists_calls (.array written) hcalls
  cases items with
  | nil => rfl
  | cons v vs =>
    rw [compactChars, List.length_append, List.length_cons] at hcalls
    have hread := readItemsWithin?_compactItems (List.cons_ne_nil v vs) h calls rest (by omega)
    obtain ⟨c, r, hchars, hspace, hclose⟩ :
        ∃ c r, compactItems (v :: vs) ++ ']' :: rest = c :: r ∧ isSpace c = false ∧ c ≠ ']' := by
      obtain ⟨c, r, hchars, hc⟩ := (written v List.mem_cons_self).exists_cons
      cases vs <;> exact ⟨c, _, by rw [compactItems, hchars]; rfl, hc⟩
    rw [hchars] at hread
    rw [compactChars, List.cons_append, List.cons_append, List.append_assoc, List.singleton_append,
      hchars, readValueWithin?_bracket calls r hspace hclose, hread]
    rfl

theorem reads_object {members : List (Option String × Json)}
    (hnames : ∀ m ∈ members, m.1.isSome = true) (written : ∀ m ∈ members, m.2.Written)
    (h : ∀ m ∈ members, Reads m.2) : Reads (.object members) := by
  intro calls rest hcalls _
  obtain ⟨calls, rfl⟩ := exists_calls (.object hnames written) hcalls
  cases members with
  | nil => rfl
  | cons m ms =>
    rw [compactChars, List.length_append, List.length_cons] at hcalls
    have hread := readMembersWithin?_compactMembers (List.cons_ne_nil m ms) hnames h calls rest
      (by omega)
    obtain ⟨r, hchars⟩ : ∃ r, compactMembers (m :: ms) ++ '\x7d' :: rest = '\x22' :: r := by
      obtain ⟨name, v⟩ := m
      obtain ⟨s, rfl⟩ := Option.isSome_iff_exists.1 (hnames _ List.mem_cons_self)
      cases ms <;> exact ⟨_, rfl⟩
    rw [hchars] at hread
    rw [compactChars, List.cons_append, List.cons_append, List.append_assoc, List.singleton_append,
      hchars, readValueWithin?_brace, hread]
    rfl

/-- **A value that can be written without loss is read back.** -/
theorem Written.reads {v : Json} (h : v.Written) : Reads v := by
  induction h with
  | null =>
    intro calls rest hcalls _
    obtain ⟨calls, rfl⟩ := exists_calls .null hcalls
    rfl
  | bool b =>
    intro calls rest hcalls _
    obtain ⟨calls, rfl⟩ := exists_calls (.bool b) hcalls
    cases b <;> rfl
  | number proper => exact reads_number proper
  | string s =>
    intro calls rest hcalls _
    obtain ⟨calls, rfl⟩ := exists_calls (.string s) hcalls
    rw [compactChars, quotedString, quotedText, List.cons_append, List.cons_append,
      List.append_assoc, List.singleton_append, readValueWithin?_quote, readString?_quotedText]
    rfl
  | array written ih => exact reads_array written ih
  | object names written ih => exact reads_object names written ih

/-- **What is written is read back.** -/
theorem read?_compact {v : Json} (h : v.Written) : read? v.compact = some v := by
  have hread := h.reads (2 * v.compactChars.length + 2) [] (by omega) (by simp [EndsNumeral])
  rw [List.append_nil] at hread
  rw [read?, compact, readValue?, String.toList_ofList, hread]
  rfl

/-! ## One line -/

/-- Is the character none of the control characters below the space? -/
def IsPrinted (c : Char) : Prop := 0x20 ≤ c.toNat

instance (c : Char) : Decidable (IsPrinted c) := inferInstanceAs (Decidable (_ ≤ _))

theorem IsPrinted.ne_lineFeed {c : Char} (h : IsPrinted c) : c ≠ '\n' := by
  rintro rfl
  exact absurd h (by decide)

theorem isPrinted_of_isDigit {c : Char} (h : c.isDigit = true) : IsPrinted c := by
  have hc := Character.toNat_of_isDigit h
  exact Nat.le_trans (by decide) hc.1

theorem isPrinted_hexDigits4 (n : Nat) : ∀ c ∈ hexDigits4 n, IsPrinted c := by
  have hdigit : ∀ m < 16, IsPrinted (Nat.digitChar m) := by decide
  have hmod : ∀ m : Nat, IsPrinted (Nat.digitChar (m % 16)) :=
    fun m ↦ hdigit _ (Nat.mod_lt m (by decide))
  simp [hexDigits4, hmod]

theorem isPrinted_escapedChar (c : Char) : ∀ d ∈ escapedChar c, IsPrinted d := by
  rcases escapedChar_cases c with ⟨e, -, he, h⟩ | ⟨-, h⟩ | ⟨-, -, hplain, h⟩
  · rw [h]
    exact List.forall_mem_cons.2 ⟨by decide, List.forall_mem_singleton.2 he⟩
  · rw [h]
    exact List.forall_mem_cons.2 ⟨by decide,
      List.forall_mem_cons.2 ⟨by decide, isPrinted_hexDigits4 c.toNat⟩⟩
  · rw [h]
    exact List.forall_mem_singleton.2 (Nat.le_of_not_lt hplain)

theorem isPrinted_quotedText (cs : List Char) : ∀ d ∈ quotedText cs, IsPrinted d := by
  refine List.forall_mem_append.2 ⟨List.forall_mem_cons.2 ⟨by decide, ?_⟩,
    List.forall_mem_singleton.2 (by decide)⟩
  intro d hd
  obtain ⟨c, -, hd⟩ := List.mem_flatMap.1 hd
  exact isPrinted_escapedChar c d hd

theorem isPrinted_quotedString (s : Option String) : ∀ d ∈ quotedString s, IsPrinted d := by
  cases s <;> exact isPrinted_quotedText _

theorem isPrinted_chars {n : Numeral} (h : n.Proper) : ∀ d ∈ n.chars, IsPrinted d := by
  have hsign : ∀ negative : Bool, ∀ d ∈ (if negative then ['-'] else []), IsPrinted d := by
    intro negative
    cases negative with
    | true => exact List.forall_mem_singleton.2 (by decide)
    | false => exact List.forall_mem_nil _
  rw [Numeral.chars_eq]
  refine List.forall_mem_append.2 ⟨hsign n.negative, List.forall_mem_append.2
    ⟨fun d hd ↦ isPrinted_of_isDigit (h.whole d hd), List.forall_mem_append.2 ⟨?_, ?_⟩⟩⟩
  · rw [Numeral.fractionChars]
    split
    · exact List.forall_mem_nil _
    · exact List.forall_mem_cons.2 ⟨by decide,
        fun d hd ↦ isPrinted_of_isDigit (h.fraction d hd)⟩
  · rw [Numeral.exponentChars]
    cases he : n.exponent with
    | none => exact List.forall_mem_nil _
    | some e =>
      exact List.forall_mem_cons.2 ⟨by decide, List.forall_mem_append.2 ⟨hsign e.negative,
        fun d hd ↦ isPrinted_of_isDigit ((h.exponent e he).2 d hd)⟩⟩

theorem isPrinted_compactItems {items : List Json}
    (h : ∀ v ∈ items, ∀ d ∈ v.compactChars, IsPrinted d) :
    ∀ d ∈ compactItems items, IsPrinted d := by
  induction items with
  | nil => exact List.forall_mem_nil _
  | cons v vs ih =>
    have hv := h v List.mem_cons_self
    cases vs with
    | nil => exact hv
    | cons w vs =>
      exact List.forall_mem_append.2 ⟨hv, List.forall_mem_cons.2 ⟨by decide,
        ih fun u hu ↦ h u (List.mem_cons_of_mem v hu)⟩⟩

theorem isPrinted_compactMembers {members : List (Option String × Json)}
    (h : ∀ m ∈ members, ∀ d ∈ m.2.compactChars, IsPrinted d) :
    ∀ d ∈ compactMembers members, IsPrinted d := by
  induction members with
  | nil => exact List.forall_mem_nil _
  | cons m ms ih =>
    have hm : ∀ d ∈ quotedString m.1 ++ ':' :: m.2.compactChars, IsPrinted d :=
      List.forall_mem_append.2 ⟨isPrinted_quotedString m.1, List.forall_mem_cons.2
        ⟨by decide, h m List.mem_cons_self⟩⟩
    cases ms with
    | nil => exact hm
    | cons l ms =>
      exact List.forall_mem_append.2 ⟨hm, List.forall_mem_cons.2 ⟨by decide,
        ih fun u hu ↦ h u (List.mem_cons_of_mem m hu)⟩⟩

/-- **A value is written on one line.** -/
theorem Written.isPrinted {v : Json} (h : v.Written) : ∀ d ∈ v.compactChars, IsPrinted d := by
  induction h with
  | null => simp [compactChars, IsPrinted]
  | bool b => cases b <;> simp [compactChars, IsPrinted]
  | number proper => exact isPrinted_chars proper
  | string s => exact isPrinted_quotedString (some s)
  | array _ ih =>
    exact List.forall_mem_append.2 ⟨List.forall_mem_cons.2 ⟨by decide, isPrinted_compactItems ih⟩,
      List.forall_mem_singleton.2 (by decide)⟩
  | object _ _ ih =>
    exact List.forall_mem_append.2 ⟨List.forall_mem_cons.2 ⟨by decide, isPrinted_compactMembers ih⟩,
      List.forall_mem_singleton.2 (by decide)⟩

end SurveyQuests.Json
