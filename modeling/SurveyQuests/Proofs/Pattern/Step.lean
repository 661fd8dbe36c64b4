import SurveyQuests.Pattern.Reader
import Mathlib.Data.List.Basic

/-!
# One part of a pattern at a time

The reader of patterns reads one part after another.  `Step` says what one step of it can be, with
one constructor for each kind of part, and `readBranches?_succ_iff` that the reader does nothing
else: it takes a step and goes on, or it stops at a closing parenthesis or at the end.
-/

set_option autoImplicit false

namespace SurveyQuests.Pattern

/-- Does the reader of parts stop here? -/
def Stops (cs : List Char) : Prop := cs = [] ∨ ∃ rest, cs = ')' :: rest

/-- Is the pattern extended inside a group with such flags? -/
def extendedIn (extended : Bool) : Option FlagChange → Bool
  | some f => f.apply .extended extended
  | none => extended

/-- The names of groups with the name of another group, which has to be new. -/
def namesWith? (names : List String) : Option String → Option (List String)
  | some n => if names.contains n then none else some (n :: names)
  | none => some names

/-- Reads the mark of a repetition and its bounds, given the character that it starts with. -/
def readMark? (extended : Bool) (c : Char) (rest : List Char) :
    Option (Nat × Option Nat × List Char) :=
  if c = '?' then some (0, some 1, skipReluctant rest)
  else if c = '*' then some (0, none, skipReluctant rest)
  else if c = '+' then some (1, none, skipReluctant rest)
  else if c = '\x7b' then readBounds? extended rest
  else none

/-- The part that a character is by itself. -/
def singlePart (c : Char) : Expr :=
  if c = '.' then .dot
  else if c = '^' then .assertion .lineStart
  else if c = '$' then .assertion .lineEnd
  else .literal ⟨c, false⟩

/-- Is the character no part by itself? -/
def StartsPart (c : Char) : Prop :=
  c = ')' ∨ c = '|' ∨ c = '(' ∨ c = '[' ∨ c = '?' ∨ c = '*' ∨ c = '+' ∨ c = '\x7b' ∨ c = '\\'

/-- One step of the reader of parts, which has so much fuel for what is inside a group: what is
carried along and the text before it, and both after it. -/
inductive Step (fuel : Nat) (p : Progress) : List Char → Progress → List Char → Prop
  | branch (rest : List Char) :
    Step fuel p ('|' :: rest)
      { p with branches := Expr.ofParts p.parts.reverse :: p.branches, parts := [] } rest
  | flags {rest rest' : List Char} {f : FlagChange}
    (hopening : readOpening? p.extended rest = some (.flags f, rest')) :
    Step fuel p ('(' :: rest)
      { p.push (.flags f) with extended := f.apply .extended p.extended } rest'
  | group {rest rest₁ rest₂ : List Char} {f : Option FlagChange} {name : Option String}
    {names : List String} {inner : Progress}
    (hopening : readOpening? p.extended rest = some (.group f name, rest₁))
    (hnames : namesWith? p.names name = some names)
    (hinner : readBranches? fuel ⟨extendedIn p.extended f, names, [], []⟩ rest₁ =
      some (inner, ')' :: rest₂)) :
    Step fuel p ('(' :: rest) { p.push (.group f inner.expr) with names := inner.names } rest₂
  | set {rest rest' : List Char} {negated : Bool} {s : SetExpr}
    (hclass : readClass? p.extended (rest.length + 1) rest = some (negated, s, rest')) :
    Step fuel p ('[' :: rest) (p.push (.bracketed negated s)) rest'
  | mark {c : Char} {rest rest' : List Char} {min : Nat} {max : Option Nat} {parts : List Expr}
    (hmark : readMark? p.extended c rest = some (min, max, rest'))
    (hparts : repeatLast? p.parts min max = some parts) :
    Step fuel p (c :: rest) { p with parts } rest'
  | escape {rest rest' : List Char} {e : Expr}
    (hescape : readEscape? p.extended rest = some (e, rest')) :
    Step fuel p ('\\' :: rest) (p.push e) rest'
  | single {c : Char} (rest : List Char) (hc : ¬ StartsPart c) :
    Step fuel p (c :: rest) (p.push (singlePart c)) rest

variable {fuel : Nat} {p q p₁ : Progress} {cs rest s : List Char}

theorem Step.read (hstep : Step fuel p (skip p.extended cs) p₁ rest) :
    readBranches? (fuel + 1) p cs = readBranches? fuel p₁ rest := by
  rw [readBranches?]
  generalize hcs : skip p.extended cs = text at hstep ⊢
  cases hstep with
  | branch rest => rfl
  | flags hopening =>
    simp only [hopening, Option.bind_eq_bind, Option.bind_some]
  | @group _ _ _ f name names inner hopening hnames hinner =>
    simp only [hopening, Option.bind_eq_bind, Option.bind_some]
    cases name with
    | none =>
      cases hnames
      cases f <;> simp only [extendedIn] at hinner <;> simp only [hinner, Option.bind_some]
    | some n =>
      rw [namesWith?] at hnames
      split_ifs at hnames with hold
      cases hnames
      cases f <;> simp only [extendedIn] at hinner <;>
        simp only [hold, hinner, Option.bind_some, Bool.false_eq_true, ↓reduceIte]
  | set hclass =>
    simp only [hclass, Option.bind_eq_bind, Option.bind_some]
  | @mark c rest rest' min max parts hmark hparts =>
    rw [readMark?] at hmark
    split_ifs at hmark with h₁ h₂ h₃ h₄
    · cases hmark
      simp only [h₁, hparts, Option.bind_eq_bind, Option.bind_some]
    · cases hmark
      simp only [h₂, hparts, Option.bind_eq_bind, Option.bind_some]
    · cases hmark
      simp only [h₃, hparts, Option.bind_eq_bind, Option.bind_some]
    · simp only [h₄, hmark, hparts, Option.bind_eq_bind, Option.bind_some]
  | escape hescape =>
    simp only [hescape, Option.bind_eq_bind, Option.bind_some]
  | @single c rest hc =>
    simp only [StartsPart, not_or] at hc
    obtain ⟨hclose, hbar, hopen, hbracket, hmark, hstar, hplus, hbrace, hslash⟩ := hc
    split
    all_goals rename_i heq
    · cases heq
    · cases heq
      contradiction
    · cases heq
      contradiction
    · cases heq
      contradiction
    · cases heq
      contradiction
    · cases heq
      contradiction
    · cases heq
      contradiction
    · cases heq
      contradiction
    · cases heq
      contradiction
    · cases heq
      contradiction
    · cases heq
      rfl
    · cases heq
      rfl
    · cases heq
      rfl
    · rename_i hdot hcaret hdollar
      cases heq
      simp only [singlePart, if_neg hdot, if_neg hcaret, if_neg hdollar]

theorem readBranches?_succ_iff :
    readBranches? (fuel + 1) p cs = some (q, s) ↔
      (Stops (skip p.extended cs) ∧ q = p ∧ s = skip p.extended cs) ∨
        ∃ p₁ rest, Step fuel p (skip p.extended cs) p₁ rest ∧
          readBranches? fuel p₁ rest = some (q, s) := by
  constructor
  · intro h
    rw [readBranches?] at h
    split at h
    all_goals rename_i hcs
    · cases h
      exact .inl ⟨.inl hcs, rfl, hcs.symm⟩
    · rename_i rest
      cases h
      exact .inl ⟨.inr ⟨rest, hcs⟩, rfl, hcs.symm⟩
    all_goals refine .inr ?_
    all_goals rw [hcs]
    · exact ⟨_, _, .branch _, h⟩
    · obtain ⟨⟨o, rest'⟩, hopening, h⟩ := Option.bind_eq_some_iff.1 h
      cases o with
      | flags f => exact ⟨_, _, .flags hopening, h⟩
      | group f name =>
        cases name with
        | none =>
          obtain ⟨_, hnames, h⟩ := Option.bind_eq_some_iff.1 h
          cases hnames
          obtain ⟨⟨inner, rest''⟩, hinner, h⟩ := Option.bind_eq_some_iff.1 h
          dsimp only at h
          split at h
          · exact ⟨_, _, .group hopening rfl (by cases f <;> exact hinner), h⟩
          · cases h
        | some n =>
          dsimp only at h
          split_ifs at h with hold
          · cases h
          · obtain ⟨_, hnames, h⟩ := Option.bind_eq_some_iff.1 h
            cases hnames
            obtain ⟨⟨inner, rest''⟩, hinner, h⟩ := Option.bind_eq_some_iff.1 h
            dsimp only at h
            split at h
            · exact ⟨_, _, .group hopening (if_neg hold) (by cases f <;> exact hinner), h⟩
            · cases h
    · obtain ⟨⟨negated, set, rest'⟩, hclass, h⟩ := Option.bind_eq_some_iff.1 h
      exact ⟨_, _, .set hclass, h⟩
    · obtain ⟨parts, hparts, h⟩ := Option.bind_eq_some_iff.1 h
      exact ⟨_, _, .mark (by rfl) hparts, h⟩
    · obtain ⟨parts, hparts, h⟩ := Option.bind_eq_some_iff.1 h
      exact ⟨_, _, .mark rfl hparts, h⟩
    · obtain ⟨parts, hparts, h⟩ := Option.bind_eq_some_iff.1 h
      exact ⟨_, _, .mark rfl hparts, h⟩
    · obtain ⟨⟨min, max, rest'⟩, hbounds, h⟩ := Option.bind_eq_some_iff.1 h
      obtain ⟨parts, hparts, h⟩ := Option.bind_eq_some_iff.1 h
      exact ⟨_, _, .mark hbounds hparts, h⟩
    · obtain ⟨⟨e, rest'⟩, hescape, h⟩ := Option.bind_eq_some_iff.1 h
      exact ⟨_, _, .escape hescape, h⟩
    · exact ⟨_, _, .single _ (by simp [StartsPart]), h⟩
    · exact ⟨_, _, .single _ (by simp [StartsPart]), h⟩
    · exact ⟨_, _, .single _ (by simp [StartsPart]), h⟩
    · rename_i c rest hclose hbar hopen hbracket hmark hstar hplus hbrace hslash hdot hcaret hdollar
      refine ⟨_, _, .single (c := c) rest ?_, ?_⟩
      · rintro (hc | hc | hc | hc | hc | hc | hc | hc | hc) <;> contradiction
      · rwa [singlePart, if_neg hdot, if_neg hcaret, if_neg hdollar]
  · rintro (⟨hstops, rfl, rfl⟩ | ⟨p₁, rest, hstep, h⟩)
    · rw [readBranches?]
      rcases hstops with hcs | ⟨rest, hcs⟩
      · rw [hcs]
      · rw [hcs]
        rfl
    · rwa [hstep.read]

end SurveyQuests.Pattern
