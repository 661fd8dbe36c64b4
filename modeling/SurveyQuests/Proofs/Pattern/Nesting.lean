import SurveyQuests.Proofs.Pattern.Step

/-!
# Nesting only grows

Every part that is read, and every repetition of one, leaves the expression of what is read so far
nested as deep as before or deeper.  So a part that is nested too deep cannot be made up for later:
its pattern is refused, whatever comes after it.
-/

set_option autoImplicit false

namespace SurveyQuests.Pattern

namespace Expr

/-- Is the second expression nested as deep as the first, whatever chain they stand in? -/
def NestsWithin (a b : Expr) : Prop := ∀ inside, a.nesting inside ≤ b.nesting inside

theorem NestsWithin.refl (a : Expr) : NestsWithin a a := fun _ ↦ Nat.le_refl _

theorem NestsWithin.trans {a b c : Expr} (h : NestsWithin a b) (h' : NestsWithin b c) :
    NestsWithin a c := fun inside ↦ Nat.le_trans (h inside) (h' inside)

theorem nesting_le_none (inside : Chain) (e : Expr) : e.nesting inside ≤ e.nesting .none := by
  cases e with
  | seq a b =>
    simp only [nesting, reduceCtorEq, ↓reduceIte]
    split <;> omega
  | alt a b =>
    simp only [nesting, reduceCtorEq, ↓reduceIte]
    split <;> omega
  | _ => exact Nat.le_refl _

theorem nestsWithin_repeated (e : Expr) (min : Nat) (max : Option Nat) :
    NestsWithin e (.repeated e min max) := fun inside ↦
  Nat.le_trans (nesting_le_none inside e) (Nat.le_add_left _ _)

/-! ## Chains -/

theorem nestsWithin_ofParts_append (parts : List Expr) (e : Expr) :
    NestsWithin (ofParts parts) (ofParts (parts ++ [e])) := by
  induction parts with
  | nil => exact fun _ ↦ Nat.zero_le _
  | cons a parts ih =>
    intro inside
    cases parts with
    | nil =>
      have ha := nesting_le_none inside a
      simp only [List.cons_append, List.nil_append, ofParts, nesting]
      omega
    | cons b parts =>
      have htail := ih .seq
      simp only [List.cons_append, ofParts, nesting] at htail ⊢
      omega

theorem nestsWithin_ofParts_last {e e' : Expr} (h : NestsWithin e e') (parts : List Expr) :
    NestsWithin (ofParts (parts ++ [e])) (ofParts (parts ++ [e'])) := by
  induction parts with
  | nil => exact h
  | cons a parts ih =>
    intro inside
    have htail := ih .seq
    cases parts <;>
      simp only [List.cons_append, List.nil_append, ofParts, nesting] at htail ⊢ <;> omega

theorem nestsWithin_ofBranches_append (branches : List Expr) (e : Expr) :
    NestsWithin (ofBranches branches) (ofBranches (branches ++ [e])) := by
  induction branches with
  | nil => exact fun _ ↦ Nat.zero_le _
  | cons a branches ih =>
    intro inside
    cases branches with
    | nil =>
      have ha := nesting_le_none inside a
      simp only [List.cons_append, List.nil_append, ofBranches, nesting]
      omega
    | cons b branches =>
      have htail := ih .alt
      simp only [List.cons_append, ofBranches, nesting] at htail ⊢
      omega

theorem nestsWithin_ofBranches_last {e e' : Expr} (h : NestsWithin e e') (branches : List Expr) :
    NestsWithin (ofBranches (branches ++ [e])) (ofBranches (branches ++ [e'])) := by
  induction branches with
  | nil => exact h
  | cons a branches ih =>
    intro inside
    have htail := ih .alt
    cases branches <;>
      simp only [List.cons_append, List.nil_append, ofBranches, nesting] at htail ⊢ <;> omega

end Expr

variable {fuel : Nat} {p p₁ q : Progress} {cs rest s : List Char}

theorem Progress.expr_eq (p : Progress) :
    p.expr = Expr.ofBranches (p.branches.reverse ++ [Expr.ofParts p.parts.reverse]) := by
  rw [Progress.expr, List.reverse_cons]

/-- The last branch is made of the same parts and another one. -/
theorem nestsWithin_push (p : Progress) (e : Expr) : Expr.NestsWithin p.expr (p.push e).expr := by
  rw [p.expr_eq, (p.push e).expr_eq, Progress.push, List.reverse_cons]
  exact Expr.nestsWithin_ofBranches_last (Expr.nestsWithin_ofParts_append _ e) _

theorem Step.nestsWithin (h : Step fuel p cs p₁ rest) : Expr.NestsWithin p.expr p₁.expr := by
  cases h with
  | branch =>
    rw [p.expr_eq, Progress.expr_eq, List.reverse_cons]
    exact Expr.nestsWithin_ofBranches_append _ _
  | flags => exact nestsWithin_push p _
  | group => exact nestsWithin_push p _
  | set => exact nestsWithin_push p _
  | mark _ hparts =>
    rw [p.expr_eq, Progress.expr_eq]
    refine Expr.nestsWithin_ofBranches_last ?_ _
    rw [repeatLast?.eq_def] at hparts
    split at hparts
    · cases hparts
    · cases hparts
    · cases hparts
    · rename_i hp
      cases hparts
      rw [hp, List.reverse_cons, List.reverse_cons]
      exact Expr.nestsWithin_ofParts_last (Expr.nestsWithin_repeated _ _ _) _
  | escape => exact nestsWithin_push p _
  | single => exact nestsWithin_push p _

/-- **What is read is nested as deep as it was in the midst of reading.** -/
theorem nestsWithin_of_readBranches? (h : readBranches? fuel p cs = some (q, s)) :
    Expr.NestsWithin p.expr q.expr := by
  induction fuel generalizing p cs with
  | zero => cases h
  | succ fuel ih =>
    rcases readBranches?_succ_iff.1 h with ⟨-, rfl, -⟩ | ⟨p₁, rest, hstep, hread⟩
    · exact .refl _
    · exact hstep.nestsWithin.trans (ih hread)

end SurveyQuests.Pattern
