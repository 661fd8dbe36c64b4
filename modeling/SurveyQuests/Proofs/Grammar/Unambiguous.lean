import SurveyQuests.Proofs.Grammar.Syntax

/-!
# The grammar is unambiguous

No list of tokens has two derivations.  For the induction the statement is about lists that go on:
if two expressions with something after them are the same tokens, then the expressions are the same
and what follows is the same, provided that what follows can stand after such an expression.
Without that, a key and a key with a clause would both be read from the front of one list.

Of an exclamation mark the next token tells whether it negates an operand or belongs to a key; this
is where `UnaryExpr.Valid` is used.
-/

set_option autoImplicit false

namespace SurveyQuests.Grammar

variable {r r' : List TokenKind}

/-! ## Conditions -/

theorem eq_of_moreTokens {vs ws : List Value} (hr : GoesOn endsOperand r)
    (hr' : GoesOn endsOperand r') (h : moreTokens vs ++ r = moreTokens ws ++ r') :
    vs = ws ∧ r = r' := by
  induction vs generalizing ws with
  | nil =>
    cases ws with
    | nil => exact ⟨rfl, h⟩
    | cons w ws =>
      obtain rfl : r = _ := h
      cases hr
  | cons v vs ih =>
    cases ws with
    | nil =>
      obtain rfl : r' = _ := h.symm
      cases hr'
    | cons w ws =>
      rw [moreTokens_cons, moreTokens_cons, List.cons_append, List.cons_append, List.cons.injEq,
        List.append_assoc, List.append_assoc] at h
      obtain ⟨rfl, hrest⟩ := Value.eq_of_tokens h.2
      obtain ⟨rfl, rfl⟩ := ih hrest
      exact ⟨rfl, rfl⟩

theorem Anchor.eq_of_tokens {a b : Anchor} (hr : GoesOn endsOperand r)
    (hr' : GoesOn endsOperand r') (h : a.tokens ++ r = b.tokens ++ r') : a = b ∧ r = r' := by
  cases a with
  | today v =>
    cases b with
    | today w =>
      simp only [Anchor.tokens, List.cons_append, List.nil_append, List.cons.injEq,
        TokenKind.keyword.injEq] at h
      exact ⟨by rw [TodayWord.eq_of_keyword h.1], h.2⟩
    | before w n u =>
      simp only [Anchor.tokens, List.cons_append, List.nil_append, List.cons.injEq] at h
      rw [h.2] at hr
      cases hr
    | day => simp [Anchor.tokens] at h
  | before v m t =>
    cases b with
    | today w =>
      simp only [Anchor.tokens, List.cons_append, List.nil_append, List.cons.injEq] at h
      rw [← h.2] at hr'
      cases hr'
    | before w n u =>
      simp only [Anchor.tokens, List.cons_append, List.nil_append, List.cons.injEq,
        TokenKind.keyword.injEq, TokenKind.number.injEq] at h
      obtain ⟨hv, -, hm, ht, h⟩ := h
      rw [TodayWord.eq_of_keyword hv, Numeral.eq_of_digits hm, eq_of_unitKeyword ht]
      exact ⟨rfl, h⟩
    | day => simp [Anchor.tokens] at h
  | day text d hd =>
    cases b with
    | day text' d' hd' =>
      simp only [Anchor.tokens, List.cons_append, List.nil_append, List.cons.injEq,
        TokenKind.date.injEq] at h
      obtain ⟨rfl, rfl⟩ := h
      rw [hd] at hd'
      cases hd'
      exact ⟨rfl, rfl⟩
    | _ => simp [Anchor.tokens] at h

/-- A clause that is not empty does not end the operand before it. -/
theorem Clause.eq_present_of_ends {c : Clause} (h : GoesOn endsOperand (c.tokens ++ r)) :
    c = .present := by
  cases c with
  | present => rfl
  | among negated => cases negated <;> cases h
  | matching negated => cases negated <;> cases h
  | numeric sign => cases sign <;> cases h
  | dated direction => cases direction <;> cases h

theorem eq_of_signed {b c : Bool} {s t : String}
    (h : minusTokens b ++ ([.number s] ++ r) = minusTokens c ++ ([.number t] ++ r')) :
    b = c ∧ s = t ∧ r = r' := by
  cases b <;> cases c <;> simp_all [minusTokens]

theorem Clause.eq_of_tokens {c d : Clause} (hr : GoesOn endsOperand r)
    (hr' : GoesOn endsOperand r') (h : c.tokens ++ r = d.tokens ++ r') : c = d ∧ r = r' := by
  by_cases hc : c = .present
  · subst hc
    obtain rfl : r = d.tokens ++ r' := h
    rw [Clause.eq_present_of_ends hr]
    exact ⟨rfl, rfl⟩
  by_cases hd : d = .present
  · subst hd
    obtain rfl : r' = c.tokens ++ r := h.symm
    exact absurd (Clause.eq_present_of_ends hr') hc
  cases c with
  | present => exact absurd rfl hc
  | among negated first more =>
    cases d with
    | among negated' first' more' =>
      simp only [Clause.tokens, List.cons_append, List.cons.injEq, List.append_assoc] at h
      obtain ⟨rfl, hrest⟩ := Value.eq_of_tokens h.2
      obtain ⟨rfl, rfl⟩ := eq_of_moreTokens hr hr' hrest
      exact ⟨by rw [eq_of_equalityToken h.1], rfl⟩
    | numeric sign => cases sign <;> grind [Clause.tokens, equalityToken, OrderSign.token]
    | _ => grind [Clause.tokens, equalityToken, matchToken]
  | matching negated p =>
    cases d with
    | matching negated' p' =>
      simp only [Clause.tokens, List.cons_append, List.cons.injEq] at h
      obtain ⟨hv, rfl⟩ := Value.eq_of_tokens h.2
      exact ⟨by rw [eq_of_matchToken h.1, PatternText.eq_of_value hv], rfl⟩
    | numeric sign => cases sign <;> grind [Clause.tokens, matchToken, OrderSign.token]
    | _ => grind [Clause.tokens, equalityToken, matchToken]
  | numeric sign negative n =>
    cases d with
    | numeric sign' negative' n' =>
      simp only [Clause.tokens, List.cons_append, List.cons.injEq, List.append_assoc] at h
      obtain ⟨rfl, hm, rfl⟩ := eq_of_signed h.2
      exact ⟨by rw [OrderSign.eq_of_token h.1, Numeral.eq_of_digits hm], rfl⟩
    | _ => cases sign <;> grind [Clause.tokens, equalityToken, matchToken, OrderSign.token]
  | dated direction a =>
    cases d with
    | dated direction' a' =>
      simp only [Clause.tokens, List.cons_append, List.cons.injEq, TokenKind.keyword.injEq] at h
      obtain ⟨rfl, rfl⟩ := Anchor.eq_of_tokens hr hr' h.2
      exact ⟨by rw [eq_of_directionKeyword h.1], rfl⟩
    | numeric sign => cases sign <;> grind [Clause.tokens, OrderSign.token]
    | _ => grind [Clause.tokens, equalityToken, matchToken]

theorem Atom.eq_of_tokens {a b : Atom} (hr : GoesOn endsOperand r)
    (hr' : GoesOn endsOperand r') (h : a.tokens ++ r = b.tokens ++ r') : a = b ∧ r = r' := by
  cases a with
  | absent key =>
    cases b with
    | absent key' =>
      simp only [Atom.tokens, List.cons_append, List.nil_append, List.cons.injEq, true_and] at h
      exact ⟨by rw [Key.eq_of_token h.1], h.2⟩
    | tagged key' => cases key' <;> cases h
    | keyMatching negated => cases negated <;> cases h
    | _ => cases h
  | keyMatching negated p =>
    cases b with
    | keyMatching negated' p' =>
      simp only [Atom.tokens, List.cons_append, List.cons.injEq] at h
      obtain ⟨hv, rfl⟩ := Value.eq_of_tokens h.2
      exact ⟨by rw [eq_of_matchToken h.1, PatternText.eq_of_value hv], rfl⟩
    | tagged key' => cases key' <;> cases negated <;> cases h
    | _ => cases negated <;> cases h
  | edited direction x =>
    cases b with
    | edited direction' x' =>
      simp only [Atom.tokens, List.cons_append, List.cons.injEq, TokenKind.keyword.injEq] at h
      obtain ⟨rfl, rfl⟩ := Anchor.eq_of_tokens hr hr' h.2
      exact ⟨by rw [eq_of_directionKeyword h.1], rfl⟩
    | tagged key' => cases key' <;> cases h
    | keyMatching negated => cases negated <;> cases h
    | _ => cases h
  | tagged key c =>
    cases b with
    | tagged key' c' =>
      simp only [Atom.tokens, List.cons_append, List.cons.injEq] at h
      obtain ⟨rfl, rfl⟩ := Clause.eq_of_tokens hr hr' h.2
      exact ⟨by rw [Key.eq_of_token h.1], rfl⟩
    | keyMatching negated => cases key <;> cases negated <;> cases h
    | _ => cases key <;> cases h

/-! ## Expressions -/

/-- A condition does not open like an operand of another kind. -/
theorem Atom.tokens_eq (a : Atom) : ∃ (k : TokenKind) (t : List TokenKind), a.tokens = k :: t ∧
    k ≠ .keyword .not ∧ k ≠ .leftParen ∧
      (k = .bang → ∀ r, (t ++ r).head?.any startsNegatable = false) := by
  cases a with
  | absent key => cases key <;> exact ⟨_, _, rfl, by simp, by simp, fun _ _ ↦ rfl⟩
  | keyMatching negated p => cases negated <;> exact ⟨_, _, rfl, by simp [matchToken]⟩
  | edited direction x => cases direction <;> exact ⟨_, _, rfl, by simp [Direction.keyword]⟩
  | tagged key c => cases key <;> exact ⟨_, _, rfl, by simp [Key.token]⟩

/-- Only a condition opens like a condition. -/
theorem UnaryExpr.eq_atom_of_tokens {u : UnaryExpr} {a : Atom} (hu : u.Valid)
    (h : u.tokens ++ r = a.tokens ++ r') : ∃ b, u = .atom b := by
  obtain ⟨k, t, ht, hnot, hparen, hbang⟩ := Atom.tokens_eq a
  rw [ht, List.cons_append] at h
  cases u with
  | not u => exact absurd (List.cons.inj h).1.symm hnot
  | bang u =>
    have hrest : u.tokens ++ r = t ++ r' := (List.cons.inj h).2
    have hhead := hbang (List.cons.inj h).1.symm r'
    obtain ⟨k', hk', hs⟩ := (Option.any_eq_true _ _).1 hu.1
    rw [← hrest, List.head?_append, hk', Option.some_or, Option.any_some, hs] at hhead
    cases hhead
  | group e => exact absurd (List.cons.inj h).1.symm hparen
  | atom b => exact ⟨b, rfl⟩

mutual

theorem OrExpr.eq_of_tokens {e f : OrExpr} {r r' : List TokenKind} (he : e.Valid) (hf : f.Valid)
    (hr : GoesOn endsOr r) (hr' : GoesOn endsOr r') (h : e.tokens ++ r = f.tokens ++ r') :
    e = f ∧ r = r' := by
  match e, f with
  | .last a, .last b =>
    obtain ⟨rfl, rfl⟩ := AndExpr.eq_of_tokens he hf hr.toAnd hr'.toAnd h
    exact ⟨rfl, rfl⟩
  | .last a, .or b f =>
    rw [OrExpr.tokens, OrExpr.tokens, List.append_assoc] at h
    obtain ⟨-, rfl⟩ := AndExpr.eq_of_tokens he hf.1 hr.toAnd (goesOn_or _) h
    cases hr
  | .or a e, .last b =>
    rw [OrExpr.tokens, OrExpr.tokens, List.append_assoc] at h
    obtain ⟨-, rfl⟩ := AndExpr.eq_of_tokens he.1 hf (goesOn_or _) hr'.toAnd h
    cases hr'
  | .or a e, .or b f =>
    rw [OrExpr.tokens, OrExpr.tokens, List.append_assoc, List.append_assoc] at h
    obtain ⟨rfl, hrest⟩ := AndExpr.eq_of_tokens he.1 hf.1 (goesOn_or _) (goesOn_or _) h
    obtain ⟨rfl, rfl⟩ := OrExpr.eq_of_tokens he.2 hf.2 hr hr' (List.cons.inj hrest).2
    exact ⟨rfl, rfl⟩

theorem AndExpr.eq_of_tokens {a b : AndExpr} {r r' : List TokenKind} (ha : a.Valid) (hb : b.Valid)
    (hr : GoesOn endsAnd r) (hr' : GoesOn endsAnd r') (h : a.tokens ++ r = b.tokens ++ r') :
    a = b ∧ r = r' := by
  match a, b with
  | .last u, .last v =>
    obtain ⟨rfl, rfl⟩ := UnaryExpr.eq_of_tokens ha hb hr.toOperand hr'.toOperand h
    exact ⟨rfl, rfl⟩
  | .last u, .and v b =>
    rw [AndExpr.tokens, AndExpr.tokens, List.append_assoc] at h
    obtain ⟨-, rfl⟩ := UnaryExpr.eq_of_tokens ha hb.1 hr.toOperand (goesOn_and _) h
    cases hr
  | .and u a, .last v =>
    rw [AndExpr.tokens, AndExpr.tokens, List.append_assoc] at h
    obtain ⟨-, rfl⟩ := UnaryExpr.eq_of_tokens ha.1 hb (goesOn_and _) hr'.toOperand h
    cases hr'
  | .and u a, .and v b =>
    rw [AndExpr.tokens, AndExpr.tokens, List.append_assoc, List.append_assoc] at h
    obtain ⟨rfl, hrest⟩ := UnaryExpr.eq_of_tokens ha.1 hb.1 (goesOn_and _) (goesOn_and _) h
    obtain ⟨rfl, rfl⟩ := AndExpr.eq_of_tokens ha.2 hb.2 hr hr' (List.cons.inj hrest).2
    exact ⟨rfl, rfl⟩

theorem UnaryExpr.eq_of_tokens {u v : UnaryExpr} {r r' : List TokenKind} (hu : u.Valid)
    (hv : v.Valid) (hr : GoesOn endsOperand r) (hr' : GoesOn endsOperand r')
    (h : u.tokens ++ r = v.tokens ++ r') : u = v ∧ r = r' := by
  match u, v with
  | .atom a, v =>
    obtain ⟨b, rfl⟩ := UnaryExpr.eq_atom_of_tokens hv h.symm
    obtain ⟨rfl, rfl⟩ := Atom.eq_of_tokens hr hr' h
    exact ⟨rfl, rfl⟩
  | u, .atom b =>
    obtain ⟨a, rfl⟩ := UnaryExpr.eq_atom_of_tokens hu h
    obtain ⟨rfl, rfl⟩ := Atom.eq_of_tokens hr hr' h
    exact ⟨rfl, rfl⟩
  | .not u, .not v =>
    have hrest : u.tokens ++ r = v.tokens ++ r' := (List.cons.inj h).2
    obtain ⟨rfl, rfl⟩ := UnaryExpr.eq_of_tokens (u := u) (v := v) hu hv hr hr' hrest
    exact ⟨rfl, rfl⟩
  | .bang u, .bang v =>
    have hrest : u.tokens ++ r = v.tokens ++ r' := (List.cons.inj h).2
    obtain ⟨rfl, rfl⟩ := UnaryExpr.eq_of_tokens hu.2 hv.2 hr hr' hrest
    exact ⟨rfl, rfl⟩
  | .group e, .group f =>
    simp only [UnaryExpr.tokens, List.cons_append, List.append_assoc, List.cons.injEq,
      true_and] at h
    obtain ⟨rfl, hrest⟩ :=
      OrExpr.eq_of_tokens (e := e) (f := f) hu hv (goesOn_rightParen _) (goesOn_rightParen _) h
    exact ⟨rfl, (List.cons.inj hrest).2⟩
  | .not _, .bang _ | .not _, .group _ | .bang _, .not _ | .bang _, .group _ | .group _, .not _
  | .group _, .bang _ => cases h

end

/-! ## Queries -/

theorem eq_of_plural {k l : ElementKind} (h : TokenKind.ident k.plural = .ident l.plural) :
    k = l := by
  have hk := ElementKind.ofPlural?_plural k
  rw [TokenKind.ident.inj h, ElementKind.ofPlural?_plural] at hk
  exact (Option.some.inj hk).symm

theorem eq_of_moreKindTokens {ks ls : List ElementKind} {f g : Option OrExpr}
    (h : QuerySyntax.moreKindTokens ks ++ QuerySyntax.filterTokens f
      = QuerySyntax.moreKindTokens ls ++ QuerySyntax.filterTokens g) :
    ks = ls ∧ QuerySyntax.filterTokens f = QuerySyntax.filterTokens g := by
  induction ks generalizing ls with
  | nil =>
    cases ls with
    | nil => exact ⟨rfl, h⟩
    | cons l ls => cases f <;> cases h
  | cons k ks ih =>
    cases ls with
    | nil => cases g <;> cases h
    | cons l ls =>
      obtain ⟨hk, hrest⟩ := List.cons.inj (List.cons.inj h).2
      obtain ⟨rfl, hf⟩ := ih hrest
      exact ⟨by rw [eq_of_plural hk], hf⟩

/-- **No list of tokens has two derivations.** -/
theorem QuerySyntax.eq_of_tokens {s t : QuerySyntax} (hs : s.Valid) (ht : t.Valid)
    (h : s.tokens = t.tokens) : s = t := by
  obtain ⟨k, ks, f⟩ := s
  obtain ⟨l, ls, g⟩ := t
  have hk : k = l := eq_of_plural (List.cons.inj h).1
  have hrest : QuerySyntax.moreKindTokens ks ++ QuerySyntax.filterTokens f
      = QuerySyntax.moreKindTokens ls ++ QuerySyntax.filterTokens g := (List.cons.inj h).2
  obtain ⟨rfl, hfilter⟩ := eq_of_moreKindTokens hrest
  subst hk
  cases f with
  | none =>
    cases g with
    | none => rfl
    | some e => cases hfilter
  | some e =>
    cases g with
    | none => cases hfilter
    | some e' =>
      have he : e.tokens ++ [] = e'.tokens ++ [] := by
        rw [List.append_nil, List.append_nil]
        exact (List.cons.inj hfilter).2
      have hend : GoesOn endsOr [] := rfl
      obtain ⟨rfl, -⟩ := OrExpr.eq_of_tokens (hs e rfl) (ht e' rfl) hend hend he
      rfl

end SurveyQuests.Grammar
