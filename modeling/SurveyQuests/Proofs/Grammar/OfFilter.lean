import SurveyQuests.Proofs.Filter.Rendering
import SurveyQuests.Proofs.Grammar.Derivation

/-!
# Filters as they are written

The tokens of a filter have a derivation whose tree has the same normal form as the filter, provided
that no key is a numeral: the text of a numeral is not quoted, and where a key is expected the
grammar has no place for a number.  This is so for every proper filter, whatever levels there are in
it that the normal form would take apart.

The other way round, what a derivation stands for can be written, and its keys are among its tokens.

## What is here

* `Condition.key?` — the key that a condition is about;
* `exists_atom`, `hasOperand_and_hasExpression` — derivations of the tokens of a filter;
* `OrExpr.writable`, `OrExpr.key_mem_tokens` — the conditions of a derivation can be written, and
  their keys are among its tokens.
-/

set_option autoImplicit false

namespace SurveyQuests

/-- The key that a condition is about. -/
def Condition.key? : Condition → Option String
  | .hasKey key _ | .compares key _ _ | .valueMatches key _ _ | .oneOf key _ _ | .numeric key _ _ =>
    some key
  | .date (.tag keys) _ _ => some keys.key
  | .keyMatches _ _ | .date .element _ _ => none

namespace Grammar

/-! ## Literals -/

theorem exists_value (s : String) : ∃ v : Value, v.tokens = [literalToken s] ∧ v.text = s := by
  rcases literalToken_cases s with h | h | h
  · exact ⟨.ident s, by rw [h]; rfl, rfl⟩
  · exact ⟨.str s, by rw [h]; rfl, rfl⟩
  · exact ⟨.number s, by rw [h]; rfl, rfl⟩

theorem exists_key {s : String} (h : isPlainNumber s.toList = false) :
    ∃ k : Key, k.token = literalToken s ∧ k.text = s := by
  rcases literalToken_cases s with hs | hs | hs
  · exact ⟨.ident s, hs.symm, rfl⟩
  · exact ⟨.str s, hs.symm, rfl⟩
  · rw [literalToken_eq_number_iff, h] at hs
    cases hs

theorem exists_patternText (p : Pattern) :
    ∃ t : PatternText, t.value.tokens = [literalToken p.source] ∧ t.pattern = p := by
  obtain ⟨v, htokens, htext⟩ := exists_value p.source
  exact ⟨⟨v, p, by rw [htext, Pattern.compile?_source]⟩, htokens, rfl⟩

theorem exists_numeral {x : Binary64} (h : x.isFinite = true) :
    ∃ n : Numeral, x.tokens = minusTokens x.negative ++ [.number n.digits] ∧
      n.signed x.negative = x := by
  obtain ⟨negative, magnitude⟩ := x
  cases magnitude with
  | infinite => cases h
  | nan => cases h
  | finite rank =>
    have hreads : ParserState.finiteNumber?
        (.number (String.ofList (Binary64.Magnitude.plainText (.finite rank)))) =
          some ⟨false, .finite rank⟩ := by
      rw [ParserState.finiteNumber?, String.toList_ofList, Binary64.read?_plainText]
      rfl
    refine ⟨⟨_, _, hreads⟩, rfl, ?_⟩
    cases negative <;> rfl

theorem eq_zero_of_eq {x : Binary64} (hfinite : x.isFinite = true) (hsign : x.negative = false)
    (h : x.eq .zero = true) : x = .zero := by
  obtain ⟨negative, magnitude⟩ := x
  cases hsign
  cases magnitude with
  | infinite => cases hfinite
  | nan => cases hfinite
  | finite rank =>
    have hrank : ((rank : Nat) : Int) = 0 := of_decide_eq_true h
    have hzero : Binary64.zero = ⟨false, .finite ⟨0, by decide⟩⟩ := rfl
    rw [hzero, Fin.ext (Int.ofNat_eq_zero.1 hrank) (b := ⟨0, by decide⟩)]

theorem exists_anchor {anchor : DateAnchor} (h : anchor.Writable) :
    ∃ a : Anchor, a.tokens = anchor.tokens ∧ a.anchor = anchor := by
  cases anchor with
  | fixed d => exact ⟨.day d.text d (Date.readIso?_text h), rfl, rfl⟩
  | relative magnitude unit =>
    rw [DateAnchor.tokens]
    split
    · rename_i hzero
      obtain ⟨rfl, hzero⟩ := hzero
      refine ⟨.today .today, rfl, ?_⟩
      rw [eq_zero_of_eq h.1 h.2 hzero]
      rfl
    · obtain ⟨n, htokens, hnumber⟩ := exists_numeral h.1
      rw [h.2] at htokens hnumber
      refine ⟨.before .today n unit, ?_, ?_⟩
      · rw [htokens]
        rfl
      · have hnumber : n.number = magnitude := hnumber
        rw [Anchor.anchor, hnumber]

/-! ## Conditions -/

theorem exists_values (values : List String) :
    ∃ vs : List Value, vs.map Value.text = values ∧
      ∀ s : String, literalsTokens (s :: values) = literalToken s :: moreTokens vs := by
  induction values with
  | nil => exact ⟨[], rfl, fun s ↦ rfl⟩
  | cons t values ih =>
    obtain ⟨vs, htext, htokens⟩ := ih
    obtain ⟨v, hv, hvt⟩ := exists_value t
    refine ⟨v :: vs, by rw [List.map_cons, hvt, htext], fun s ↦ ?_⟩
    rw [literalsTokens, htokens, moreTokens_cons, hv]
    rfl

/-- **A condition is read back as it is written.** -/
theorem exists_atom {c : Condition} (h : c.Writable)
    (hkey : ∀ key ∈ c.key?, isPlainNumber key.toList = false) :
    ∃ a : Atom, a.tokens = c.tokens ∧ a.condition = c := by
  cases c with
  | hasKey key negated =>
    obtain ⟨k, htoken, rfl⟩ := exists_key (hkey key rfl)
    cases negated with
    | false => exact ⟨.tagged k .present, by rw [Condition.tokens, ← htoken]; rfl, rfl⟩
    | true => exact ⟨.absent k, by rw [Condition.tokens, ← htoken]; rfl, rfl⟩
  | keyMatches pattern negated =>
    obtain ⟨p, htokens, rfl⟩ := exists_patternText pattern
    refine ⟨.keyMatching negated p, ?_, rfl⟩
    rw [Atom.tokens, htokens]
    rfl
  | compares key op value =>
    obtain ⟨k, htoken, rfl⟩ := exists_key (hkey key rfl)
    obtain ⟨v, htokens, rfl⟩ := exists_value value
    rcases h with rfl | rfl
    · refine ⟨.tagged k (.among false v []), ?_, rfl⟩
      rw [Condition.tokens, ← htoken, Atom.tokens, Clause.tokens, htokens]
      rfl
    · refine ⟨.tagged k (.among true v []), ?_, rfl⟩
      rw [Condition.tokens, ← htoken, Atom.tokens, Clause.tokens, htokens]
      rfl
  | valueMatches key pattern negated =>
    obtain ⟨k, htoken, rfl⟩ := exists_key (hkey key rfl)
    obtain ⟨p, htokens, rfl⟩ := exists_patternText pattern
    refine ⟨.tagged k (.matching negated p), ?_, rfl⟩
    rw [Condition.tokens, ← htoken, Atom.tokens, Clause.tokens, htokens]
    rfl
  | oneOf key values negated =>
    obtain ⟨k, htoken, rfl⟩ := exists_key (hkey key rfl)
    obtain ⟨s, values, rfl⟩ := List.exists_cons_of_length_pos (Nat.lt_of_lt_of_le Nat.two_pos h)
    obtain ⟨v, hv, rfl⟩ := exists_value s
    obtain ⟨vs, hvs, htokens⟩ := exists_values values
    cases vs with
    | nil =>
      subst hvs
      exact absurd h (by simp [Condition.Writable])
    | cons w ws =>
      refine ⟨.tagged k (.among negated v (w :: ws)), ?_, ?_⟩
      · rw [Condition.tokens, ← htoken, htokens, Atom.tokens, Clause.tokens, hv]
        rfl
      · rw [Atom.condition, Clause.condition, List.map_cons, hvs]
  | numeric key op value =>
    obtain ⟨k, htoken, rfl⟩ := exists_key (hkey key rfl)
    obtain ⟨n, htokens, hnumber⟩ := exists_numeral h.2
    have hsign : ∃ sign : OrderSign, sign.comparison = op ∧ sign.token = op.token := by
      cases op with
      | eq => exact absurd rfl h.1.1
      | ne => exact absurd rfl h.1.2
      | lt => exact ⟨.lt, rfl, rfl⟩
      | le => exact ⟨.le, rfl, rfl⟩
      | gt => exact ⟨.gt, rfl, rfl⟩
      | ge => exact ⟨.ge, rfl, rfl⟩
    obtain ⟨sign, rfl, hsign⟩ := hsign
    refine ⟨.tagged k (.numeric sign value.negative n), ?_, ?_⟩
    · rw [Condition.tokens, ← htoken, htokens, ← hsign]
      rfl
    · rw [Atom.condition, Clause.condition, hnumber]
  | date target direction anchor =>
    obtain ⟨htarget, hanchor⟩ := h
    obtain ⟨a, htokens, rfl⟩ := exists_anchor hanchor
    cases target with
    | element =>
      refine ⟨.edited direction a, ?_, rfl⟩
      rw [Condition.tokens, ← htokens]
      rfl
    | tag keys =>
      obtain ⟨k, htoken, hk⟩ := exists_key (hkey keys.key rfl)
      refine ⟨.tagged k (.dated direction a), ?_, ?_⟩
      · rw [Condition.tokens, ← htokens, DateTarget.tokens, ← htoken]
        rfl
      · rw [htarget, ← hk]
        rfl

/-! ## Filters -/

/-- There is an operand with the tokens of the filter, in parentheses if need be. -/
def HasOperand (f : Filter) : Prop :=
  ∃ u : UnaryExpr, u.Valid ∧ u.tokens = Filter.parenthesizedTokens f.isCompound f.tokens ∧
    u.tree.simplify = f.simplify

/-- There is an expression with the tokens of the filter. -/
def HasExpression (f : Filter) : Prop :=
  ∃ e : OrExpr, e.Valid ∧ e.tokens = f.tokens ∧ e.tree.simplify = f.simplify

theorem exists_andExpr {fs : List Filter} (ne : fs ≠ []) (h : ∀ f ∈ fs, HasOperand f) :
    ∃ a : AndExpr, a.Valid ∧ a.tokens = Filter.operandsTokens .and fs ∧
      a.operands.map Filter.simplify = fs.map Filter.simplify := by
  induction fs with
  | nil => exact absurd rfl ne
  | cons f fs ih =>
    obtain ⟨u, hu, htokens, htree⟩ := h f List.mem_cons_self
    cases fs with
    | nil => exact ⟨.last u, hu, htokens, by rw [AndExpr.operands, List.map_cons, htree]; rfl⟩
    | cons g fs =>
      obtain ⟨a, ha, hatokens, hoperands⟩ :=
        ih (List.cons_ne_nil g fs) fun f' hf ↦ h f' (List.mem_cons_of_mem f hf)
      refine ⟨.and u a, ⟨hu, ha⟩, ?_, ?_⟩
      · rw [AndExpr.tokens, htokens, hatokens, Filter.operandsTokens]
      · rw [AndExpr.operands, List.map_cons, htree, hoperands]
        rfl

theorem exists_orExpr {fs : List Filter} (ne : fs ≠ []) (h : ∀ f ∈ fs, HasOperand f) :
    ∃ e : OrExpr, e.Valid ∧ e.tokens = Filter.operandsTokens .or fs ∧
      e.operands.map Filter.simplify = fs.map Filter.simplify := by
  induction fs with
  | nil => exact absurd rfl ne
  | cons f fs ih =>
    obtain ⟨u, hu, htokens, htree⟩ := h f List.mem_cons_self
    have hsingle : (Filter.all (AndExpr.last u).operands).simplify = f.simplify := by
      rw [AndExpr.operands, Filter.simplify_all_singleton, htree]
    cases fs with
    | nil =>
      exact ⟨.last (.last u), hu, htokens, by rw [OrExpr.operands, List.map_cons, hsingle]; rfl⟩
    | cons g fs =>
      obtain ⟨e, he, hetokens, hoperands⟩ :=
        ih (List.cons_ne_nil g fs) fun f' hf ↦ h f' (List.mem_cons_of_mem f hf)
      refine ⟨.or (.last u) e, ⟨hu, he⟩, ?_, ?_⟩
      · rw [OrExpr.tokens, AndExpr.tokens, htokens, hetokens, Filter.operandsTokens]
      · rw [OrExpr.operands, List.map_cons, hsingle, hoperands]
        rfl

/-- An operand is an expression by itself. -/
theorem HasOperand.hasExpression {f : Filter} (h : HasOperand f) (hf : f.isCompound = false) :
    HasExpression f := by
  obtain ⟨u, hu, htokens, htree⟩ := h
  rw [hf] at htokens
  refine ⟨.last (.last u), hu, htokens, ?_⟩
  rw [OrExpr.tree, OrExpr.operands, Filter.simplify_any_singleton, AndExpr.operands,
    Filter.simplify_all_singleton, htree]

/-- An expression between parentheses is an operand. -/
theorem HasExpression.hasOperand {f : Filter} (h : HasExpression f) (hf : f.isCompound = true) :
    HasOperand f := by
  obtain ⟨e, he, htokens, htree⟩ := h
  refine ⟨.group e, he, ?_, htree⟩
  rw [UnaryExpr.tokens, htokens, hf]
  rfl

/-- **The tokens of a filter are those of an expression with the same normal form**, if the filter
is proper, its conditions can be written and no key is a numeral. -/
theorem hasOperand_and_hasExpression {f : Filter} (hproper : f.Proper)
    (hwritable : ∀ c ∈ f.conditions, c.Writable)
    (hkeys : ∀ c ∈ f.conditions, ∀ key ∈ c.key?, isPlainNumber key.toList = false) :
    HasOperand f ∧ HasExpression f := by
  induction hproper with
  | condition c =>
    have hmem : c ∈ (Filter.condition c).conditions := List.mem_singleton.2 rfl
    obtain ⟨a, htokens, rfl⟩ := exists_atom (hwritable c hmem) (hkeys c hmem)
    have hoperand : HasOperand (.condition a.condition) := ⟨.atom a, trivial, htokens, rfl⟩
    exact ⟨hoperand, hoperand.hasExpression rfl⟩
  | @not f hf ih =>
    obtain ⟨⟨u, hu, htokens, htree⟩, -⟩ := ih hwritable hkeys
    have hoperand : HasOperand (.not f) := by
      refine ⟨.not u, hu, ?_, by rw [UnaryExpr.tree, Filter.simplify, htree, Filter.simplify]⟩
      rw [UnaryExpr.tokens, htokens, Filter.tokens, hf.isAlways, Bool.or_false]
      rfl
    exact ⟨hoperand, hoperand.hasExpression rfl⟩
  | @all fs ne _ ih =>
    rw [Filter.conditions_all] at hwritable hkeys
    have hoperands : ∀ f ∈ fs, HasOperand f := fun f hf ↦
      (ih f hf (fun c hc ↦ hwritable c (List.mem_flatMap.2 ⟨f, hf, hc⟩))
        fun c hc ↦ hkeys c (List.mem_flatMap.2 ⟨f, hf, hc⟩)).1
    obtain ⟨a, ha, htokens, htree⟩ := exists_andExpr ne hoperands
    have hexpression : HasExpression (.all fs) := by
      refine ⟨.last a, ha, htokens, ?_⟩
      rw [OrExpr.tree, OrExpr.operands, Filter.simplify_any_singleton,
        Filter.simplify_all_congr htree]
    exact ⟨hexpression.hasOperand rfl, hexpression⟩
  | @any fs ne _ ih =>
    rw [Filter.conditions_any] at hwritable hkeys
    have hoperands : ∀ f ∈ fs, HasOperand f := fun f hf ↦
      (ih f hf (fun c hc ↦ hwritable c (List.mem_flatMap.2 ⟨f, hf, hc⟩))
        fun c hc ↦ hkeys c (List.mem_flatMap.2 ⟨f, hf, hc⟩)).1
    obtain ⟨e, he, htokens, htree⟩ := exists_orExpr ne hoperands
    have hexpression : HasExpression (.any fs) :=
      ⟨e, he, htokens, Filter.simplify_any_congr htree⟩
    exact ⟨hexpression.hasOperand rfl, hexpression⟩

/-! ## The conditions of a derivation -/

theorem Numeral.isFinite (n : Numeral) : n.number.isFinite = true := by
  have hreads := n.reads
  rw [ParserState.finiteNumber?, Option.filter_eq_some_iff] at hreads
  exact hreads.2

theorem Numeral.negative {n : Numeral} (h : IsNumeral n.digits.toList) :
    n.number.negative = false := by
  have hreads := n.reads
  rw [ParserState.finiteNumber?, Option.filter_eq_some_iff] at hreads
  exact Binary64.negative_of_read?_numeral h hreads.1

theorem Numeral.isFinite_signed (n : Numeral) (negative : Bool) :
    (n.signed negative).isFinite = true := by
  cases negative <;> exact n.isFinite

/-- Are the numbers among the tokens numerals? -/
def NumbersAreNumerals (ks : List TokenKind) : Prop :=
  ∀ s : String, .number s ∈ ks → IsNumeral s.toList

theorem Anchor.writable {a : Anchor} (h : NumbersAreNumerals a.tokens) : a.anchor.Writable := by
  cases a with
  | today => exact ⟨rfl, rfl⟩
  | before word count unit =>
    exact ⟨count.isFinite, count.negative (h count.digits (by simp [Anchor.tokens]))⟩
  | day text d reads => exact Date.year_nonneg_of_readIso? reads

/-- **The condition of a derivation can be written.** -/
theorem Atom.writable {a : Atom} (h : NumbersAreNumerals a.tokens) : a.condition.Writable := by
  cases a with
  | absent key => trivial
  | keyMatching negated pattern => trivial
  | edited direction anchor =>
    exact ⟨trivial, Anchor.writable fun s hs ↦ h s (List.mem_cons_of_mem _ hs)⟩
  | tagged key clause =>
    cases clause with
    | present => trivial
    | among negated first more =>
      cases more with
      | nil => cases negated <;> simp [Atom.condition, Clause.condition, Condition.Writable]
      | cons second more => exact Nat.le_add_left 2 _
    | matching negated pattern => trivial
    | numeric sign negative number =>
      refine ⟨?_, number.isFinite_signed negative⟩
      cases sign <;> exact ⟨Comparison.noConfusion, Comparison.noConfusion⟩
    | dated direction anchor =>
      refine ⟨rfl, Anchor.writable fun s hs ↦ h s ?_⟩
      exact List.mem_cons_of_mem _ (List.mem_cons_of_mem _ hs)

/-- The key of a condition is one of its tokens. -/
theorem Atom.key_mem_tokens {a : Atom} {key : String} (h : key ∈ a.condition.key?) :
    .ident key ∈ a.tokens ∨ .str key ∈ a.tokens := by
  have hkey : ∀ (k : Key) (ks : List TokenKind),
      .ident k.text ∈ k.token :: ks ∨ .str k.text ∈ k.token :: ks := by
    intro k ks
    cases k with
    | ident s => exact .inl List.mem_cons_self
    | str s => exact .inr List.mem_cons_self
  cases a with
  | absent k =>
    cases h
    exact (hkey k []).imp (List.mem_cons_of_mem _) (List.mem_cons_of_mem _)
  | keyMatching negated pattern => cases h
  | edited direction anchor => cases h
  | tagged k clause =>
    have hk : k.text = key := by
      cases clause with
      | among negated first more => cases more <;> exact Option.some.inj h
      | _ => exact Option.some.inj h
    rw [← hk]
    exact hkey k clause.tokens

mutual

theorem OrExpr.exists_atom_of_mem (e : OrExpr) {c : Condition}
    (hc : c ∈ e.operands.flatMap Filter.conditions) :
    ∃ a : Atom, a.condition = c ∧ a.tokens ⊆ e.tokens :=
  match e with
  | .last a => by
    rw [OrExpr.operands, List.flatMap_singleton, Filter.conditions_all] at hc
    exact a.exists_atom_of_mem hc
  | .or a e => by
    rw [OrExpr.operands, List.flatMap_cons, Filter.conditions_all, List.mem_append] at hc
    rcases hc with hc | hc
    · obtain ⟨b, hb, hsub⟩ := a.exists_atom_of_mem hc
      exact ⟨b, hb, List.Subset.trans hsub (List.subset_append_left _ _)⟩
    · obtain ⟨b, hb, hsub⟩ := e.exists_atom_of_mem hc
      refine ⟨b, hb, List.Subset.trans hsub ?_⟩
      exact List.Subset.trans (List.subset_cons_self _ _) (List.subset_append_right _ _)

theorem AndExpr.exists_atom_of_mem (a : AndExpr) {c : Condition}
    (hc : c ∈ a.operands.flatMap Filter.conditions) :
    ∃ b : Atom, b.condition = c ∧ b.tokens ⊆ a.tokens :=
  match a with
  | .last u => by
    rw [AndExpr.operands, List.flatMap_singleton] at hc
    exact u.exists_atom_of_mem hc
  | .and u a => by
    rw [AndExpr.operands, List.flatMap_cons, List.mem_append] at hc
    rcases hc with hc | hc
    · obtain ⟨b, hb, hsub⟩ := u.exists_atom_of_mem hc
      exact ⟨b, hb, List.Subset.trans hsub (List.subset_append_left _ _)⟩
    · obtain ⟨b, hb, hsub⟩ := a.exists_atom_of_mem hc
      refine ⟨b, hb, List.Subset.trans hsub ?_⟩
      exact List.Subset.trans (List.subset_cons_self _ _) (List.subset_append_right _ _)

theorem UnaryExpr.exists_atom_of_mem (u : UnaryExpr) {c : Condition}
    (hc : c ∈ u.tree.conditions) : ∃ a : Atom, a.condition = c ∧ a.tokens ⊆ u.tokens :=
  match u with
  | .not u => by
    rw [UnaryExpr.tree, Filter.conditions] at hc
    obtain ⟨b, hb, hsub⟩ := u.exists_atom_of_mem hc
    exact ⟨b, hb, List.Subset.trans hsub (List.subset_cons_self _ _)⟩
  | .bang u => by
    rw [UnaryExpr.tree, Filter.conditions] at hc
    obtain ⟨b, hb, hsub⟩ := u.exists_atom_of_mem hc
    exact ⟨b, hb, List.Subset.trans hsub (List.subset_cons_self _ _)⟩
  | .group e => by
    rw [UnaryExpr.tree, Filter.conditions_any] at hc
    obtain ⟨b, hb, hsub⟩ := e.exists_atom_of_mem hc
    refine ⟨b, hb, List.Subset.trans hsub ?_⟩
    exact List.Subset.trans (List.subset_append_left _ _) (List.subset_cons_self _ _)
  | .atom a => by
    rw [UnaryExpr.tree, Filter.conditions] at hc
    exact ⟨a, (List.mem_singleton.1 hc).symm, fun _ ht ↦ ht⟩

end

/-- Every condition of the tree is written somewhere among the tokens. -/
theorem OrExpr.exists_atom_of_mem_tree {e : OrExpr} {c : Condition} (hc : c ∈ e.tree.conditions) :
    ∃ a : Atom, a.condition = c ∧ a.tokens ⊆ e.tokens := by
  rw [OrExpr.tree, Filter.conditions_any] at hc
  exact e.exists_atom_of_mem hc

theorem OrExpr.writable {e : OrExpr} (h : NumbersAreNumerals e.tokens) {c : Condition}
    (hc : c ∈ e.tree.conditions) : c.Writable := by
  obtain ⟨a, rfl, hsub⟩ := e.exists_atom_of_mem_tree hc
  exact a.writable fun s hs ↦ h s (hsub hs)

theorem OrExpr.key_mem_tokens {e : OrExpr} {c : Condition} (hc : c ∈ e.tree.conditions)
    {key : String} (hkey : key ∈ c.key?) : .ident key ∈ e.tokens ∨ .str key ∈ e.tokens := by
  obtain ⟨a, rfl, hsub⟩ := e.exists_atom_of_mem_tree hc
  exact (a.key_mem_tokens hkey).imp (fun h ↦ hsub h) fun h ↦ hsub h

end Grammar

end SurveyQuests
