import SurveyQuests.Proofs.Filter.Meaning
import SurveyQuests.Proofs.Query.Compiling

/-!
# Filters put together as texts

The texts of filters can be put together by parentheses, *and*, *or* and *not*, and the query of the
text that results holds where the queries of the parts say so.  Whatever blanks, quoted texts and
parentheses a part has of its own, its tokens stay what they are between parentheses, they are read
as one operand there, and that the normal form takes levels apart does not change the meaning.

There is one predicate for each nonterminal of the grammar, with one rule for each way to put texts
together: `OperandText.group` makes an operand of any expression, the other rules go on from there.

## What is here

* `NodeTest`, `Means` — what a source says about nodes;
* `OperandText`, `AndText`, `OrText` and their rules;
* `means_compositions` — the rules applied to sources.
-/

set_option autoImplicit false

namespace SurveyQuests

open Grammar

/-- A test of nodes, seen from a day of reference, with a policy for dates known only in part. -/
def NodeTest := Element → Date → PinningPolicy → Bool

namespace NodeTest

/-- Both tests are passed. -/
def and (p q : NodeTest) : NodeTest := fun e day policy ↦ p e day policy && q e day policy

/-- One of the tests is passed. -/
def or (p q : NodeTest) : NodeTest := fun e day policy ↦ p e day policy || q e day policy

/-- The test is not passed. -/
def not (p : NodeTest) : NodeTest := fun e day policy ↦ !p e day policy

/-- There is a tag with the key. -/
def hasKey (key : String) : NodeTest := fun e _ _ ↦ e.tags.contains key

theorem not_and (p q : NodeTest) : (p.and q).not = p.not.or q.not := by
  funext e day policy
  exact Bool.not_and _ _

theorem not_or (p q : NodeTest) : (p.or q).not = p.not.and q.not := by
  funext e day policy
  exact Bool.not_or _ _

theorem not_not (p : NodeTest) : p.not.not = p := by
  funext e day policy
  exact Bool.not_not _

end NodeTest

/-- **The source compiles, and its query holds for the nodes that pass the test**, whatever the day
of reference and the policy. -/
def Means (source : String) (test : NodeTest) : Prop :=
  ∃ c, CompiledQuery.compile source = .ok c ∧
    ∀ (e : Element) (day : Date) (policy : PinningPolicy), e.kind = .node →
      (c.withPolicy policy).holds e day = test e day policy

/-! ## Tests of filters -/

/-- Does the filter hold for the nodes that pass the test? -/
def Filter.Tests (f : Filter) (test : NodeTest) : Prop :=
  ∀ (e : Element) (day : Date) (policy : PinningPolicy), e.kind = .node →
    f.holds e ⟨day, policy⟩ = test e day policy

namespace Filter.Tests

variable {f : Filter} {fs : List Filter} {p q : NodeTest}

protected theorem not (h : f.Tests p) : (Filter.not f).Tests p.not := by
  intro e day policy he
  rw [holds, h e day policy he]
  rfl

theorem all_singleton (h : f.Tests p) : (Filter.all [f]).Tests p := by
  intro e day policy he
  rw [holds, allHold, allHold, Bool.and_true, h e day policy he]

theorem all_cons (h : f.Tests p) (hs : (Filter.all fs).Tests q) :
    (Filter.all (f :: fs)).Tests (p.and q) := by
  intro e day policy he
  have hrest := hs e day policy he
  rw [holds] at hrest
  rw [holds, allHold, h e day policy he, hrest]
  rfl

theorem any_singleton (h : f.Tests p) : (Filter.any [f]).Tests p := by
  intro e day policy he
  rw [holds, anyHolds, anyHolds, Bool.or_false, h e day policy he]

theorem any_cons (h : f.Tests p) (hs : (Filter.any fs).Tests q) :
    (Filter.any (f :: fs)).Tests (p.or q) := by
  intro e day policy he
  have hrest := hs e day policy he
  rw [holds] at hrest
  rw [holds, anyHolds, h e day policy he, hrest]
  rfl

end Filter.Tests

/-! ## Texts of the nonterminals -/

/-- The text is an operand, and its filter tests what is said. -/
def OperandText (cs : List Char) (test : NodeTest) : Prop :=
  ∃ u : UnaryExpr, u.Valid ∧ Lexes cs u.tokens ∧ u.tree.Tests test

/-- The text is an *and*, perhaps of one operand, and its filter tests what is said. -/
def AndText (cs : List Char) (test : NodeTest) : Prop :=
  ∃ a : AndExpr, a.Valid ∧ Lexes cs a.tokens ∧ (Filter.all a.operands).Tests test

/-- The text is an *or*, perhaps of one operand, and its filter tests what is said. -/
def OrText (cs : List Char) (test : NodeTest) : Prop :=
  ∃ e : OrExpr, e.Valid ∧ Lexes cs e.tokens ∧ e.tree.Tests test

variable {cs ds : List Char} {p q : NodeTest}

/-- An expression between parentheses is an operand. -/
theorem OperandText.group (h : OrText cs p) : OperandText ('(' :: (cs ++ [')'])) p := by
  obtain ⟨e, he, hlex, htest⟩ := h
  exact ⟨.group e, he, hlex.parenthesized .nil, htest⟩

theorem OperandText.not (h : OperandText cs p) :
    OperandText ("not ".toList ++ cs) p.not := by
  obtain ⟨u, hu, hlex, htest⟩ := h
  refine ⟨.not u, hu, ?_, htest.not⟩
  have hblank : Lexes (' ' :: cs) u.tokens := (Lexes.of_blank rfl).2 hlex
  exact Lexes.keyword (k := .not) (Lexes.continuesName_space cs) hblank

/-- An exclamation mark before a parenthesis negates what is inside. -/
theorem OperandText.bang (h : OrText cs p) :
    OperandText ('!' :: '(' :: (cs ++ [')'])) p.not := by
  obtain ⟨e, he, hlex, htest⟩ := h
  have htest : (UnaryExpr.group e).tree.Tests p := htest
  exact ⟨.bang (.group e), ⟨rfl, he⟩, .symbol rfl rfl (hlex.parenthesized .nil), htest.not⟩

theorem AndText.last (h : OperandText cs p) : AndText cs p := by
  obtain ⟨u, hu, hlex, htest⟩ := h
  exact ⟨.last u, hu, hlex, htest.all_singleton⟩

theorem OrText.last (h : AndText cs p) : OrText cs p := by
  obtain ⟨a, ha, hlex, htest⟩ := h
  exact ⟨.last a, ha, hlex, htest.any_singleton⟩

theorem OperandText.and (h : OperandText cs p) (hs : AndText ds q) :
    AndText (cs ++ " and ".toList ++ ds) (p.and q) := by
  obtain ⟨u, hu, hcs, htest⟩ := h
  obtain ⟨a, ha, hds, htests⟩ := hs
  refine ⟨.and u a, ⟨hu, ha⟩, ?_, htest.all_cons htests⟩
  rw [List.append_assoc]
  exact hcs.connective .and hds

theorem OrText.or (h : AndText cs p) (hs : OrText ds q) :
    OrText (cs ++ " or ".toList ++ ds) (p.or q) := by
  obtain ⟨a, ha, hcs, htest⟩ := h
  obtain ⟨e, he, hds, htests⟩ := hs
  refine ⟨.or a e, ⟨ha, he⟩, ?_, htest.any_cons htests⟩
  rw [List.append_assoc]
  exact hcs.connective .or hds

theorem OrText.operand (h : OperandText cs p) : OrText cs p := .last (.last h)

/-! ## Sources -/

/-- What a source for nodes with a filter means is what the text of the filter means. -/
theorem means_nodes_with_iff {f : String} :
    Means ("nodes with " ++ f) p ↔ OrText f.toList p := by
  have hholds : ∀ (e : OrExpr) (x : Element) (day : Date) (policy : PinningPolicy),
      x.kind = .node →
      (CompiledQuery.withPolicy ⟨"nodes with " ++ f, ⟨.ofList [.node], e.tree.simplify⟩,
        .conservative⟩ policy).holds x day = e.tree.holds x ⟨day, policy⟩ := by
    intro e x day policy hx
    have hkind : (KindSet.ofList [.node]).contains x.kind = true := by
      rw [hx]
      rfl
    rw [CompiledQuery.holds, CompiledQuery.withPolicy, Query.holds, hkind, Bool.true_and,
      Filter.holds_simplify x _ e.proper_tree]
  constructor
  · rintro ⟨c, hc, htest⟩
    obtain ⟨e, he, hlex, rfl⟩ := CompiledQuery.compile_nodes_with_iff.1 hc
    refine ⟨e, he, hlex, fun x day policy hx ↦ ?_⟩
    rw [← hholds e x day policy hx, htest x day policy hx]
  · rintro ⟨e, he, hlex, htest⟩
    refine ⟨_, CompiledQuery.compile_nodes_with_iff.2 ⟨e, he, hlex, rfl⟩, fun x day policy hx ↦ ?_⟩
    rw [hholds e x day policy hx, htest x day policy hx]

theorem means_of_text {source : String} (h : OrText cs p)
    (hsource : source = "nodes with " ++ String.ofList cs) : Means source p := by
  rw [hsource, means_nodes_with_iff, String.toList_ofList]
  exact h

/-- A bare key asks for the key. -/
theorem means_key {key : String} (hkey : Lexes.IsWord key.toList)
    (hkind : wordKind key = .ident key) :
    Means ("nodes with " ++ key) (.hasKey key) := by
  rw [means_nodes_with_iff]
  refine .operand ⟨.atom (.tagged (.ident key) .present), trivial, ?_, fun e day policy _ ↦ ?_⟩
  · rw [← List.append_nil key.toList, Lexes.word_iff hkey rfl, String.ofList_toList, hkind]
    exact ⟨[], rfl, .nil⟩
  · exact Bool.bne_false _

/-- The sources compile, and say the same about nodes. -/
def SameMeaning (source source' : String) : Prop := ∃ test, Means source test ∧ Means source' test

/-- **Filters can be put together as texts.**  If sources with the texts `f`, `g` and `h` compile,
then so do the sources that are put together from these texts, and they mean what the connectives
say.  The laws of De Morgan and of double negation hold between such sources. -/
theorem means_compositions {f g h : String} {p q r : NodeTest} (hf : Means ("nodes with " ++ f) p)
    (hg : Means ("nodes with " ++ g) q) (hh : Means ("nodes with " ++ h) r) :
    Means ("nodes with (" ++ f ++ ") and (" ++ g ++ ")") (p.and q) ∧
    Means ("nodes with (" ++ f ++ ") or (" ++ g ++ ")") (p.or q) ∧
    Means ("nodes with not (" ++ f ++ ")") p.not ∧
    Means ("nodes with !(" ++ f ++ ")") p.not ∧
    Means ("nodes with (" ++ f ++ ") or (" ++ g ++ ") and (" ++ h ++ ")") (p.or (q.and r)) ∧
    Means ("nodes with not (" ++ f ++ ") and (" ++ g ++ ")") (p.not.and q) ∧
    SameMeaning ("nodes with not ((" ++ f ++ ") and (" ++ g ++ "))")
      ("nodes with not (" ++ f ++ ") or not (" ++ g ++ ")") ∧
    SameMeaning ("nodes with not ((" ++ f ++ ") or (" ++ g ++ "))")
      ("nodes with not (" ++ f ++ ") and not (" ++ g ++ ")") ∧
    SameMeaning ("nodes with not (not (" ++ f ++ "))") ("nodes with " ++ f) := by
  have hdouble : Means ("nodes with " ++ f) p := hf
  rw [means_nodes_with_iff] at hf hg hh
  have f' := OperandText.group hf
  have g' := OperandText.group hg
  have h' := OperandText.group hh
  have hand := OrText.last (f'.and (.last g'))
  have hor := OrText.or (.last f') (.operand g')
  have hnotAnd := OrText.operand (OperandText.group hand).not
  have hnotOr := OrText.operand (OperandText.group hor).not
  have horNot := OrText.or (.last f'.not) (.operand g'.not)
  have handNot := OrText.last (f'.not.and (.last g'.not))
  have hnotNot := OrText.operand (OperandText.group (.operand f'.not)).not
  rw [NodeTest.not_and] at hnotAnd
  rw [NodeTest.not_or] at hnotOr
  rw [NodeTest.not_not] at hnotNot
  refine ⟨means_of_text hand ?_, means_of_text hor ?_, means_of_text (.operand f'.not) ?_,
    means_of_text (.operand (.bang hf)) ?_,
    means_of_text (.or (.last f') (.last (g'.and (.last h')))) ?_,
    means_of_text (.last (f'.not.and (.last g'))) ?_,
    ⟨_, means_of_text hnotAnd ?_, means_of_text horNot ?_⟩,
    ⟨_, means_of_text hnotOr ?_, means_of_text handNot ?_⟩, ⟨p, means_of_text hnotNot ?_, hdouble⟩⟩
  all_goals
    rw [← String.toList_inj]
    simp [String.toList_append]

/-- The theorem for the keys `shop`, `fee` and `brand`. -/
theorem means_compositions_keys :
    Means "nodes with shop" (.hasKey "shop") ∧ Means "nodes with fee" (.hasKey "fee") ∧
      Means "nodes with brand" (.hasKey "brand") ∧
      Means "nodes with (shop) or (fee) and (brand)"
        (.or (.hasKey "shop") (.and (.hasKey "fee") (.hasKey "brand"))) := by
  have hshop : Means ("nodes with " ++ "shop") (.hasKey "shop") :=
    means_key ⟨_, _, rfl, by decide, by decide⟩ (by decide)
  have hfee : Means ("nodes with " ++ "fee") (.hasKey "fee") :=
    means_key ⟨_, _, rfl, by decide, by decide⟩ (by decide)
  have hbrand : Means ("nodes with " ++ "brand") (.hasKey "brand") :=
    means_key ⟨_, _, rfl, by decide, by decide⟩ (by decide)
  exact ⟨hshop, hfee, hbrand, (means_compositions hshop hfee hbrand).2.2.2.2.1⟩

end SurveyQuests
