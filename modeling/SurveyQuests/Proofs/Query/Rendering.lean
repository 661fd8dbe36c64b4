import SurveyQuests.Proofs.Grammar.OfFilter
import SurveyQuests.Proofs.Query.Compiling

/-!
# The text of a query compiles again

The text of a query is made of the tokens of its kinds and of its filter.  If no key of the filter
is a numeral, then it compiles, and to the query with its filter in normal form; so the text of a
compiled query compiles to the same query.

A key that is a numeral is written without quotes, like any value that is one, and a number cannot
stand where a key is expected.  `compile_text_iff` says that this is the one case in which a
compiled query is not read back from its text.

## What is here

* `lexes_query` — the tokens of the text of a query;
* `compile_text_of_proper` — for any query that can be written;
* `compile_text_iff` — for compiled queries.
-/

set_option autoImplicit false

namespace SurveyQuests

open Grammar

/-! ## Kinds -/

theorem lexes_plural (k : ElementKind) : Lexes k.plural.toList [.ident k.plural] := by
  have hword : Lexes.IsWord k.plural.toList := by
    cases k <;> exact ⟨_, _, rfl, by decide, by decide⟩
  have hkind : wordKind k.plural = .ident k.plural := by
    cases k <;> decide
  have hlex := (Lexes.word_iff hword (r := []) rfl).2 ⟨[], rfl, .nil⟩
  rwa [List.append_nil, String.ofList_toList, hkind] at hlex

theorem lexes_with : Lexes "with".toList [.ident "with"] := by
  have hword : Lexes.IsWord "with".toList := ⟨_, _, rfl, by decide, by decide⟩
  have hkind : wordKind "with" = .ident "with" := by decide
  have hlex := (Lexes.word_iff hword (r := []) rfl).2 ⟨[], rfl, .nil⟩
  rwa [List.append_nil, String.ofList_toList, hkind] at hlex

theorem lexes_kinds (k : ElementKind) (more : List ElementKind) :
    Lexes (", ".intercalate ((k :: more).map ElementKind.plural)).toList
      (.ident k.plural :: QuerySyntax.moreKindTokens more) := by
  induction more generalizing k with
  | nil =>
    rw [List.map_singleton, String.intercalate_singleton]
    exact lexes_plural k
  | cons l more ih =>
    have hcomma : Lexes
        (',' :: ' ' :: (", ".intercalate ((l :: more).map ElementKind.plural)).toList)
        (.comma :: .ident l.plural :: QuerySyntax.moreKindTokens more) :=
      .symbol rfl rfl ((Lexes.of_blank rfl).2 (ih l))
    have hlex := (lexes_plural k).append (isDelimited_cons.2 (by decide)) hcomma
    rw [List.map_cons, List.map_cons, String.intercalate_cons_cons, String.toList_append,
      String.toList_append, List.append_assoc]
    exact hlex

theorem KindSet.ofList_toList (κ : KindSet) : ofList κ.toList = κ := by
  obtain ⟨nodes, ways, relations⟩ := κ
  cases nodes <;> cases ways <;> cases relations <;> rfl

theorem KindSet.toList_ofList_ne_nil (k : ElementKind) (more : List ElementKind) :
    (ofList (k :: more)).toList ≠ [] := by
  have hmem : k ∈ (ofList (k :: more)).toList := by
    rw [toList, List.mem_filter]
    refine ⟨by cases k <;> decide, ?_⟩
    rw [contains_ofList]
    simp
  exact List.ne_nil_of_mem hmem

/-! ## The tokens of a query -/

/-- The tokens of a filter after the word `with`, none for the empty condition. -/
def filterTokens (f : Filter) : List TokenKind :=
  if f.isAlways then [] else .ident "with" :: f.tokens

theorem isUnquoted_ident {s : String} (h : isPlainNumber s.toList = false) :
    IsUnquoted (.ident s) := by
  rintro t (ht | ht)
  · exact TokenKind.ident.inj ht ▸ h
  · cases ht

/-- No token of a query is a quoted numeral. -/
theorem isUnquoted_query (k : ElementKind) (more : List ElementKind) (f : Filter) :
    ∀ t ∈ .ident k.plural :: (QuerySyntax.moreKindTokens more ++ filterTokens f), IsUnquoted t := by
  have hplural : ∀ l : ElementKind, IsUnquoted (.ident l.plural) := by
    intro l
    cases l <;> exact isUnquoted_ident (by decide)
  refine List.forall_mem_cons.2 ⟨hplural k, List.forall_mem_append.2 ⟨fun t ht ↦ ?_, ?_⟩⟩
  · obtain ⟨l, -, ht⟩ := List.mem_flatMap.1 ht
    simp only [List.mem_cons, List.not_mem_nil, or_false] at ht
    rcases ht with rfl | rfl
    · exact isUnquoted_of_isText rfl
    · exact hplural l
  · rw [filterTokens]
    split
    · simp
    · exact List.forall_mem_cons.2 ⟨isUnquoted_ident (by decide), f.isUnquoted_filter⟩

theorem lexes_query {q : Query} {k : ElementKind} {more : List ElementKind}
    (hkinds : q.kinds.toList = k :: more) (hfilter : ∀ c ∈ q.filter.conditions, c.Writable) :
    Lexes q.text.toList
      (.ident k.plural :: (QuerySyntax.moreKindTokens more ++ filterTokens q.filter)) := by
  have hlex := lexes_kinds k more
  rw [← hkinds] at hlex
  rw [Query.text, filterTokens]
  split
  · rw [List.append_nil]
    exact hlex
  · have hchars : q.filter.text.toList = q.filter.chars := String.toList_ofList
    have htext : (q.kinds.text ++ " with " ++ q.filter.text).toList =
        q.kinds.text.toList ++ ' ' :: ("with".toList ++ ' ' :: q.filter.chars) := by
      rw [String.toList_append, String.toList_append, hchars, List.append_assoc]
      rfl
    rw [htext]
    exact hlex.spaced (lexes_with.spaced (Filter.lexes_filter hfilter))

namespace CompiledQuery

variable {q : Query}

/-- **The text of a query compiles to the query with its filter in normal form**, if the filter is
proper, its conditions can be written and no key is a numeral. -/
theorem compile_text_of_proper (hkinds : q.kinds.toList ≠ []) (hproper : q.filter.Proper)
    (hwritable : ∀ c ∈ q.filter.conditions, c.Writable)
    (hkeys : ∀ c ∈ q.filter.conditions, ∀ key ∈ c.key?, isPlainNumber key.toList = false) :
    compile q.text = .ok ⟨q.text, ⟨q.kinds, q.filter.simplify⟩, .conservative⟩ := by
  obtain ⟨k, more, hlist⟩ := List.exists_cons_of_ne_nil hkinds
  obtain ⟨-, e, he, htokens, htree⟩ := hasOperand_and_hasExpression hproper hwritable hkeys
  have hlex := lexes_query hlist hwritable
  rw [filterTokens, hproper.isAlways, ← htokens] at hlex
  refine compile_eq_ok_iff.2 ⟨⟨k, more, some e⟩, ?_, hlex, ?_⟩
  · intro e' he'
    cases he'
    exact he
  · have hkindSet : KindSet.ofList (k :: more) = q.kinds := by
      rw [← hlist, KindSet.ofList_toList]
    rw [QuerySyntax.query, QuerySyntax.kinds, hkindSet, ← htree]
    rfl

/-- The text of a query without conditions compiles to the query. -/
theorem compile_text_of_always (hkinds : q.kinds.toList ≠ []) (hfilter : q.filter = .always) :
    compile q.text = .ok ⟨q.text, q, .conservative⟩ := by
  obtain ⟨k, more, hlist⟩ := List.exists_cons_of_ne_nil hkinds
  obtain ⟨kinds, filter⟩ := q
  subst hfilter
  have hlex := lexes_query hlist (q := ⟨kinds, .always⟩) (by simp [Filter.conditions])
  refine compile_eq_ok_iff.2 ⟨⟨k, more, none⟩, by simp [QuerySyntax.Valid], hlex, ?_⟩
  have hkindSet : KindSet.ofList (k :: more) = kinds := by
    rw [← hlist, KindSet.ofList_toList]
  rw [QuerySyntax.query, QuerySyntax.kinds, hkindSet]
  rfl

/-! ## Compiled queries -/

/-- The filter of a compiled query. -/
theorem filter_of_compile {source : String} {c : CompiledQuery} (h : compile source = .ok c) :
    c.query.kinds.toList ≠ [] ∧ c.query.filter.Normal ∧
      (c.query.filter = .always ∨ c.query.filter.Proper) ∧
      ∀ condition ∈ c.query.filter.conditions, condition.Writable := by
  obtain ⟨s, hs, hlex, rfl⟩ := compile_eq_ok_iff.1 h
  obtain ⟨k, more, filter⟩ := s
  refine ⟨KindSet.toList_ofList_ne_nil k more, Filter.normal_simplify _, ?_⟩
  cases filter with
  | none =>
    refine ⟨.inl rfl, ?_⟩
    simp [QuerySyntax.query, QuerySyntax.tree, Filter.simplify, Filter.conditions]
  | some e =>
    refine ⟨.inr e.proper_tree.simplify, fun condition hc ↦ ?_⟩
    have hc : condition ∈ e.tree.simplify.conditions := hc
    rw [Filter.conditions_simplify e.proper_tree] at hc
    refine e.writable (fun t ht ↦ hlex.isNumeral (s := t) ?_) hc
    exact List.mem_cons_of_mem _ (List.mem_append_right _ (List.mem_cons_of_mem _ ht))

/-- A key of a query that compiles is no numeral if the text is that of a query. -/
theorem key_of_compile_text {q : Query} {c : CompiledQuery} (hkinds : q.kinds.toList ≠ [])
    (hwritable : ∀ condition ∈ q.filter.conditions, condition.Writable)
    (h : compile q.text = .ok c) {condition : Condition}
    (hc : condition ∈ c.query.filter.conditions) {key : String} (hkey : key ∈ condition.key?) :
    isPlainNumber key.toList = false := by
  obtain ⟨k, more, hlist⟩ := List.exists_cons_of_ne_nil hkinds
  obtain ⟨s, hs, hlex, rfl⟩ := compile_eq_ok_iff.1 h
  have htokens := hlex.unique (lexes_query hlist hwritable)
  obtain ⟨l, ls, filter⟩ := s
  cases filter with
  | none => cases hc
  | some e =>
    have hc : condition ∈ e.tree.simplify.conditions := hc
    rw [Filter.conditions_simplify e.proper_tree] at hc
    have hunquoted : ∀ t ∈ e.tokens, IsUnquoted t := by
      intro t ht
      refine isUnquoted_query k more q.filter t ?_
      rw [← htokens]
      exact List.mem_cons_of_mem _ (List.mem_append_right _ (List.mem_cons_of_mem _ ht))
    rcases e.key_mem_tokens hc hkey with ht | ht
    · exact hunquoted _ ht key (.inl rfl)
    · exact hunquoted _ ht key (.inr rfl)

/-- **A compiled query is read back from its text if and only if no key of it is a numeral.** -/
theorem compile_text_iff {source : String} {c : CompiledQuery} (h : compile source = .ok c) :
    (∃ c', compile c.query.text = .ok c' ∧ c'.query = c.query) ↔
      ∀ condition ∈ c.query.filter.conditions, ∀ key ∈ condition.key?,
        isPlainNumber key.toList = false := by
  obtain ⟨hkinds, hnormal, hfilter, hwritable⟩ := filter_of_compile h
  constructor
  · rintro ⟨c', hc', hquery⟩ condition hcondition key hkey
    rw [← hquery] at hcondition
    exact key_of_compile_text hkinds hwritable hc' hcondition hkey
  · intro hkeys
    rcases hfilter with hfilter | hproper
    · exact ⟨_, compile_text_of_always hkinds hfilter, rfl⟩
    · refine ⟨_, compile_text_of_proper hkinds hproper hwritable hkeys, ?_⟩
      rw [Filter.simplify_of_normal hnormal]

/-- A source that asks for a key. -/
theorem compile_key {f : String} {k : Key} (hlex : Lexes f.toList [k.token]) :
    compile ("nodes with " ++ f) = .ok ⟨"nodes with " ++ f,
      ⟨.ofList [.node], .condition (.hasKey k.text false)⟩, .conservative⟩ := by
  let e : OrExpr := .last (.last (.atom (.tagged k .present)))
  exact compile_nodes_with_iff.2 ⟨e, trivial, hlex, rfl⟩

/-- The theorem for the key `shop`, which is no numeral. -/
theorem compile_text_shop : ∃ c, compile "nodes with shop" = .ok c ∧
    ∃ c', compile c.query.text = .ok c' ∧ c'.query = c.query := by
  have hlex : Lexes "shop".toList [(Key.ident "shop").token] :=
    lexes_name ⟨_, _, rfl, by decide, by decide⟩ (by decide)
  have hiff := compile_text_iff (compile_key hlex)
  refine ⟨_, compile_key hlex, hiff.2 fun condition hc key hkey ↦ ?_⟩
  obtain rfl := List.mem_singleton.1 hc
  cases hkey
  decide

/-- With the key `12` in quotes a source compiles, but its text, where the key is not quoted, does
not compile to the same query. -/
theorem compile_text_numeral : ¬ ∀ (source : String) (c : CompiledQuery), compile source = .ok c →
    ∃ c', compile c.query.text = .ok c' ∧ c'.query = c.query := by
  intro hall
  have hlex : Lexes "\x2212\x22".toList [(Key.str "12").token] := lexes_quoted ['1', '2']
  have hcompile := compile_key hlex
  obtain ⟨hkinds, -, -, hwritable⟩ := filter_of_compile hcompile
  obtain ⟨c', hc', hquery⟩ := hall _ _ hcompile
  have hmem : Condition.hasKey "12" false ∈ c'.query.filter.conditions := by
    rw [hquery]
    exact List.mem_singleton.2 rfl
  have hnumeral := key_of_compile_text hkinds hwritable hc' hmem rfl
  exact absurd hnumeral (by decide)

end CompiledQuery

end SurveyQuests
