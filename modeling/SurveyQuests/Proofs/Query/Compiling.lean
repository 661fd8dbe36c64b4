import SurveyQuests.Query.Compiled
import SurveyQuests.Proofs.Filter.Lexing
import SurveyQuests.Proofs.Grammar.Derivation

/-!
# Which sources compile

A source compiles exactly if its text is made of tokens that have a derivation, and then to the
query of the derivation.  With this the lexer and the parser need not be opened any more: whether a
source compiles is a matter of `Lexes` and of the grammar.

## What is here

* `CompiledQuery.compile_eq_ok_iff` — for every source;
* `CompiledQuery.compile_nodes_with_iff` — for a source that asks for nodes with a filter.
-/

set_option autoImplicit false

namespace SurveyQuests.CompiledQuery

open Grammar

/-- **A source compiles exactly if its tokens have a derivation.** -/
theorem compile_eq_ok_iff {source : String} {c : CompiledQuery} :
    compile source = .ok c ↔
      ∃ s : QuerySyntax, s.Valid ∧ Lexes source.toList s.tokens ∧
        c = ⟨source, s.query, .conservative⟩ := by
  constructor
  · intro h
    rw [compile, Query.read, tokenize] at h
    cases hts : tokenizeFrom 0 source.toList with
    | error e =>
      rw [hts] at h
      cases h
    | ok ts =>
      rw [hts] at h
      dsimp only at h
      obtain ⟨us, e, rfl, hus, he, hlex⟩ := tokenizeFrom_eq_ok hts
      cases hq : parse (us ++ [e]) with
      | error e =>
        rw [hq] at h
        cases h
      | ok q =>
        rw [hq] at h
        cases h
        obtain ⟨s, hs, hst, rfl⟩ := (parse_eq_ok_iff hus he).1 hq
        exact ⟨s, hs, hst ▸ hlex, rfl⟩
  · rintro ⟨s, hs, hlex, rfl⟩
    obtain ⟨us, e, hts, hus, he⟩ := hlex.tokenizeFrom_eq_ok 0
    have hne : ∀ t ∈ us, t.kind ≠ .eof := by
      intro t ht
      refine hlex.ne_eof t.kind ?_
      rw [← hus]
      exact List.mem_map_of_mem ht
    have hq : parse (us ++ [e]) = .ok s.query := (parse_eq_ok_iff hne he).2 ⟨s, hs, hus.symm, rfl⟩
    rw [compile, Query.read, tokenize]
    rw [hts]
    dsimp only
    rw [hq]
    rfl

/-! ## Nodes with a filter -/

theorem lexes_nodes_with_iff {f : String} {ks : List TokenKind} :
    Lexes ("nodes with " ++ f).toList ks ↔
      ∃ ls, ks = .ident "nodes" :: .ident "with" :: ls ∧ Lexes f.toList ls := by
  have hlist : ("nodes with " ++ f).toList =
      "nodes".toList ++ ' ' :: ("with".toList ++ ' ' :: f.toList) := by
    rw [String.toList_append]
    rfl
  have hnodes : Lexes.IsWord "nodes".toList := ⟨_, _, rfl, by decide, by decide⟩
  have hwith : Lexes.IsWord "with".toList := ⟨_, _, rfl, by decide, by decide⟩
  have hnodesKind : wordKind (String.ofList "nodes".toList) = .ident "nodes" := by
    rw [String.ofList_toList]
    decide
  have hwithKind : wordKind (String.ofList "with".toList) = .ident "with" := by
    rw [String.ofList_toList]
    decide
  rw [hlist, Lexes.word_iff hnodes (Lexes.continuesName_space _), hnodesKind]
  constructor
  · rintro ⟨ls, rfl, hl⟩
    rw [Lexes.of_blank (by decide), Lexes.word_iff hwith (Lexes.continuesName_space _),
      hwithKind] at hl
    obtain ⟨ls, rfl, hl⟩ := hl
    exact ⟨ls, rfl, (Lexes.of_blank (by decide)).1 hl⟩
  · rintro ⟨ls, rfl, hl⟩
    refine ⟨_, rfl, ?_⟩
    rw [Lexes.of_blank (by decide), Lexes.word_iff hwith (Lexes.continuesName_space _), hwithKind]
    exact ⟨ls, rfl, (Lexes.of_blank (by decide)).2 hl⟩

/-- A query for nodes with a filter, as it is written. -/
def nodesWith (e : OrExpr) : QuerySyntax := ⟨.node, [], some e⟩

theorem eq_nodesWith {s : QuerySyntax} {ks : List TokenKind}
    (h : s.tokens = .ident "nodes" :: .ident "with" :: ks) :
    ∃ e : OrExpr, s = nodesWith e ∧ e.tokens = ks := by
  obtain ⟨k, more, f⟩ := s
  obtain ⟨hk, hrest⟩ := List.cons.inj h
  have hnode : k = .node := eq_of_plural hk
  subst hnode
  cases more with
  | cons l more => cases hrest
  | nil =>
    cases f with
    | none => cases hrest
    | some e => exact ⟨e, rfl, (List.cons.inj hrest).2⟩

/-- **A source for nodes with a filter compiles exactly if the text of the filter is made of the
tokens of an expression.** -/
theorem compile_nodes_with_iff {f : String} {c : CompiledQuery} :
    compile ("nodes with " ++ f) = .ok c ↔
      ∃ e : OrExpr, e.Valid ∧ Lexes f.toList e.tokens ∧
        c = ⟨"nodes with " ++ f, ⟨.ofList [.node], e.tree.simplify⟩, .conservative⟩ := by
  rw [compile_eq_ok_iff]
  constructor
  · rintro ⟨s, hs, hlex, rfl⟩
    obtain ⟨ks, hks, hlex⟩ := lexes_nodes_with_iff.1 hlex
    obtain ⟨e, rfl, rfl⟩ := eq_nodesWith hks
    exact ⟨e, hs e rfl, hlex, rfl⟩
  · rintro ⟨e, he, hlex, rfl⟩
    refine ⟨nodesWith e, ?_, lexes_nodes_with_iff.2 ⟨_, rfl, hlex⟩, rfl⟩
    intro e' he'
    cases he'
    exact he

end SurveyQuests.CompiledQuery
