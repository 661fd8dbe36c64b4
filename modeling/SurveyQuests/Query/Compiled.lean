import SurveyQuests.Query.Parser
import SurveyQuests.Query.Location

/-!
# Compiled queries

A source is compiled once and then holds or does not hold for any number of elements.  A compiled
query keeps its source, and the policy for dates that are known only in part.
-/

set_option autoImplicit false

namespace SurveyQuests

/-- Why a source does not compile. -/
inductive CompileError where
  | lexical (e : SyntaxError)
  | structural (e : ParseError)
deriving DecidableEq, Repr

namespace CompileError

/-- The byte offset of an error. -/
def position : CompileError → Nat
  | .lexical e => e.position
  | .structural e => e.position

/-- The text of an error. -/
def message : CompileError → String
  | .lexical e => e.message
  | .structural e => e.message

/-- Line and column of an error in its source. -/
def location (e : CompileError) (source : String) : Location :=
  Location.ofOffset source.toList e.position

end CompileError

/-- The query of a source. -/
def Query.read (source : String) : Except CompileError Query :=
  match tokenize source with
  | .error e => .error (.lexical e)
  | .ok tokens =>
    match parse tokens with
    | .error e => .error (.structural e)
    | .ok q => .ok q

/-- A query with its source and a policy. -/
structure CompiledQuery where
  source : String
  query : Query
  policy : PinningPolicy := .conservative

namespace CompiledQuery

/-- **The compiled query of a source**, with the cautious policy. -/
def compile (source : String) : Except CompileError CompiledQuery :=
  (Query.read source).map fun query ↦ { source, query }

/-- The compiled query with another policy. -/
def withPolicy (q : CompiledQuery) (policy : PinningPolicy) : CompiledQuery := { q with policy }

/-- **Does the query hold for the element**, seen from a day of reference? -/
def holds (q : CompiledQuery) (e : Element) (reference : Date) : Bool :=
  q.query.holds e ⟨reference, q.policy⟩

end CompiledQuery

end SurveyQuests
