import SurveyQuests.Scan.Row

/-!
# Where rows go

A sink takes rows one by one.  It may refuse a row, with an error or by a panic, which may carry a
text; a row that it takes is accepted for good.  `Sink.write` gives it rows until it refuses one:
no row is given to it after that.
-/

set_option autoImplicit false

namespace SurveyQuests

/-- How a sink refuses a row. -/
inductive SinkFailure where
  | error (message : String)
  | panic (payload : Option String)
deriving DecidableEq, Repr

/-- A sink, described by the failure that the next row meets, if any, after the rows that it has
accepted. -/
structure Sink where
  failure? : List Row → Row → Option SinkFailure

/-- What has come of the rows given to a sink. -/
structure Written where
  /-- The rows that were accepted, the first one first. -/
  accepted : List Row
  failure : Option SinkFailure := none
deriving DecidableEq

namespace Sink

/-- The sink that accepts every row. -/
def reliable : Sink := ⟨fun _ _ ↦ none⟩

/-- The sink that accepts a number of rows and refuses the next one. -/
def failingAfter (count : Nat) (failure : Row → SinkFailure) : Sink :=
  ⟨fun accepted row ↦ if accepted.length < count then none else some (failure row)⟩

/-- Gives rows to a sink that has accepted some already, up to the first one that it refuses. -/
def write (sink : Sink) (accepted : List Row) : List Row → Written
  | [] => { accepted }
  | row :: rows =>
    match sink.failure? accepted row with
    | some failure => { accepted, failure := some failure }
    | none => sink.write (accepted ++ [row]) rows

end Sink

end SurveyQuests
