import SurveyQuests.Command.Basic

/-!
# Arguments of the command

The arguments are options, in any order.  An option that takes a value has it behind an equals sign
or as the next argument; some options have a short form.

## What is here

* `UsageError` — what can be wrong with arguments;
* `Arguments`, `Arguments.read` — the options that were given;
* `Arguments.commandLine` — what a run is asked for.
-/

set_option autoImplicit false

namespace SurveyQuests

/-- What can be wrong with arguments. -/
inductive UsageError where
  /-- An argument is no option, or it has a value that it cannot take. -/
  | unexpected (argument : String)
  /-- An option stands without its value. -/
  | valueMissing (option : String)
  /-- An option has a value that cannot be read. -/
  | invalidValue (option value reason : String)
  /-- An option has to be given. -/
  | required (option : String)
deriving DecidableEq, Repr

/-- The text of an error. -/
def UsageError.message : UsageError → String
  | .unexpected argument => "unexpected argument '" ++ argument ++ "'"
  | .valueMissing option => "a value is required for '" ++ option ++ "'"
  | .invalidValue option value reason =>
    "invalid value '" ++ value ++ "' for '" ++ option ++ "': " ++ reason
  | .required option => "'" ++ option ++ "' was not provided"

/-- The day of reference that a text names. -/
def readReference (value : String) : Except String Date :=
  match Date.readIso? value.toList with
  | some d => .ok d
  | none => .error ("invalid date '" ++ value ++ "', expected YYYY-MM-DD")

/-- The count that a text names: digits, perhaps with a plus sign in front, for a word of 64
bits. -/
def readCount (value : String) : Except String Nat :=
  let digits :=
    match value.toList with
    | '+' :: rest => rest
    | cs => cs
  if digits.isEmpty then .error "cannot parse integer from empty string"
  else if digits.all Char.isDigit then
    let n := Decimal.ofDigits digits
    if n < Nat.pow 2 64 then .ok n else .error "number too large to fit in target type"
  else .error "invalid digit found in string"

/-- The options that were given. -/
structure Arguments where
  quests : Option String := none
  input : Option String := none
  output : Option String := none
  date : Option Date := none
  country : Option String := none
  batchSize : Option Nat := none
  threads : Option Nat := none
  strict : Bool := false
  check : Bool := false
  verbose : Bool := false

namespace Arguments

/-- Sets an option that takes a value. -/
def setValue (a : Arguments) (option value : String) : Except UsageError Arguments :=
  let reason {α : Type} (r : Except String α) : Except UsageError α :=
    r.mapError fun text ↦ .invalidValue option value text
  match option with
  | "--quests" => .ok { a with quests := some value }
  | "--input" => .ok { a with input := some value }
  | "--output" => .ok { a with output := some value }
  | "--country" => .ok { a with country := some value }
  | "--date" => (reason (readReference value)).map fun d ↦ { a with date := some d }
  | "--batch-size" => (reason (readCount value)).map fun n ↦ { a with batchSize := some n }
  | "--threads" => (reason (readCount value)).map fun n ↦ { a with threads := some n }
  | _ => .error (.unexpected option)

/-- The options that take a value. -/
def valueOptions : List String :=
  ["--quests", "--input", "--output", "--country", "--date", "--batch-size", "--threads"]

/-- Sets an option that takes no value. -/
def setFlag (a : Arguments) (option : String) : Except UsageError Arguments :=
  match option with
  | "--strict" => .ok { a with strict := true }
  | "--check" => .ok { a with check := true }
  | "--verbose" => .ok { a with verbose := true }
  | _ => .error (.unexpected option)

/-- The long form of an option. -/
def longForm (option : String) : String :=
  match option with
  | "-q" => "--quests"
  | "-i" => "--input"
  | "-o" => "--output"
  | "-t" => "--threads"
  | "-v" => "--verbose"
  | _ => option

/-- Splits an argument at its first equals sign. -/
def splitAtEquals (argument : String) : String × Option String :=
  let cs := argument.toList
  match cs.dropWhile (· != '=') with
  | [] => (argument, none)
  | _ :: value => (String.ofList (cs.takeWhile (· != '=')), some (String.ofList value))

/-- Reads arguments, on top of the options given before. -/
def readFrom (a : Arguments) : List String → Except UsageError Arguments
  | [] => .ok a
  | argument :: rest =>
    let (name, attached) := splitAtEquals argument
    let option := longForm name
    match valueOptions.contains option, attached with
    | true, some value =>
      match a.setValue option value with
      | .ok a => a.readFrom rest
      | .error e => .error e
    | true, none =>
      match rest with
      | [] => .error (.valueMissing option)
      | value :: rest =>
        match a.setValue option value with
        | .ok a => a.readFrom rest
        | .error e => .error e
    | false, some _ => .error (.unexpected argument)
    | false, none =>
      match a.setFlag option with
      | .ok a => a.readFrom rest
      | .error e => .error e

/-- **The options of a list of arguments.** -/
def read (arguments : List String) : Except UsageError Arguments := readFrom {} arguments

/-- What a run is asked for.  The catalog and the day of reference have to be given, since a run
looks at no clock. -/
def commandLine (a : Arguments) : Except UsageError CommandLine :=
  match a.quests, a.date with
  | none, _ => .error (.required "--quests")
  | _, none => .error (.required "--date")
  | some quests, some reference =>
    .ok {
      quests
      input := a.input
      output := a.output.getD "-"
      reference
      country := a.country
      strict := a.strict
      check := a.check
      batchSize := a.batchSize.getD 4096 }

end Arguments

end SurveyQuests
