import SurveyQuests.Command.Arguments

/-!
# The command line

The program reads its arguments, the catalog and the input, and writes the rows.  What it does with
them is `run` and its parts; here files are opened and messages printed.  A minus sign as a path
stands for standard input or standard output.
-/

set_option autoImplicit false

open SurveyQuests

namespace SurveyQuests.Terminal

/-- Prints a message for the user. -/
def say (text : String) : IO Unit := do
  (← IO.getStderr).putStrLn text

/-- Opens a file to read it, if that can be done. -/
def openInput? (path : String) : IO (Option IO.FS.Stream) := do
  try
    if path = "-" then return some (← IO.getStdin)
    else return some (IO.FS.Stream.ofHandle (← IO.FS.Handle.mk path .read))
  catch _ => return none

/-- Reads all that is left of a file, if it can be read. -/
def readAll? (file : IO.FS.Stream) : IO (Option (List UInt8)) := do
  try
    let mut bytes := ByteArray.empty
    repeat
      let chunk ← file.read 65536
      if chunk.isEmpty then break
      bytes := bytes ++ chunk
    return some bytes.toList
  catch _ => return none

/-- Reads a file, if it can be read. -/
def readBytes? (path : String) : IO (Option (List UInt8)) := do
  try return some (← IO.FS.readBinFile path).toList
  catch _ => return none

/-- Opens the output, if it can be created. -/
def openOutput? (path : String) : IO (Option IO.FS.Stream) := do
  try
    if path = "-" then return some (← IO.getStdout)
    else return some (IO.FS.Stream.ofHandle (← IO.FS.Handle.mk path .write))
  catch _ => return none

/-- Ends with an error. -/
def giveUp (e : RunError) : IO UInt32 := do
  say ("Error: " ++ e.message)
  return 1

/-- Writes rows, and tells whether all of them have been written. -/
def writeRows (out : IO.FS.Stream) (rows : List Row) : IO Bool := do
  try
    out.putStr (Row.linesText rows)
    out.flush
    return true
  catch _ => return false

/-- Scans an input with a catalog, and writes the rows. -/
def scanTo (c : CommandLine) (catalog : Catalog) (bytes : List UInt8) (out : IO.FS.Stream) :
    IO UInt32 := do
  match scanInput c catalog bytes with
  | .error .beyondCalendar =>
    say "Error: an edit lies beyond the calendar"
    return 101
  | .error .capacityOverflow =>
    say "Error: a batch has no room"
    return 101
  | .ok outcome =>
    if ← writeRows out outcome.accepted then
      let report := scanReport outcome []
      report.warnings.forM fun w ↦ say w.message
      match report.result with
      | .ok _ => return 0
      | .error e => giveUp e
    else giveUp .outputNotFinished

/-- Runs the command.  The input is open before the output is created, and read afterwards. -/
def perform (c : CommandLine) : IO UInt32 := do
  match loadCatalog c (← readBytes? c.quests) with
  | .error e => giveUp e
  | .ok catalog =>
    catalog.warnings.forM fun w ↦ say w.message
    if c.check then return 0
    match c.input with
    | none => giveUp .noInput
    | some input =>
      if catalog.quests.isEmpty then say Warning.noQuest.message
      match ← openInput? input with
      | none => giveUp (.inputNotOpened input)
      | some file =>
        match ← openOutput? c.output with
        | none => giveUp (.outputNotCreated c.output)
        | some out =>
          match ← readAll? file with
          | none => giveUp (.scanFailed (.workersFailed .read))
          | some bytes => scanTo c catalog bytes out

end SurveyQuests.Terminal

/-- Runs the program. -/
def main (arguments : List String) : IO UInt32 := do
  match (Arguments.read arguments).bind Arguments.commandLine with
  | .error e =>
    SurveyQuests.Terminal.say ("error: " ++ e.message)
    return 2
  | .ok c => SurveyQuests.Terminal.perform c
