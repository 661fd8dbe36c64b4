import SurveyQuests.Scan.Basic

/-!
# Running the command

A run loads a catalog, and then, unless it is only to check the catalog, scans an input and writes
the rows to an output.  The output is not touched before everything else is ready: the catalog is
loaded and compiled and the input is open.

Files are seen through `Files`: what they hold, and where a file can be created.  `run` tells in one
go what comes of it all; `RunReport.output` says what the output holds in the end, if it was
touched.  How a run comes to its end, and what becomes of the files on the way, is the matter of
`SurveyQuests.Command.Course`.

## What is here

* `CommandLine`, `CommandLine.settings` — what is asked for, and what it amounts to;
* `RunError`, `Warning` — what can go wrong, and what is worth a warning;
* `Files`, `Files.put` — what a run sees of files;
* `loadCatalog` — the catalog of a run;
* `run` — a run.
-/

set_option autoImplicit false

namespace SurveyQuests

/-- What a run is asked for. -/
structure CommandLine where
  /-- The file of the catalog. -/
  quests : String
  /-- The file of element records. -/
  input : Option String := none
  /-- The file for the rows. -/
  output : String
  /-- The day of reference. -/
  reference : Date
  /-- The country that quests have to be offered in. -/
  country : Option String := none
  /-- Is a filter that does not compile an error? -/
  strict : Bool := false
  /-- Is the catalog only to be checked? -/
  check : Bool := false
  /-- The number of lines of a batch. -/
  batchSize : Nat := 4096

/-- What governs a run. -/
structure Settings where
  reference : Date
  country : Option String
  strict : Bool
  batchSize : Nat
deriving DecidableEq

/-- The settings of a run: to check a catalog is to be strict, and a batch has at least one line. -/
def CommandLine.settings (c : CommandLine) : Settings :=
  ⟨c.reference, c.country, c.strict || c.check, max 1 c.batchSize⟩

/-- What a run sees of the files around it. -/
structure Files where
  /-- The bytes of a file that can be read. -/
  content? : String → Option (List UInt8)
  /-- Can a file be created? -/
  canCreate : String → Bool

/-- The files after one of them was created, or written. -/
def Files.put (files : Files) (path : String) (bytes : List UInt8) : Files :=
  { files with content? := fun other ↦ if other = path then some bytes else files.content? other }

/-! ## Errors and warnings -/

/-- Why a run fails. -/
inductive RunError where
  | catalogNotLoaded (path : String)
  | filterFault (fault : FilterFault)
  | noInput
  | inputNotOpened (path : String)
  | outputNotCreated (path : String)
  | scanFailed (e : ScanError)
  /-- The rows that were kept back could not be written. -/
  | outputNotFinished
deriving DecidableEq, Repr

/-- The text of an error. -/
def RunError.message : RunError → String
  | .catalogNotLoaded path => "Config: Failed to load quest catalog " ++ Quoted.quoted path
  | .filterFault fault => fault.message
  | .noInput => "CLI: --input is required unless --check is given"
  | .inputNotOpened path => "CLI: Failed to open input file " ++ Quoted.quoted path
  | .outputNotCreated path => "CLI: Failed to create output file " ++ Quoted.quoted path
  | .scanFailed e => e.message
  | .outputNotFinished => "Pipeline: Failed to finalize sink"

/-- What a warning is given about. -/
inductive Warning where
  /-- A quest is left out. -/
  | skippedQuest (fault : FilterFault)
  /-- No quest is left. -/
  | noQuest
  /-- A line holds no record. -/
  | malformedLine (number : Nat)
  /-- Lines held no record. -/
  | malformedLines (count : Nat)
deriving DecidableEq, Repr

/-- The error of a line that holds no record.  What the library that reads JSON has to say about the
line, which would follow a colon, is left out. -/
def invalidRecordMessage : String := "Pipeline: Invalid element record"

/-- The text of a warning. -/
def Warning.message : Warning → String
  | .skippedQuest fault => fault.warning
  | .noQuest => "Quests: No quest left to run"
  | .malformedLine number =>
    "Pipeline: Skipping malformed record on line " ++ toString number ++ ": " ++
      invalidRecordMessage
  | .malformedLines count =>
    "Pipeline: " ++ toString count ++ " malformed record(s) skipped"

/-- The warnings about a catalog. -/
def Catalog.warnings (catalog : Catalog) : List Warning := catalog.faults.map .skippedQuest

/-! ## A run -/

/-- The definition of a catalog that is written as JSON. -/
def CatalogDefinition.ofBytes? (bytes : List UInt8) : Option CatalogDefinition :=
  (decodeText? bytes).bind Json.read? |>.bind (ofJson? .settings)

/-- The catalog of a run whose definition was read: compiled and cut down to the country. -/
def CommandLine.catalog (c : CommandLine) (definition? : Option CatalogDefinition) :
    Except RunError Catalog :=
  match definition? with
  | none => .error (.catalogNotLoaded c.quests)
  | some definition =>
    match Catalog.compile definition c.settings.strict with
    | .error fault => .error (.filterFault fault)
    | .ok catalog =>
      match c.settings.country with
      | some country => .ok (catalog.retain country)
      | none => .ok catalog

/-- The catalog of a run from the bytes of its file, if it can be read. -/
def loadCatalog (c : CommandLine) (content : Option (List UInt8)) : Except RunError Catalog :=
  c.catalog (content.bind CatalogDefinition.ofBytes?)

/-- What a run leaves behind. -/
structure RunReport where
  /-- The totals of the scan, if there was one. -/
  result : Except RunError (Option ScanSummary)
  /-- The rows that the output holds, if it was touched. -/
  output : Option (List Row) := none
  warnings : List Warning := []

/-- Scans an input with a catalog. -/
def scanInput (c : CommandLine) (catalog : Catalog) (bytes : List UInt8) :
    Except Abort ScanOutcome :=
  scan ⟨catalog, c.settings.reference⟩ .reliable (.ofBytes bytes c.settings.batchSize)

/-- The report of a run that has scanned its input. -/
def scanReport (outcome : ScanOutcome) (warnings : List Warning) : RunReport :=
  let warnings := warnings ++ outcome.malformed.map .malformedLine
  match outcome.result with
  | .error e => ⟨.error (.scanFailed e), some outcome.accepted, warnings⟩
  | .ok summary =>
    let total := if summary.malformed = 0 then [] else [Warning.malformedLines summary.malformed]
    ⟨.ok (some summary), some outcome.accepted, warnings ++ total⟩

/-- **A run.** -/
def run (files : Files) (c : CommandLine) : Except Abort RunReport :=
  match loadCatalog c (files.content? c.quests) with
  | .error e => .ok { result := .error e }
  | .ok catalog =>
    let warnings := catalog.warnings
    if c.check then .ok { result := .ok none, warnings }
    else
      match c.input with
      | none => .ok { result := .error .noInput, warnings }
      | some input =>
        let warnings := warnings ++ if catalog.quests.isEmpty then [.noQuest] else []
        match files.content? input with
        | none => .ok { result := .error (.inputNotOpened input), warnings }
        | some _ =>
          if files.canCreate c.output then
            -- The input is read after the output was created, which may be the same file.
            let bytes := ((files.put c.output []).content? input).getD []
            (scanInput c catalog bytes).map fun outcome ↦ scanReport outcome warnings
          else .ok { result := .error (.outputNotCreated c.output), warnings }

end SurveyQuests
