import TableLayout.CommandLine.FileTree
import TableLayout.CommandLine.Invocation
import TableLayout.Logging
import TableLayout.RecordFile
import TableLayout.Report
import TableLayout.Resolve
import TableLayout.Settings.Source
import TableLayout.Text.Plain

/-!
# Running commands (specification §7.4)

- `Settings.resolve`: the layout for a record under settings.
- `Surroundings`: the files, the homes of users and the environment that a command finds, and what
  the validator of settings remarks.
- `Run.paths`: the paths of the files that a command reads.
- `Run.locate`: what the name of a file leads to.
- `Run.recordFile`: what the name of a record file leads to, if it can be looked at.
- `Outcome`, `run`: how a command ends: with a text, with a message, or not at all in order.
- `Outcome.exitCode`, `Outcome.output?`, `Outcome.complaint?`, `Outcome.log`: what the caller of a
  command is told.

Commands write whole numbers of any length.
-/

namespace TableLayout

/-- The layout of a table for a record under settings, where whole numbers of `digits` digits at
most can be written. -/
def Settings.resolve (settings : Settings) (table : String) (record : Record)
    (digits : Option Nat := none) : Resolution :=
  TableLayout.resolve (.text settings.keyMode.text) settings.whitelist {
    table
    key := record.key
    value := record.value
    configured := settings.keyNames
    headers := record.headers
    deleteEnabled := settings.deleteEnabled
    insertMode := settings.insertMode
    digits }

/-- The files, the homes of users and the environment that a command finds. -/
structure Surroundings where
  /-- What a path leads to. -/
  entry : Path → Entry
  /-- The home of a user, if it is known. -/
  home : String → Option String
  /-- The environment variables about settings, without what comes before their names. -/
  environment : List (String × String)
  /-- What the validator of settings says about a violation after its kind: the value that was
  given, and where to read on. -/
  remarks : Violation → String

/-- Why a file cannot be looked at or read. -/
inductive FileError where
  /-- The path begins in the home of a user that is not known. -/
  | homeless
  | tooLong (path : Path)
  | folder (path : Path)

/-- The words for an error with a file. -/
def FileError.message : FileError → String
  | .homeless => "Could not determine home directory."
  | .tooLong path => s!"[Errno 36] File name too long: {Text.quoted path.text}"
  | .folder path => s!"[Errno 21] Is a directory: {Text.quoted path.text}"

/-- Why a command ends without a report. -/
inductive Crash where
  | file (error : FileError)
  /-- The settings file is no data to report on. -/
  | settings (error : Settings.LoadError)
  /-- The record file is no data to report on. -/
  | record (error : RecordError)
  /-- A key in a default value has no form in JSON. -/
  | jsonKey (kind : Datum.Kind)
  | defect (defect : Defect)

/-- The words for a crash. -/
def Crash.message : Crash → String
  | .file error => error.message
  | .settings error => error.headline
  | .record error => error.message
  | .jsonKey kind => s!"keys must be str, int, float, bool or None, not {kind.name}"
  | .defect reason => reason.message

/-- How a command ends. -/
inductive Outcome where
  /-- The arguments spell no command. -/
  | usage
  /-- The command prints a text. -/
  | printed (text : String) (log : List Logging.Line)
  /-- The command says what is wrong. -/
  | failed (message : String) (log : List Logging.Line)
  | crashed (crash : Crash)

namespace Outcome

/-- The exit code of a command. -/
def exitCode : Outcome → UInt32
  | .printed .. => 0
  | .failed .. | .crashed _ => 1
  | .usage => 2

/-- What a command prints. -/
def output? : Outcome → Option String
  | .printed text _ => some text
  | _ => none

/-- What a command says of errors, apart from its log. -/
def complaint? : Outcome → Option String
  | .printed .. => none
  | .failed message _ => some ("Error: " ++ message)
  | .crashed crash => some crash.message
  | .usage => some "Usage: sinkfields [OPTIONS] resolve [OPTIONS] RECORD_FILE"

/-- What a command logs. -/
def log : Outcome → List Logging.Line
  | .printed _ log | .failed _ log => log
  | .crashed _ | .usage => []

end Outcome

namespace Run

/-- The outcome for a message about what is wrong. Colours are for terminals only. -/
def failed (message : String) (log : List Logging.Line) : Outcome :=
  .failed (Text.plain message) log

/-- The outcome for a text to print. -/
def printed (text : String) (log : List Logging.Line) : Outcome :=
  .printed (Text.plain text) log

/-! ## Files -/

/-- The paths of the files that the command reads which arguments spell. -/
def paths (home : String → Option String) (arguments : List String) : List Path :=
  match Command.ofArguments? arguments with
  | some (.resolve invocation) =>
    (invocation.settingsFile.toList ++ [invocation.recordFile]).filterMap fun name =>
      (Path.ofText name).fromHome? home
  | _ => []

/-- What the name of a file leads to, with its path. -/
def locate (surroundings : Surroundings) (name : String) : Except FileError (Path × Entry) :=
  match (Path.ofText name).fromHome? surroundings.home with
  | none => .error .homeless
  | some path => match surroundings.entry path with
    | .tooLong => .error (.tooLong path)
    | entry => .ok (path, entry)

/-- Logging for an invocation, after one call at the start. -/
def logging (invocation : Invocation) : Logging :=
  Logging.initial.run [(invocation.jsonLogs, if invocation.verbose then "DEBUG" else "WARNING")]

/-! ## Settings and records -/

/-- The outcome for settings that cannot be loaded. -/
def settingsOutcome (remarks : Violation → String) (error : Settings.LoadError) : Outcome :=
  if error.isMisuse then .crashed (.settings error) else failed (error.message remarks) []

/-- The outcome for a record that cannot be loaded. -/
def recordOutcome (error : RecordError) : Outcome :=
  if error.isMisuse then .crashed (.record error) else failed error.message []

/-- What a settings file holds; a folder holds no settings. -/
def settingsContents : Entry → Option Datum
  | .folder => some .null
  | .file contents => some contents
  | _ => none

/-- The settings that hold before options. -/
def baseSettings (surroundings : Surroundings) (invocation : Invocation) :
    Except Outcome Settings :=
  match invocation.settingsFile with
  | none => .ok {}
  | some name => do
    let (path, entry) ← (locate surroundings name).mapError fun error => .crashed (.file error)
    (Settings.load path.text (settingsContents entry) surroundings.environment).mapError
      (settingsOutcome surroundings.remarks)

/-- The settings of an invocation. -/
def settings (surroundings : Surroundings) (invocation : Invocation) : Except Outcome Settings := do
  let base ← baseSettings surroundings invocation
  -- The options are checked along with the settings that they are laid over.
  (base.override invocation.overrides).mapError fun error =>
    settingsOutcome surroundings.remarks (.settings error)

/-- The path that the name of a record file leads to, and what the file holds if it is there; a
folder cannot be read. -/
def recordFile (surroundings : Surroundings) (name : String) :
    Except FileError (Path × Option Datum) := do
  match ← locate surroundings name with
  | (path, .folder) => .error (.folder path)
  | (path, .file contents) => .ok (path, some contents)
  | (path, _) => .ok (path, none)

/-- The record of an invocation. -/
def record (surroundings : Surroundings) (invocation : Invocation) : Except Outcome Record := do
  let (path, contents) ← (recordFile surroundings invocation.recordFile).mapError fun error =>
    .crashed (.file error)
  (Record.load path.text contents).mapError recordOutcome

/-! ## Outcomes -/

/-- The outcome for a layout. -/
def report (invocation : Invocation) (mode : KeyMode) (layout : Layout)
    (log : List Logging.Line) : Outcome :=
  if invocation.format = "json" then
    match Report.json invocation.table mode layout with
    | .ok text => printed text log
    | .error kind => .crashed (.jsonKey kind)
  else match Report.text invocation.table mode layout with
    | .ok text => printed text log
    | .error defect => .crashed (.defect defect)

/-- The outcome for a record. -/
def resolve (invocation : Invocation) (settings : Settings) (record : Record) : Outcome :=
  let resolution := settings.resolve invocation.table record
  let log := (logging invocation).linesOf resolution.events
  match resolution.outcome with
  | .ok layout => report invocation settings.keyMode layout log
  | .error (.rejected rejection) => failed rejection.message log
  | .error (.defect defect) => .crashed (.defect defect)

/-- The settings and the record of an invocation, or why there are none. -/
def inputs (surroundings : Surroundings) (invocation : Invocation) :
    Except Outcome (Settings × Record) := do
  -- Where both files are at fault, the settings are complained about.
  let settings ← settings surroundings invocation
  return (settings, ← record surroundings invocation)

/-- The outcome of an invocation. -/
def outcome (surroundings : Surroundings) (invocation : Invocation) : Outcome :=
  if invocation.format ≠ "text" ∧ invocation.format ≠ "json" then
    -- No file is looked at for a format that is not known.
    failed s!"Unknown format '{invocation.format}'. Expected 'text' or 'json'." []
  else match inputs surroundings invocation with
    | .error outcome => outcome
    | .ok (settings, record) => resolve invocation settings record

end Run

/-- The text that names the version. -/
def versionText : String := "sinkfields version 0.1.0"

/-- How the command that arguments spell ends. -/
def run (surroundings : Surroundings) (arguments : List String) : Outcome :=
  match Command.ofArguments? arguments with
  | none => .usage
  | some .version => .printed versionText []
  | some (.resolve invocation) => Run.outcome surroundings invocation

end TableLayout
