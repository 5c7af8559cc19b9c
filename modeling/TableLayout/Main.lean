import Mathlib.Init
import TableLayout.CommandLine.Run
import TableLayout.Datum.Json
import TableLayout.Datum.JsonReader

/-!
# The program (specification §7.4)

Reads the files that the arguments name, which hold JSON, and the environment, runs the command and
prints how it ends. The exit code is zero for a report, two for arguments that spell no command, and
one for whatever else is wrong. Log lines bear the time at which they are printed.
-/

namespace TableLayout.Program

/-- What a path leads to. A failure to read tells whether there is a folder (code 21), a name that
is too long or nothing. -/
def entry (path : Path) : IO Entry := do
  try
    let text ← IO.FS.readFile path.text
    match Datum.ofJson? text with
    | some value => return .file value
    | none => throw (IO.userError s!"no JSON in file: {path.text}")
  catch
    | .noFileOrDirectory .. => return .missing
    | .inappropriateType _ code _ => return if code = 21 then .folder else .missing
    | .invalidArgument .. => return .tooLong
    | error => throw error

/-- The environment variables about settings. -/
def environment : IO (List (String × String)) :=
  Settings.keys.filterMapM fun name => do
    return (← IO.getEnv ("SINKFIELDS_" ++ Text.upper name)).map (name, ·)

/-- The files, the home of the user at work and the environment that a command finds. -/
def surroundings (arguments : List String) : IO Surroundings := do
  let own ← IO.getEnv "HOME"
  let home := fun user => if user = "" then own else none
  let entries ← (Run.paths home arguments).mapM fun path => return (path, ← entry path)
  return {
    entry := fun path => (entries.lookup path).getD .missing
    home
    environment := ← environment
    -- The settings are checked here and not by a validator, so there is no more to say.
    remarks := fun _ => "]" }

/-- A log line as an object: the fields of the event, its name, its level and the time. -/
def objectLine (time : String) (level : Level) (event : String) (fields : List (String × Datum)) :
    String :=
  let own := [("event", Datum.text event), ("level", .text level.text), ("timestamp", .text time)]
  let parts := (fields ++ own).map fun (name, value) =>
    Datum.jsonQuoted name ++ ": " ++ (value.jsonText.toOption.getD "null")
  "\x7b" ++ String.intercalate ", " parts ++ "\x7d"

/-- A log line for a console: the time, the level and the name of the event in columns of fixed
widths, and then the fields by their names. -/
def consoleLine (time : String) (level : Level) (event : String) (fields : List (String × Datum)) :
    String :=
  let sorted := fields.mergeSort fun a b => a.1 ≤ b.1
  let parts := sorted.map fun (name, value) => name ++ "=" ++ value.shown
  let head := s!"{time} [{Report.padded 9 level.text}] {Report.padded 30 event}"
  String.intercalate " " (head :: parts)

/-- The time now, to the microsecond. -/
def now : IO String := do
  let time := Std.Time.DateTime.ofTimestamp (← Std.Time.Timestamp.now) .UTC
  return time.format "uuuu-MM-dd'T'HH:mm:ss.SSSSSS'Z'"

/-- Tells how a command ends: its log and complaints apart from what it prints. -/
def report (outcome : Outcome) : IO UInt32 := do
  let time ← now
  outcome.log.forM fun line => IO.eprintln (line.text ⟨objectLine, consoleLine⟩ time)
  outcome.output?.forM fun text => IO.println text
  outcome.complaint?.forM fun text => IO.eprintln text
  return outcome.exitCode

end TableLayout.Program

/-- Runs the command that the arguments spell. -/
def main (arguments : List String) : IO UInt32 := do
  try
    let surroundings ← TableLayout.Program.surroundings arguments
    TableLayout.Program.report (TableLayout.run surroundings arguments)
  catch error =>
    IO.eprintln s!"Error: {error}"
    return 1
