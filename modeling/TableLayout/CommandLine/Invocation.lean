import TableLayout.Settings.Basic

/-!
# Invocations (specification §7.4)

What a user asks for on the command line.

- `Invocation`: a record to resolve, with the options given for it.
- `Command`: an invocation, or the question for the version.
- `RecordArguments.isNameable`: no file has a null character in its name, so arguments with such a
  name spell no command.
- `Command.ofArguments?`: the command that arguments spell. Options before the command's name are
  about the program, those after it about the record. An option takes its value from the text after
  an equals sign or from the next argument, and a short one also from the text behind its letter;
  the last value counts. After `--` all arguments are names of files.
-/

namespace TableLayout

/-- A record to resolve. -/
structure Invocation where
  /-- Whether events of all levels are logged. -/
  verbose : Bool
  /-- Whether log lines are objects with all fields. -/
  jsonLogs : Bool
  recordFile : String
  table : String
  settingsFile : Option String
  /-- The settings given as options. -/
  overrides : List (Datum × Datum)
  format : String

/-- What a user asks for. -/
inductive Command where
  | version
  | resolve (invocation : Invocation)

namespace Command

/-! ## Options about the program -/

/-- The options about the program. -/
structure ProgramOptions where
  version : Bool := false
  verbose : Bool := false
  jsonLogs : Bool := false

/-- Takes note of an option with a long name. -/
def ProgramOptions.long? (options : ProgramOptions) : String → Option ProgramOptions
  | "version" => some { options with version := true }
  | "verbose" => some { options with verbose := true }
  | "json-logs" => some { options with jsonLogs := true }
  | _ => none

/-- Takes note of an option with a letter. -/
def ProgramOptions.letter? (options : ProgramOptions) : Char → Option ProgramOptions
  | 'V' => some { options with version := true }
  | 'v' => some { options with verbose := true }
  | _ => none

/-! ## Options about a record -/

/-- An option with a value. -/
inductive ValueOption where
  | table | settings | keyMode | keyNames | whitelist | insertMode | format
deriving DecidableEq

namespace ValueOption

/-- The option with a long name. -/
def ofName? : String → Option ValueOption
  | "table" => some .table
  | "settings" => some .settings
  | "pk-mode" => some .keyMode
  | "pk-fields" => some .keyNames
  | "fields-whitelist" => some .whitelist
  | "insert-mode" => some .insertMode
  | "format" => some .format
  | _ => none

/-- The option with a letter. -/
def ofLetter? : Char → Option ValueOption
  | 't' => some .table
  | 's' => some .settings
  | 'f' => some .format
  | _ => none

end ValueOption

/-- The arguments about a record. -/
structure RecordArguments where
  files : List String := []
  /-- The values of options, the last one first. -/
  values : List (ValueOption × String) := []
  deleteEnabled : Option Bool := none

namespace RecordArguments

/-- Takes note of a file. -/
def file (arguments : RecordArguments) (name : String) : RecordArguments :=
  { arguments with files := arguments.files ++ [name] }

/-- Takes note of the value of an option. -/
def value (arguments : RecordArguments) (option : ValueOption) (text : String) : RecordArguments :=
  { arguments with values := (option, text) :: arguments.values }

/-- Takes note of a switch with a long name. -/
def switch? (arguments : RecordArguments) : String → Option RecordArguments
  | "delete-enabled" => some { arguments with deleteEnabled := some true }
  | "no-delete-enabled" => some { arguments with deleteEnabled := some false }
  | _ => none

/-- The settings given as options. -/
def overrides (arguments : RecordArguments) : List (Datum × Datum) :=
  let text := fun (key : String) (option : ValueOption) =>
    ((arguments.values.lookup option).map fun s => (Datum.text key, Datum.text s)).toList
  text "pk_mode" .keyMode ++ text "pk_fields" .keyNames ++ text "fields_whitelist" .whitelist
    ++ (arguments.deleteEnabled.map fun b => (Datum.text "delete_enabled", Datum.bool b)).toList
    ++ text "insert_mode" .insertMode

/-- Whether there can be files under the names given. -/
def isNameable (arguments : RecordArguments) : Bool :=
  let names := (arguments.values.lookup .settings).toList ++ arguments.files.head?.toList
  names.all fun name => !name.toList.contains '\x00'

/-- The invocation that the arguments make up, with exactly one file and a table. -/
def invocation? (options : ProgramOptions) (arguments : RecordArguments) : Option Invocation :=
  match arguments.files, arguments.values.lookup .table with
  | [recordFile], some table => some {
      verbose := options.verbose
      jsonLogs := options.jsonLogs
      recordFile, table
      settingsFile := arguments.values.lookup .settings
      overrides := arguments.overrides
      format := (arguments.values.lookup .format).getD "text" }
  | _, _ => none

end RecordArguments

/-! ## Reading arguments -/

/-- What an argument is, by its first characters. -/
inductive Argument where
  /-- `--`. -/
  | separator
  /-- `--name` or `--name=value`. -/
  | long (name : String) (value : Option String)
  /-- `-` and letters. -/
  | letters (first : Char) (rest : List Char)
  | plain (text : String)

/-- What an argument is. -/
def Argument.ofText (text : String) : Argument :=
  match text.toList with
  | ['-', '-'] => .separator
  | '-' :: '-' :: cs =>
    let (name, rest) := cs.span (· != '=')
    let value := if rest.isEmpty then none else some (String.ofList rest.tail)
    .long (String.ofList name) value
  | '-' :: c :: cs => .letters c cs
  -- A hyphen alone is a name as well.
  | _ => .plain text

/-- The arguments about a record. -/
def recordArguments? (arguments : RecordArguments) : List String → Option RecordArguments
  | [] => some arguments
  | text :: rest =>
    match Argument.ofText text with
    | .separator => some (rest.foldl .file arguments)
    | .plain name => recordArguments? (arguments.file name) rest
    | .long name (some value) =>
      match ValueOption.ofName? name with
      | some option => recordArguments? (arguments.value option value) rest
      | none => none
    | .long name none =>
      match ValueOption.ofName? name with
      | some option =>
        match rest with
        -- The next argument is the value even if it looks like an option.
        | value :: rest => recordArguments? (arguments.value option value) rest
        | [] => none
      | none =>
        match arguments.switch? name with
        | some arguments => recordArguments? arguments rest
        | none => none
    | .letters letter [] =>
      match ValueOption.ofLetter? letter, rest with
      | some option, value :: rest => recordArguments? (arguments.value option value) rest
      | _, _ => none
    | .letters letter value =>
      match ValueOption.ofLetter? letter with
      | some option => recordArguments? (arguments.value option (String.ofList value)) rest
      | none => none

/-- The options about the program at the beginning of arguments, and the arguments after them. -/
def programOptions? (options : ProgramOptions) :
    List String → Option (ProgramOptions × List String)
  | [] => some (options, [])
  | text :: rest =>
    match Argument.ofText text with
    | .plain _ => some (options, text :: rest)
    | .separator => some (options, rest)
    | .long name none =>
      match options.long? name with
      | some options => programOptions? options rest
      | none => none
    | .long _ (some _) => none
    | .letters letter letters =>
      match (letter :: letters).foldlM (fun options => options.letter?) options with
      | some options => programOptions? options rest
      | none => none

/-- The command under a name. Arguments after a separator that name no command are read again as
options about the program, of which only the question for the version is answered. -/
def named? (options : ProgramOptions) (name : String) (arguments : List String) :
    Option Command := do
  if name = "resolve" then
    let arguments ← recordArguments? {} arguments
    guard arguments.isNameable
    return .resolve (← arguments.invocation? options)
  else
    let (again, _) ← programOptions? {} (name :: arguments)
    if again.version then return .version else none

/-- The command that arguments spell. -/
def ofArguments? (arguments : List String) : Option Command := do
  let (options, rest) ← programOptions? {} arguments
  if options.version then return .version
  match rest with
  | [] => none
  | name :: rest => named? options name rest

end Command

end TableLayout
