import TableLayout.Datum.Printed
import TableLayout.Settings.Reader
import TableLayout.Text.Upper
import TableLayout.Toml.Document

/-!
# Settings from a file and the environment (specification §7.3)

- `Settings.Source.valueOf`: the value that the text of an environment variable stands for: what
  TOML reads in it, or else the text itself.
- `Settings.Source.place`: where a value goes: a key with a point leads into a map under the part
  before the point.
- `Settings.Source.entries`: the entries of a file, with those of the environment in their place;
  neither the case of keys nor the blanks around them count.
- `Settings.load`: the settings of a file and the environment (`load_settings`).
-/

namespace TableLayout.Settings

/-- Why settings cannot be loaded. -/
inductive LoadError where
  | missing (path : String)
  /-- The file holds neither a map nor a value that counts as false. -/
  | noEntries (kind : Datum.Kind)
  | settings (error : SettingsError)
deriving DecidableEq, Repr

namespace LoadError

/-- The first line of the words for an error. -/
def headline : LoadError → String
  | .missing path => s!"Config file not found: {path}"
  | .noEntries kind => s!"'{kind.name}' object has no attribute 'get'"
  | .settings error => error.headline

/-- The words for an error. Those for settings show what the validator remarks. -/
def message (remarks : Violation → String) : LoadError → String
  | .settings error => error.message remarks
  | error => error.headline

/-- Whether the error is no report on the settings. -/
def isMisuse : LoadError → Bool
  | .noEntries _ => true
  | _ => false

end LoadError

namespace Source

/-! ## Values -/

/-- The name that a variable's text is given to in a document. -/
def variableName : String := "key"

/-- A text with truth values in the letters that documents know. -/
def lowerSwitch (s : String) : String :=
  if Text.strip s ∈ ["True", "False"] then Text.lower s else s

/-- The value that the text of a variable stands for. -/
def valueOf (s : String) : Datum :=
  let s := lowerSwitch s
  (Toml.valueUnder? variableName (variableName ++ "=" ++ s)).getD (.text s)

/-! ## Keys -/

/-- Characters with a point for every two underscores. -/
def nestingPoints : List Char → List Char
  | '_' :: '_' :: cs => '.' :: nestingPoints cs
  | c :: cs => c :: nestingPoints cs
  | [] => []

/-- The key that a name stands for, and whether it leads into a map under that key. -/
def place (name : String) : String × Bool :=
  let (first, rest) := (nestingPoints name.toList).span (· != '.')
  (Text.upper (Text.strip (String.ofList first)), !rest.isEmpty)

/-- Puts a value in its place. What a map under a key holds is not looked at any more. -/
def put (entries : List (Datum × Datum)) (name : String) (value : Datum) : List (Datum × Datum) :=
  match place name with
  | (key, false) => Datum.put entries (.text key) value
  | (key, true) => Datum.put entries (.text key) (.map [(.text name, value)])

/-- The keys about reading a file. -/
def ownKeys : List String :=
  ["LOAD_DOTENV", "ENVIRONMENTS", "SETTINGS_FILES", "DYNACONF_NAMESPACE",
    "DYNACONF_SETTINGS_MODULE", "DYNACONF_SETTINGS", "SETTINGS_MODULE", "PROJECT_ROOT",
    "DYNACONF_SILENT_ERRORS", "DYNACONF_ALWAYS_FRESH_VARS", "RENAMED_VARS"]

/-- The first parts of more such keys. -/
def ownTopics : List String :=
  ["ROOT_PATH", "SETTINGS_FILE", "ENVIRONMENTS", "MAIN_ENV", "LOWERCASE_READ", "ENV_SWITCHER",
    "ENV", "FORCE_ENV", "DEFAULT_ENV", "ENVVAR_PREFIX", "IGNORE_UNKNOWN_ENVVARS", "AUTO_CAST",
    "ENCODING", "MERGE_ENABLED", "DOTTED_LOOKUP", "NESTED_SEPARATOR", "ENVVAR", "REDIS",
    "REDIS_ENABLED", "VAULT", "VAULT_ENABLED", "VAULT_PATH", "VAULT_MOUNT_POINT",
    "VAULT_ROOT_TOKEN", "VAULT_KV_VERSION", "VAULT_AUTH_WITH_IAM", "VAULT_AUTH_ROLE",
    "VAULT_ROLE_ID", "VAULT_SECRET_ID", "VAULT_USERNAME", "VAULT_PASSWORD", "CORE_LOADERS",
    "LOADERS", "SILENT_ERRORS", "FRESH_VARS", "DOTENV_PATH", "DOTENV_VERBOSE", "DOTENV_OVERRIDE",
    "INSTANCE", "YAML_LOADER", "COMMENTJSON_ENABLED", "SECRETS", "INCLUDES", "PRELOAD",
    "SKIP_FILES", "APPLY_DEFAULT_ON_NONE", "VALIDATE_ON_UPDATE", "SYSENV_FALLBACK", "NAMESPACE",
    "SETTINGS_MODULE", "PROJECT_ROOT", "BASE_NAMESPACE", "GLOBAL_ENV"]

/-- Whether a key is no setting, but about reading a file. -/
def isOwn (key : Datum) : Bool :=
  ownKeys.any key.isText || ownTopics.any fun topic => key.isText (topic ++ "_FOR_DYNACONF")

/-! ## Entries -/

/-- The entries of a file by the texts of their keys in capitals. -/
def capitalized (file : List (Datum × Datum)) : List (Datum × Datum) :=
  file.foldl (fun es (key, value) => Datum.put es (.text (Text.upper key.shown)) value) []

/-- The entries of a file and of the environment. -/
def entries (file : List (Datum × Datum)) (environment : List (String × String)) :
    List (Datum × Datum) :=
  let fromFile := (capitalized file).map fun (key, value) => (key.shown, value)
  let fromVariables := environment.map fun (name, value) => (name, valueOf value)
  -- Variables come after the file, and take the place of what it says.
  let placed := (fromFile ++ fromVariables).foldl (fun es (name, value) => put es name value) []
  -- Two keys that differ in case only fall together here.
  (placed.filter fun entry => !isOwn entry.1).foldl
    (fun es (key, value) => Datum.put es (.text (Text.lower key.shown)) value) []

end Source

/-- The entries that a file holds: none, if its value counts as false. -/
def fileEntries (value : Datum) : Except LoadError (List (Datum × Datum)) :=
  match value with
  | .map entries => .ok entries
  | value => if value.isTrue then .error (.noEntries value.kind) else .ok []

/-- The settings of a file, if it is there, and of the environment. -/
def load (path : String) (file : Option Datum) (environment : List (String × String)) :
    Except LoadError Settings := do
  match file with
  | none => throw (.missing path)
  | some value =>
    let entries ← fileEntries value
    (read (Source.entries entries environment)).mapError fun vs => .settings (.invalid vs)

end TableLayout.Settings
