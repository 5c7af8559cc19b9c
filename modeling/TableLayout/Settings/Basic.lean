import TableLayout.Datum.Agreement
import TableLayout.Mode
import TableLayout.Text.Names

/-!
# Settings (specification §7.3)

- `Settings`: how the columns of a table are found.
- `Settings.canDelete`: the key modes under which records without value may delete.
- `Settings.dump`: settings as the entries of a map.
- `Violation`: what can be wrong with a setting, with its place, its kind and the words for it.
- `Violation.text`: the lines of a report about a violation.
- `SettingsError`: all that is wrong with a description of settings.
-/

namespace TableLayout

/-- How the columns of a table are found. -/
structure Settings where
  keyMode : KeyMode := .none
  /-- The configured names of key columns, in order. -/
  keyNames : List String := []
  /-- The names of the fields that become columns, sorted; all of them if there are none. -/
  whitelist : List String := []
  /-- Whether a record without value deletes. -/
  deleteEnabled : Bool := false
  insertMode : InsertMode := .insert
deriving DecidableEq, Repr

namespace Settings

/-- The names of all settings, in order. -/
def keys : List String :=
  ["pk_mode", "pk_fields", "fields_whitelist", "delete_enabled", "insert_mode"]

/-- The modes under which a record without value has a key. -/
def canDelete : KeyMode → Bool
  | .recordKey | .flatten => true
  | _ => false

/-- Settings as the entries of a map. -/
def dump (settings : Settings) : List (Datum × Datum) := [
  (.text "pk_mode", .text settings.keyMode.text),
  (.text "pk_fields", .tuple (settings.keyNames.map .text)),
  (.text "fields_whitelist", .set (settings.whitelist.map .text)),
  (.text "delete_enabled", .bool settings.deleteEnabled),
  (.text "insert_mode", .text settings.insertMode.text)]

end Settings

/-- What can be wrong with a list of names. -/
inductive NamesFault where
  /-- Neither a text nor a list. -/
  | notNames (kind : Datum.Kind)
  /-- An item of the list that is no text. -/
  | notText (index : Nat) (kind : Datum.Kind)
  | blank (index : Nat)
  /-- Names that occur more than once, sorted. -/
  | repeated (names : List String)
deriving DecidableEq, Repr

/-- The words for a fault in the names of a setting. -/
def NamesFault.message (setting : String) : NamesFault → String
  | .notNames kind =>
    s!"'{setting}' must be a list of field names or a comma-separated string, got {kind.name}"
  | .notText index kind => s!"'{setting}[{index}]' must be a string, got {kind.name}"
  | .blank index => s!"'{setting}[{index}]' cannot be empty or whitespace-only"
  | .repeated names => s!"Duplicate field names in '{setting}': {Text.joined names}"

/-- What can be wrong with a setting. -/
inductive Violation where
  /-- No key mode. -/
  | keyMode
  /-- No insert mode. -/
  | insertMode
  | keyNames (fault : NamesFault)
  | whitelist (fault : NamesFault)
  /-- A text or a number that is no truth value. -/
  | deleteUnclear
  /-- A value of a kind that holds no truth values. -/
  | deleteKind
  /-- A setting that does not exist. -/
  | surplus (name : String)
  /-- A setting whose name is no text. -/
  | unnamed (key : String)
  /-- Deletions under a mode without a key for them. -/
  | cannotDelete (mode : KeyMode)
deriving DecidableEq, Repr

namespace Violation

/-- The setting concerned, if it is one. -/
def location : Violation → List String
  | .keyMode => ["pk_mode"]
  | .insertMode => ["insert_mode"]
  | .keyNames _ => ["pk_fields"]
  | .whitelist _ => ["fields_whitelist"]
  | .deleteUnclear | .deleteKind => ["delete_enabled"]
  | .surplus name | .unnamed name => [name]
  | .cannotDelete _ => []

/-- The kind of a violation. -/
def kind : Violation → String
  | .keyMode | .insertMode => "enum"
  | .keyNames _ | .whitelist _ | .cannotDelete _ => "value_error"
  | .deleteUnclear => "bool_parsing"
  | .deleteKind => "bool_type"
  | .surplus _ => "extra_forbidden"
  | .unnamed _ => "invalid_key"

/-- The words for a violation. -/
def message : Violation → String
  | .keyMode => "Input should be 'none', 'kafka', 'record_key', 'record_value' or 'flatten'"
  | .insertMode => "Input should be 'insert', 'upsert' or 'update'"
  | .keyNames fault => "Value error, " ++ fault.message "pk_fields"
  | .whitelist fault => "Value error, " ++ fault.message "fields_whitelist"
  | .deleteUnclear => "Input should be a valid boolean, unable to interpret input"
  | .deleteKind => "Input should be a valid boolean"
  | .surplus _ => "Extra inputs are not permitted"
  | .unnamed _ => "Keys should be strings"
  | .cannotDelete mode =>
    "Value error, delete_enabled requires pk_mode to be one of: flatten, record_key "
      ++ s!"(got '{mode.text}')"

/-- A part of a place as reports show it: with a point in it, it stands between marks. -/
def shownPart (part : String) : String :=
  if part.toList.contains '.' then "`" ++ part ++ "`" else part

/-- The lines of a report about a violation: its place, if it is about a setting, and then the words
for it and its kind. What the validator goes on to say, of the value given and of where to read on,
is `remarks`. -/
def text (remarks : Violation → String) (violation : Violation) : String :=
  let place := match violation.location with
    | [] => ""
    | parts => String.intercalate "." (parts.map shownPart) ++ "\n"
  place ++ s!"  {violation.message} [type={violation.kind}" ++ remarks violation

end Violation

/-- All that is wrong with a description of settings. -/
inductive SettingsError where
  | notAMap (kind : Datum.Kind)
  | invalid (violations : List Violation)
deriving DecidableEq, Repr

namespace SettingsError

/-- The number of violations in words. -/
def count (violations : List Violation) : String :=
  let plural := if violations.length = 1 then "" else "s"
  s!"{violations.length} validation error{plural} for ResolverSettings"

/-- The first line of the words for an error. -/
def headline : SettingsError → String
  | .notAMap kind =>
    s!"Invalid configuration for ResolverSettings: config must be a dict, got {kind.name}."
  | .invalid violations => s!"Invalid configuration for ResolverSettings: {count violations}"

/-- The single violations behind an error. -/
def violations : SettingsError → List Violation
  | .notAMap _ => []
  | .invalid violations => violations

/-- The words for an error: the first line, and then the lines about each violation. -/
def message (remarks : Violation → String) (error : SettingsError) : String :=
  String.intercalate "\n" (error.headline :: error.violations.map (Violation.text remarks))

end SettingsError

end TableLayout
