import TableLayout.Settings.Basic
import TableLayout.Text.Blank
import TableLayout.Text.Lower
import TableLayout.Text.Utf8

/-!
# Reading settings (specification §7.3)

Settings are described by a map. All settings are checked, so that one report lists all violations;
only if there are none, the settings are checked against each other.

- `Settings.readNames`: a list of names, or a text of names with commas between them.
- `Settings.readSwitch`: a truth value, which may be written as a number or in words.
- `Settings.read`, `Settings.ofDatum`: the settings that a map or any value describes.
- `Settings.override`: settings with some of them replaced.
-/

namespace TableLayout.Settings

open Datum (find?)

/-! ## Single settings -/

/-- The names in the items of a list, without the blanks around them, the first of them at place
`index`. -/
def readItems (index : Nat) : List Datum → Except NamesFault (List String)
  | [] => .ok []
  | .text name :: items =>
    if Text.strip name = "" then .error (.blank index)
    else (Text.strip name :: ·) <$> readItems (index + 1) items
  | item :: _ => .error (.notText index item.kind)

/-- The names that a value lists. -/
def readNames : Datum → Except NamesFault (List String)
  | .null => .ok []
  | .text s => if Text.strip s = "" then .ok [] else readItems 0 ((Text.splitCommas s).map .text)
  | .list items | .tuple items | .set items => readItems 0 items
  | value => .error (.notNames value.kind)

/-- The names that a value lists, each once. -/
def readKeyNames (value : Datum) : Except NamesFault (List String) := do
  let names ← readNames value
  if names.Nodup then return names else throw (.repeated (Text.repeated names))

/-- The set of names that a value lists, sorted. -/
def readWhitelist (value : Datum) : Except NamesFault (List String) :=
  (fun names => Text.sorted names.eraseDups) <$> readNames value

/-- A word: a text without regard to case and to the blanks around it, or bytes as they are. -/
def word : Datum → Option String
  | .text s => some (Text.lower (Text.strip s))
  | .bytes bs | .buffer bs => (Text.Utf8.decode bs).toOption
  | _ => none

/-- The key mode that a value names. -/
def readKeyMode (value : Datum) : Except Violation KeyMode :=
  match (word value).bind KeyMode.ofText? with
  | some mode => .ok mode
  | none => .error .keyMode

/-- The insert mode that a value names. -/
def readInsertMode (value : Datum) : Except Violation InsertMode :=
  match (word value).bind InsertMode.ofText? with
  | some mode => .ok mode
  | none => .error .insertMode

/-- The words for yes. -/
def yesWords : List String :=
  ["1", "true", "t", "yes", "y", "on"]

/-- The words for no. -/
def noWords : List String :=
  ["0", "false", "f", "no", "n", "off"]

/-- The greatest number of 64 bits is one less than this, and the least one is its negative. -/
def wordBound : Int := 0x8000000000000000

/-- The truth value of a whole number, which is compared if it is `small` enough to be kept in 64
bits. -/
def readSwitchNumber (n : Int) (small : Bool) : Except Violation Bool :=
  if !small then .error .deleteKind
  else if n = 0 then .ok false
  else if n = 1 then .ok true
  else .error .deleteUnclear

/-- The truth value that a word for yes or no in letters of either case stands for. -/
def readSwitchWord (s : String) : Except Violation Bool :=
  let lowered := String.ofList (s.toList.map Char.toLower)
  if lowered ∈ yesWords then .ok true
  else if lowered ∈ noWords then .ok false
  else .error .deleteUnclear

/-- The truth value that a value stands for: itself, zero or one, or a word as a text or its bytes.
A floating-point number without fraction counts as a whole one, unless it is rounded to a bound. -/
def readSwitch : Datum → Except Violation Bool
  | .bool b => .ok b
  | .int n => readSwitchNumber n (-wordBound ≤ n && n < wordBound)
  | .float x => match x.whole? with
    | some n => readSwitchNumber n (-wordBound < n && n < wordBound)
    | none => .error .deleteKind
  | .text s => readSwitchWord s
  | .bytes bs => match Text.Utf8.decode bs with
    | .ok s => readSwitchWord s
    | .error _ => .error .deleteUnclear
  | _ => .error .deleteKind

/-! ## All settings -/

/-- The violation of a reading that failed. -/
def violation? {α : Type} : Except Violation α → List Violation
  | .ok _ => []
  | .error violation => [violation]

/-- The setting under a name, read, or its default if it is absent. -/
def setting {α : Type} (entries : List (Datum × Datum)) (name : String) (default : α)
    (read : Datum → Except Violation α) : Except Violation α :=
  match find? entries name with
  | some value => read value
  | none => .ok default

/-- How a report names a key that is no text: truth values count as the numbers one and zero. -/
def keyPlace : Datum → String
  | .bool b => if b then "1" else "0"
  | key => key.shown

/-- The violations in the keys of a map: those that are no setting. -/
def surplus (entries : List (Datum × Datum)) : List Violation :=
  entries.filterMap fun
    | (.text name, _) => if name ∈ keys then none else some (.surplus name)
    | (key, _) => some (.unnamed (keyPlace key))

/-- Settings, unless they contradict each other. -/
def check (settings : Settings) : Except (List Violation) Settings :=
  if settings.deleteEnabled && !canDelete settings.keyMode then
    .error [.cannotDelete settings.keyMode]
  else .ok settings

/-- The settings that the entries of a map describe, or all violations. -/
def read (entries : List (Datum × Datum)) : Except (List Violation) Settings :=
  -- Every setting is read whatever becomes of the others.
  let keyMode := setting entries "pk_mode" .none readKeyMode
  let keyNames := setting entries "pk_fields" [] fun value =>
    (readKeyNames value).mapError .keyNames
  let whitelist := setting entries "fields_whitelist" [] fun value =>
    (readWhitelist value).mapError .whitelist
  let deleteEnabled := setting entries "delete_enabled" false readSwitch
  let insertMode := setting entries "insert_mode" .insert readInsertMode
  match keyMode, keyNames, whitelist, deleteEnabled, insertMode, surplus entries with
  | .ok keyMode, .ok keyNames, .ok whitelist, .ok deleteEnabled, .ok insertMode, [] =>
    -- Only settings that are all right by themselves are held against each other.
    check { keyMode, keyNames, whitelist, deleteEnabled, insertMode }
  | _, _, _, _, _, surplus =>
    .error (violation? keyMode ++ violation? keyNames ++ violation? whitelist ++
      violation? deleteEnabled ++ violation? insertMode ++ surplus)

/-- The settings that a value describes. -/
def ofDatum : Datum → Except SettingsError Settings
  | .map entries => (read entries).mapError .invalid
  | value => .error (.notAMap value.kind)

/-- Settings with some of them replaced by what these entries describe. -/
def override (base : Settings) (overrides : List (Datum × Datum)) : Except SettingsError Settings :=
  -- The settings came out of a check, and are not checked once more unless something changes.
  if overrides.isEmpty then .ok base
  else ofDatum (.map (overrides.foldl (fun es entry => Datum.put es entry.1 entry.2) base.dump))

end TableLayout.Settings
