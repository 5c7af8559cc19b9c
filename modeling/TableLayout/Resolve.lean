import TableLayout.Event
import TableLayout.Key.Derive
import TableLayout.Layout.Basic

/-!
# Resolving records (specification §4.2, §4.3)

The layout of a table for one record: the key columns by the key mode, then the remaining fields of
the record's value, as far as the whitelist lets them pass.

- `Resolve.otherColumns`: the fields of the value that are no key columns.
- `Resolve.split`: the mode, the key columns and the other columns, or the first reason against
  them: an unknown mode, a value that is no struct, a key that cannot be derived, no column at all.
- `Resolution`, `resolve`: the outcome for a record, with what is logged of it
  (`resolve_field_set`).
- `resolveFor`: the same for names of key columns that are given by a value.
-/

namespace TableLayout

namespace Resolve

/-- The fields of a record's value that become columns outside the key, in declared order; an empty
whitelist lets all pass. -/
def otherColumns (value : Option Schema) (keyNames whitelist : List String) : List Column :=
  let fields := (value.map Schema.fields).getD []
  let kept := fields.filter fun field =>
    !keyNames.contains field.name && (whitelist.isEmpty || whitelist.contains field.name)
  kept.map fun field => ⟨field.name, field.schema, false⟩

/-- Passes if the record's value is a struct or absent. -/
def checkValue (mode : KeyMode) (request : KeyRequest) : Except Failure Unit :=
  match request.value with
  | some value =>
    if value.isStruct then .ok () else request.reject (.valueShape mode value.type)
  | none => .ok ()

/-- The whitelist that applies under a mode: none where headers name the columns. -/
def effectiveWhitelist (mode : KeyMode) (whitelist : List String) : List String :=
  if mode = .flatten then [] else whitelist

/-- The mode that a value names, if the record's value allows for it. -/
def mode (given : Datum) (request : KeyRequest) : Except Failure KeyMode := do
  let mode ← Key.modeOf request.table given request.digits
  checkValue mode request
  return mode

/-- The mode, the key columns and the other columns of a record. -/
def split (given : Datum) (whitelist : List String) (request : KeyRequest) :
    Except Failure (KeyMode × KeyColumns × List Column) := do
  let mode ← mode given request
  let key ← Key.derive mode request
  -- The columns of the key are left out whatever the whitelist says of them.
  let others := otherColumns request.value key.names (effectiveWhitelist mode whitelist)
  if (key.columns ++ others).isEmpty then request.reject (.noColumns mode)
  else return (mode, key, others)

/-- All columns by name, those of the key first. -/
def columnMap (key : KeyColumns) (others : List Column) : NameMap Column :=
  .ofList ((key.columns ++ others).map fun column => (column.name, column))

/-- The layout of these columns. -/
def layout (key : KeyColumns) (others : List Column) : Except Failure Layout :=
  match Layout.make key.names (others.map Column.name) (columnMap key others) key.keySourced with
  | .ok layout => .ok layout
  | .error defect => .error (.defect defect)

/-- The names in a value: the characters of a text, the numbers of bytes, the items of a list or the
keys of a map. -/
def namesOf : Datum → Except Failure (List String)
  | .text s => .ok (s.toList.map fun c => String.ofList [c])
  | .list ds | .tuple ds | .set ds => .ok (ds.map Datum.shown)
  | .bytes bs | .buffer bs => .ok (bs.map fun b => toString b.toNat)
  | .map es => .ok (es.map fun entry => entry.1.shown)
  | value => .error (.defect (.noNames value.kind))

end Resolve

/-- The outcome for a record, with what is logged of it. -/
structure Resolution where
  outcome : Except Failure Layout
  events : List Event

/-- The outcome for a record without layout: rejections are logged. -/
def Resolution.failure (table : String) (given : Datum) : Failure → Resolution
  | .rejected rejection =>
    ⟨.error (.rejected rejection),
      [.failed table given.shown rejection.kind.name rejection.message]⟩
  -- A defect is no fault of the record, and nothing is logged of it.
  | .defect defect => ⟨.error (.defect defect), []⟩

/-- The layout of a table for a record under the mode that a value names. -/
def resolve (given : Datum) (whitelist : List String) (request : KeyRequest) : Resolution :=
  match Resolve.split given whitelist request with
  | .error failure => .failure request.table given failure
  | .ok (mode, key, others) =>
    match Resolve.layout key others with
    | .error failure => ⟨.error failure, []⟩
    | .ok layout =>
      ⟨.ok layout, [.resolved request.table mode.text layout.keyNames.length
        layout.otherNames.length]⟩

/-- The layout of a table for a record with configured names that a value gives. They are looked at
after the mode and the record's value. -/
def resolveFor (configured given : Datum) (whitelist : List String) (request : KeyRequest) :
    Resolution :=
  let names := do
    let _ ← Resolve.mode given request
    Resolve.namesOf configured
  match names with
  | .ok configured => resolve given whitelist { request with configured }
  | .error failure => .failure request.table given failure

end TableLayout
