import TableLayout.Key.Basic

/-!
# Keys named by headers (specification §4.1.1)

Each header of a record names a column by its value and where to read it by its key. A record
without value, if it may delete or be written by its key, has its columns from its key
(`Branch.keySourced`); every other record has them from its value (`Branch.valueSourced`).

- `Flatten.branch`: which of the two applies.
- `Flatten.fromKey`: a key of one value is one column, named by the only header; of a struct, each
  header's key names a field, and the header's value the column.
- `Flatten.fromValue`: each header's value names a field of the record's value. The column is also
  read from the record's key if the header's key names a field there, or, where the record's key is
  no struct, ends in `.key`.
- `Flatten.derive`: the key columns of a record.
-/

namespace TableLayout.Flatten

/-- Where the columns come from. -/
inductive Branch where
  | keySourced | valueSourced
deriving DecidableEq, Repr

/-- The word for a branch. -/
def Branch.text : Branch → String
  | .keySourced => "key_sourced"
  | .valueSourced => "value_sourced"

/-- Where the columns of a record come from. -/
def branch (valuePresent deleteEnabled : Bool) (insertMode : InsertMode) : Branch :=
  if !valuePresent && (deleteEnabled || insertMode == .upsert) then .keySourced else .valueSourced

/-- The end of a header's key that refers to the record's key. -/
def keyReference : String := ".key"

/-- Whether a header's key refers to the record's key. -/
def refersToKey (key : Schema) (headerKey : String) : Bool :=
  if key.isStruct then (key.field? headerKey).isSome
  else keyReference.toList.isSuffixOf headerKey.toList

/-- The column that a header names. -/
def columnName (request : KeyRequest) (header : Header) : Except Failure String := do
  header.value.requirePrints request.digits
  match header.text with
  | .ok name => .ok name
  | .error fault => request.reject (.undecodableHeader header.key fault)

/-! ## From the record's key -/

/-- The column of a header whose key names a field of a struct. -/
def keyColumn (request : KeyRequest) (key : Schema) (header : Header) : Except Failure Column :=
  match key.field? header.key with
  | none => do
    let headers ← request.shownHeaders
    request.reject (.missingField .flatten .key header.key headers key.fieldNames)
  | some field => do
    let name ← columnName request header
    return ⟨name, field.schema, true⟩

/-- The key columns read from the record's key. -/
def fromKey (request : KeyRequest) : Except Failure KeyColumns :=
  match request.key with
  | none => request.reject (.missingPayload .flatten .key)
  | some key =>
    if key.type.isPrimitive then
      match request.headers with
      | [header] => do
        let name ← columnName request header
        KeyColumns.make [⟨name, key, true⟩] (some [name])
      -- The one column there is takes its name from exactly one header.
      | _ => do
        let headers ← request.shownHeaders
        request.reject (.keyHeaderCount key.type headers)
    else if key.isStruct then do
      let columns := Column.firstByName (← request.headers.mapM (keyColumn request key))
      KeyColumns.make columns (some (columns.map Column.name))
    else request.reject (.keyShape .flatten key.type)

/-! ## From the record's value -/

/-- The column of a header whose value names a field of the record's value, and whether it is also
read from the record's key. -/
def valueColumn (request : KeyRequest) (value : Schema) (header : Header) :
    Except Failure (Column × Bool) := do
  let name ← columnName request header
  match value.field? name with
  | none => request.reject (.missingField .flatten .value name name value.fieldNames)
  | some field => return (⟨name, field.schema, true⟩, request.key.any (refersToKey · header.key))

/-- The key columns read from the record's value. -/
def fromValue (request : KeyRequest) : Except Failure KeyColumns :=
  match request.value with
  | none => request.reject (.missingPayload .flatten .value)
  | some value => do
    let found ← request.headers.mapM (valueColumn request value)
    KeyColumns.make (Column.firstByName (found.map Prod.fst))
      -- Of the headers that name one column any may refer to the key.
      (some ((found.filter Prod.snd).map fun entry => entry.1.name).eraseDups)

/-- The key columns that the headers name. -/
def derive (request : KeyRequest) : Except Failure KeyColumns :=
  match branch request.value.isSome request.deleteEnabled request.insertMode with
  | .keySourced => fromKey request
  | .valueSourced => fromValue request

theorem branch_eq_keySourced_iff {valuePresent deleteEnabled : Bool} {insertMode : InsertMode} :
    branch valuePresent deleteEnabled insertMode = .keySourced ↔
      valuePresent = false ∧ (deleteEnabled = true ∨ insertMode = .upsert) := by
  cases valuePresent <;> cases deleteEnabled <;> cases insertMode <;> decide

end TableLayout.Flatten
