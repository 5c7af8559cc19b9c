import TableLayout.Column
import TableLayout.Rejection

/-!
# Keys (specification §4.1)

What a key mode reads and what it yields: `KeyDerivationInput` and `PartialKeyResult`.

- `KeyRequest`: the record and the settings that a key mode may read, and how long the numbers may
  be that are written.
- `KeyRequest.Prints`: the values of all headers can be written.
- `KeyColumns`: the columns of the key; `KeyColumns.make` refuses two of one name.
- `KeyColumns.ofStruct`: the fields of a struct as key columns: those that are configured, or all.
-/

namespace TableLayout

/-- What a key mode may read. -/
structure KeyRequest where
  table : String
  /-- The schema of the record's key. -/
  key : Option Schema := none
  /-- The schema of the record's value, which is absent for a deletion. -/
  value : Option Schema := none
  /-- The configured names of key columns, in order. -/
  configured : List String := []
  headers : List Header := []
  /-- Whether a record without value deletes. -/
  deleteEnabled : Bool := false
  insertMode : InsertMode := .insert
  /-- The most digits of a whole number that is written, if there is such a limit. -/
  digits : Option Nat := none

/-- A rejection of the requested record. -/
def KeyRequest.reject {α : Type} (request : KeyRequest) (cause : Rejection.Cause) :
    Except Failure α :=
  .error (.rejected ⟨request.table, cause⟩)

/-- The values of all headers can be written. -/
def KeyRequest.Prints (request : KeyRequest) : Prop :=
  ∀ header ∈ request.headers, header.value.Prints request.digits

instance (request : KeyRequest) : Decidable request.Prints :=
  inferInstanceAs (Decidable (∀ header ∈ request.headers, _))

theorem KeyRequest.prints_of_unlimited {request : KeyRequest} (h : request.digits = none) :
    request.Prints := by
  intro header _
  rw [h]
  exact header.value.prints_none

/-- The headers of a record in messages. -/
def KeyRequest.shownHeaders (request : KeyRequest) : Except Failure String :=
  match Datum.anyExceeds? request.digits (request.headers.map Header.value) with
  | some most => .error (.defect (.longNumber most))
  | none => .ok (Header.shownAll request.headers)

theorem KeyRequest.shownHeaders_eq {request : KeyRequest} (h : request.Prints) :
    request.shownHeaders = .ok (Header.shownAll request.headers) := by
  have hnone : Datum.anyExceeds? request.digits (request.headers.map Header.value) = none :=
    Datum.anyExceeds?_eq_none_iff.mpr (List.forall_mem_map.mpr h)
  rw [shownHeaders, hnone]

/-- The columns of a key. -/
structure KeyColumns where
  columns : List Column
  /-- The names of the columns that are read from the record's key, where headers name the
  columns. -/
  keySourced : Option (List String)

namespace KeyColumns

/-- The names of the columns. -/
def names (key : KeyColumns) : List String :=
  key.columns.map Column.name

/-- A key of these columns, if they have distinct names. -/
def make (columns : List Column) (keySourced : Option (List String)) :
    Except Failure KeyColumns :=
  let names := columns.map Column.name
  if names.Nodup then .ok ⟨columns, keySourced⟩
  else .error (.defect (.repeatedKeyColumns names))

/-- A field of a struct as a key column. -/
def column (schema : Schema) (name : String) : Except Failure Column :=
  match schema.field? name with
  | some field => .ok ⟨name, field.schema, true⟩
  | none => .error (.defect (.unknownKeyField name))

/-- Fields of a struct as key columns, each once. -/
def ofNames (schema : Schema) (names : List String) : Except Failure (List Column) :=
  names.eraseDups.mapM (column schema)

/-- Passes if the struct has fields of all these names. -/
def requireFields (request : KeyRequest) (mode : KeyMode) (payload : Payload) (schema : Schema)
    (names : List String) : Except Failure Unit :=
  match names.find? fun name => (schema.field? name).isNone with
  | some name =>
    request.reject (.missingField mode payload name (Text.listed names) schema.fieldNames)
  | none => .ok ()

/-- The configured fields of a struct as the key, or all fields if none are configured. -/
def ofStruct (request : KeyRequest) (mode : KeyMode) (payload : Payload) (schema : Schema) :
    Except Failure KeyColumns := do
  if request.configured.isEmpty then
    make (← ofNames schema schema.fieldNames) none
  else
    requireFields request mode payload schema request.configured
    make (← ofNames schema request.configured) none

end KeyColumns

end TableLayout
