import TableLayout.Key.Flatten

/-!
# Keys by mode (specification §4.1, `derive_key_fields`)

- `Key.coordinates`: the topic, partition and offset of a record, under the configured names or
  under names of their own.
- `Key.ofKey`, `Key.ofValue`: the key from the fields of the record's key or value.
- `Key.derive`: the key columns of a record under a mode.
- `Key.modeOf`: the mode that a value names, or a rejection (§4.3, step 1).
-/

namespace TableLayout.Key

/-- The types of topic, partition and offset. -/
def coordinateTypes : List ValueType :=
  [.string, .int32, .int64]

/-- A coordinate of a record as a key column. -/
def coordinate (name : String) (type : ValueType) : Column :=
  ⟨name, .ofType type false, true⟩

/-- The names of the coordinate columns: three distinct ones, or none for the usual ones. -/
def coordinateNames (request : KeyRequest) : Except Failure (List String) :=
  if request.configured.isEmpty then .ok KeyMode.coordinateNames
  else if request.configured.length = 3 ∧ request.configured.Nodup then .ok request.configured
  else request.reject (.coordinateNames request.configured)

/-- The key of a record's topic, partition and offset. -/
def coordinates (request : KeyRequest) : Except Failure KeyColumns := do
  let names ← coordinateNames request
  KeyColumns.make (names.zipWith coordinate coordinateTypes) none

/-- The key from the record's key: a single value under the one configured name, or fields of a
struct. -/
def ofKey (request : KeyRequest) : Except Failure KeyColumns :=
  match request.key with
  | none => request.reject (.missingPayload .recordKey .key)
  | some key =>
    if key.type.isPrimitive then
      match request.configured with
      | [name] => KeyColumns.make [⟨name, key, true⟩] none
      | configured => request.reject (.keyColumnCount key.type configured)
    else if key.isStruct then KeyColumns.ofStruct request .recordKey .key key
    else request.reject (.keyShape .recordKey key.type)

/-- The key from fields of the record's value. -/
def ofValue (request : KeyRequest) : Except Failure KeyColumns :=
  match request.value with
  | none => request.reject (.missingPayload .recordValue .value)
  | some value => KeyColumns.ofStruct request .recordValue .value value

/-- The key columns of a record. -/
def derive (mode : KeyMode) (request : KeyRequest) : Except Failure KeyColumns :=
  match mode with
  | .none => KeyColumns.make [] none
  | .kafka => coordinates request
  | .recordKey => ofKey request
  | .recordValue => ofValue request
  | .flatten => Flatten.derive request

/-- The mode that a value names. A rejection shows the value, so that has to print. -/
def modeOf (table : String) (given : Datum) (digits : Option Nat := none) :
    Except Failure KeyMode :=
  match KeyMode.ofDatum? given with
  | some mode => .ok mode
  | none => do
    given.requirePrints digits
    .error (.rejected ⟨table, .unknownMode given⟩)

end TableLayout.Key
