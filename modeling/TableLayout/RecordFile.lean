import TableLayout.Header
import TableLayout.Schema.Reader

/-!
# Record files (specification §7.4)

A record file describes one record: the schemas of its key and its value and its headers, each under
a key of its own. What is null or absent is not there.

- `Record`: the description of a record.
- `RecordError`: what can be wrong with a record file.
- `Record.read`, `Record.load`: the record that a value or a file describes.
-/

namespace TableLayout

/-- The description of a record. -/
structure Record where
  key : Option Schema
  value : Option Schema
  headers : List Header

/-- What can be wrong with a record file. -/
inductive RecordError where
  | missing (path : String)
  | notAMap (kind : Datum.Kind)
  /-- Keys that no record has, sorted. -/
  | surplusKeys (names : List String)
  /-- Surplus keys that cannot be listed. -/
  | unlistableKeys (fault : Datum.KeyFault)
  | schema (error : SchemaError)
  | headers (error : HeaderError)

namespace RecordError

/-- The words for an error. -/
def message : RecordError → String
  | .missing path => s!"Record file not found: {path}"
  | .notAMap kind => s!"Record file must contain a mapping, got {kind.name}"
  | .surplusKeys names => s!"Unknown keys in record file: {Text.joined names}"
  | .unlistableKeys fault => fault.message
  | .schema error => error.message
  | .headers error => error.message

/-- Whether the error is no report on the file itself. -/
def isMisuse : RecordError → Bool
  | .unlistableKeys _ => true
  | .schema error => error.isMisuse
  | .headers error => error.isMisuse
  | _ => false

end RecordError

namespace Record

/-- The keys of a record file. -/
def keys : List String :=
  ["key_schema", "value_schema", "headers"]

/-- Passes if a record file has no other keys than these. -/
def checkKeys (entries : List (Datum × Datum)) : Except RecordError Unit :=
  match Datum.surplusKeys keys entries with
  | [] => .ok ()
  | surplus => match Datum.keyNames surplus with
    | .ok names => .error (.surplusKeys names)
    | .error fault => .error (.unlistableKeys fault)

/-- The schema under a key, if there is one. -/
def schemaUnder (entries : List (Datum × Datum)) (name : String) :
    Except RecordError (Option Schema) :=
  match Datum.get entries name with
  | .null => .ok none
  | value => match Schema.read value with
    | .ok schema => .ok (some schema)
    | .error error => .error (.schema error)

/-- The record that the entries of a map describe. -/
def readEntries (entries : List (Datum × Datum)) (digits : Option Nat := none) :
    Except RecordError Record := do
  checkKeys entries
  let key ← schemaUnder entries "key_schema"
  let value ← schemaUnder entries "value_schema"
  let headers ← (Header.readAll (Datum.get entries "headers") digits).mapError .headers
  return { key, value, headers }

/-- The record that a value describes; whatever counts as false describes the empty record. -/
def read (value : Datum) (digits : Option Nat := none) : Except RecordError Record :=
  if value.isTrue then
    match value with
    | .map entries => readEntries entries digits
    | value => .error (.notAMap value.kind)
  -- Not only null: zero, an empty text and an empty list count as false too.
  else readEntries [] digits

/-- The record that a file describes, if it is there, where keys of headers are written with whole
numbers of `digits` digits at most. -/
def load (path : String) (contents : Option Datum) (digits : Option Nat := none) :
    Except RecordError Record :=
  match contents with
  | some value => read value digits
  | none => .error (.missing path)

end Record

end TableLayout
