import TableLayout.Header
import TableLayout.Mode
import TableLayout.Schema.Basic

/-!
# Rejections (specification §7.1)

A record that cannot be mapped to the columns of its table is rejected, for a reason that the
configuration or the record can mend.

- `Rejection`: the table and the cause.
- `Rejection.kind`: the kind of a rejection, as logs name it.
- `Rejection.mode?`: the text of the mode under which it arose.
- `Rejection.message`: the words for it.
- `Defect`: a contradiction between parts of this library, which no record should bring about, or
  something that cannot be written or gone through.
- `Failure`: either.
- `Datum.requirePrints`: the check before a value is written.
-/

namespace TableLayout

/-- Why a record is rejected. -/
inductive Rejection.Cause where
  /-- The mode has no known name. -/
  | unknownMode (given : Datum)
  /-- Names for topic, partition and offset, but not three distinct ones. -/
  | coordinateNames (configured : List String)
  /-- A key of one value, but not one name for its column. -/
  | keyColumnCount (type : ValueType) (configured : List String)
  /-- A key of one value, but not one header; `headers` is their text. -/
  | keyHeaderCount (type : ValueType) (headers : String)
  /-- The value of a header is no text. -/
  | undecodableHeader (key : String) (fault : Text.Utf8.Fault)
  /-- The value of the record is no struct. -/
  | valueShape (mode : KeyMode) (type : ValueType)
  /-- The key of the record is a list or a map. -/
  | keyShape (mode : KeyMode) (type : ValueType)
  /-- A column of a type without column representation. -/
  | columnShape (column : String) (type : ValueType)
  /-- The part of the record that the mode reads is absent. -/
  | missingPayload (mode : KeyMode) (payload : Payload)
  /-- A field is not among those available; `configured` is the text of what asks for it. -/
  | missingField (mode : KeyMode) (payload : Payload) (field configured : String)
    (available : List String)
  /-- There is no column at all. -/
  | noColumns (mode : KeyMode)

/-- A record that cannot be mapped to the columns of a table. -/
structure Rejection where
  table : String
  cause : Rejection.Cause

namespace Rejection

/-- The kinds of rejections. -/
inductive Kind where
  | configuration | schemaShape | missingPayload | missingField | emptyFieldSet
deriving DecidableEq, Repr

/-- The name of a kind in logs. -/
def Kind.name : Kind → String
  | .configuration => "ConfigurationError"
  | .schemaShape => "SchemaShapeError"
  | .missingPayload => "MissingPayloadError"
  | .missingField => "MissingFieldError"
  | .emptyFieldSet => "EmptyFieldSetError"

/-- The kind of a rejection. -/
def kind (rejection : Rejection) : Kind :=
  match rejection.cause with
  | .unknownMode .. | .coordinateNames .. | .keyColumnCount .. | .keyHeaderCount ..
  | .undecodableHeader .. => .configuration
  | .valueShape .. | .keyShape .. | .columnShape .. => .schemaShape
  | .missingPayload .. => .missingPayload
  | .missingField .. => .missingField
  | .noColumns .. => .emptyFieldSet

/-- The text of the mode under which a rejection arose. -/
def mode? (rejection : Rejection) : Option String :=
  match rejection.cause with
  | .unknownMode given => some given.shown
  | .coordinateNames _ => some KeyMode.kafka.text
  | .keyColumnCount .. => some KeyMode.recordKey.text
  | .keyHeaderCount .. | .undecodableHeader .. => some KeyMode.flatten.text
  | .valueShape mode _ | .keyShape mode _ | .missingPayload mode _ | .missingField mode ..
  | .noColumns mode => some mode.text
  | .columnShape .. => none

/-- The words for a rejection. -/
def message (rejection : Rejection) : String :=
  let table := rejection.table
  match rejection.cause with
  | .unknownMode given =>
    s!"Unknown primary key mode for table '{table}': {given.quoted}. "
      ++ "Supported modes: " ++ String.intercalate ", " (KeyMode.all.map KeyMode.text)
  | .coordinateNames configured =>
    s!"PK mode for table '{table}' is {KeyMode.kafka.text} so there should either be no field "
      ++ s!"names defined for defaults {Text.listed KeyMode.coordinateNames} to be applicable, "
      ++ s!"or exactly 3 distinct, defined fields are: {Text.listed configured}"
  | .keyColumnCount type configured =>
    s!"PK mode for table '{table}' is {KeyMode.recordKey.text}: need exactly one PK column defined "
      ++ s!"since the key schema for records is a primitive type ({type.text}), "
      ++ s!"defined columns are: {Text.listed configured}"
  | .keyHeaderCount type headers =>
    s!"PK mode for table '{table}' is {KeyMode.flatten.text}: need exactly one PK header defined "
      ++ s!"since the key schema for records is a primitive type ({type.text}), "
      ++ s!"defined headers are: {headers}"
  | .undecodableHeader key fault =>
    s!"PK mode for table '{table}' is {KeyMode.flatten.text}: value of header '{key}' "
      ++ s!"is not valid UTF-8 ({fault.reason.message} at byte {fault.start}), "
      ++ "so it cannot name a column"
  | .valueShape mode type =>
    s!"Value schema for table '{table}' (PK mode {mode.text}) must be of type Struct, "
      ++ s!"but is of type: {type.text}"
  | .keyShape mode type =>
    s!"Key schema for table '{table}' (PK mode {mode.text}) must be primitive type or Struct, "
      ++ s!"but is of type: {type.text}"
  | .columnShape column type =>
    s!"Field '{column}' of table '{table}' has type {type.text}, "
      ++ "which has no column representation"
  | .missingPayload mode payload =>
    s!"PK mode for table '{table}' is {mode.text}, but record {payload.text} schema is missing"
  | .missingField mode payload field configured _ =>
    s!"PK mode for table '{table}' is {mode.text} with configured PK fields {configured}, "
      ++ s!"but record {payload.text} schema does not contain field: {field}"
  | .noColumns mode =>
    s!"No fields found using key and value schemas for table: {table} (PK mode {mode.text})"

end Rejection

/-- What is wrong beside the reasons to reject a record. -/
inductive Defect where
  /-- Two key columns have one name; these are all names. -/
  | repeatedKeyColumns (names : List String)
  /-- A key field was not looked for before it was taken. -/
  | unknownKeyField (name : String)
  /-- Key names and other names do not make up the columns. -/
  | partition (keyNames otherNames columnNames : List String)
  /-- Columns read from the record's key are not key columns. -/
  | strayKeySourced (names : List String)
  /-- The configured names are no collection. -/
  | noNames (kind : Datum.Kind)
  /-- A whole number has more digits than may be written. -/
  | longNumber (most : Nat)
deriving DecidableEq, Repr

/-- The words for a defect. -/
def Defect.message : Defect → String
  | .repeatedKeyColumns names =>
    s!"Duplicate key field names in partial result: {Text.listed names}"
  | .unknownKeyField name => s!"'{name}' not found in struct schema (caller must validate first)"
  | .partition keyNames otherNames columnNames =>
    s!"Validation fail -- keyFieldNames:{Text.listed keyNames} "
      ++ s!"nonKeyFieldNames:{Text.listed otherNames} allFields:{Text.listed columnNames}"
  | .strayKeySourced names =>
    s!"Validation fail -- keyFieldNamesInKey {Text.listed names} are not key fields"
  | .noNames kind => s!"'{kind.name}' object is not iterable"
  | .longNumber most => Datum.tooLong most

/-- Why there is no layout. -/
inductive Failure where
  | rejected (rejection : Rejection)
  | defect (defect : Defect)

/-- Passes if a value can be written. -/
def Datum.requirePrints (limit : Option Nat) (d : Datum) : Except Failure Unit :=
  match d.exceeds? limit with
  | some most => .error (.defect (.longNumber most))
  | none => .ok ()

theorem Datum.requirePrints_eq_ok_iff {limit : Option Nat} {d : Datum} :
    d.requirePrints limit = .ok () ↔ d.Prints limit := by
  rw [← exceeds?_eq_none_iff, requirePrints]
  cases d.exceeds? limit <;> simp

theorem Datum.requirePrints_eq_error_iff {limit : Option Nat} {d : Datum} {failure : Failure} :
    d.requirePrints limit = .error failure ↔
      ∃ most, (limit = some most ∧ d.fits most = false) ∧
        failure = .defect (.longNumber most) := by
  simp only [← exceeds?_eq_some_iff, requirePrints]
  cases d.exceeds? limit with
  | none => simp
  | some most => simp [eq_comm]

end TableLayout
