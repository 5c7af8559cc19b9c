import TableLayout.Datum.Agreement
import TableLayout.Layout.Basic

/-!
# Columns for a database (specification §4.4)

- `SqlType`: the types of columns in a database.
- `SqlType.ofSchema`: the type for a schema (`column_type`): by its logical name if that stands for
  one, and else by the type of its values.
- `SqlColumn`, `SqlColumn.ofColumn`, `SqlColumn.ofLayout`: the description of one column, and of all
  columns of a layout, those of the key first.
-/

namespace TableLayout

/-- The types of columns in a database. -/
inductive SqlType where
  | smallInteger | integer | bigInteger
  | float | double | numeric
  | boolean | text | largeBinary
  | date | time | dateTime
deriving DecidableEq, Repr

/-- Why a schema has no type in a database. -/
inductive SqlError where
  /-- Values of the type do not fit into a column. -/
  | noType (type : ValueType)
  /-- The logical name is no key to look up a type by. -/
  | unhashableName (kind : Datum.Kind)
  /-- The column of a record is rejected. -/
  | rejected (rejection : Rejection)

/-- The words for an error. -/
def SqlError.message : SqlError → String
  | .noType type => type.text
  | .unhashableName kind => s!"unhashable type: '{kind.name}'"
  | .rejected rejection => rejection.message

namespace SqlType

/-- The name of a type. -/
def name : SqlType → String
  | .smallInteger => "SmallInteger"
  | .integer => "Integer"
  | .bigInteger => "BigInteger"
  | .float => "Float"
  | .double => "Double"
  | .numeric => "Numeric"
  | .boolean => "Boolean"
  | .text => "Text"
  | .largeBinary => "LargeBinary"
  | .date => "Date"
  | .time => "Time"
  | .dateTime => "DateTime"

/-- The type for values of a type. -/
def ofValueType? : ValueType → Option SqlType
  | .int8 | .int16 => some .smallInteger
  | .int32 => some .integer
  | .int64 => some .bigInteger
  | .float32 => some .float
  | .float64 => some .double
  | .boolean => some .boolean
  | .string => some .text
  | .bytes => some .largeBinary
  | .array | .map | .struct => none

/-- The type that a logical name stands for. -/
def ofLogicalName? (name : String) : Option SqlType :=
  if name = "org.apache.kafka.connect.data.Decimal" then some .numeric
  else if name = "org.apache.kafka.connect.data.Date" then some .date
  else if name = "org.apache.kafka.connect.data.Time" then some .time
  else if name = "org.apache.kafka.connect.data.Timestamp" then some .dateTime
  else none

/-- The type for a schema. -/
def ofSchema (schema : Schema) : Except SqlError SqlType :=
  match schema.name.unhashable? with
  | some kind => .error (.unhashableName kind)
  | none =>
    -- The logical name goes first, also where the type has none in a database.
    match (schema.name.text?.bind ofLogicalName?).or (ofValueType? schema.type) with
    | some type => .ok type
    | none => .error (.noType schema.type)

theorem ofValueType?_isSome {type : ValueType} : (ofValueType? type).isSome = type.isPrimitive := by
  cases type <;> rfl

end SqlType

/-- A column in a database. -/
structure SqlColumn where
  name : String
  type : SqlType
  primaryKey : Bool
  nullable : Bool
  /-- The literal default value. -/
  default : Option Datum

namespace SqlColumn

/-- The description of a column of a table. -/
def ofColumn (table : String) (column : Column) : Except SqlError SqlColumn :=
  match SqlType.ofSchema column.schema with
  | .ok type => .ok {
      name := column.name, type
      primaryKey := column.isKey
      nullable := column.isOptional
      default := column.schema.default.notNull? }
  | .error (.noType type) => .error (.rejected ⟨table, .columnShape column.name type⟩)
  | .error error => .error error

/-- The descriptions of the columns of a layout, those of the key first. -/
def ofLayout (table : String) (layout : Layout) : Except SqlError (List SqlColumn) :=
  layout.allColumns.mapM (ofColumn table)

end SqlColumn

end TableLayout
