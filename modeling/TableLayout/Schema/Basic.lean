import TableLayout.Datum.Agreement

/-!
# Schemas (specification §3.1)

The shape of a record's key or value, or of one of its fields. `Schema`, `Field` and `ValueType` are
`ConnectSchema`, `SchemaField` and `SchemaType` there.

- `ValueType`: the types of values.
- `Schema`, `Field`: a schema with its attributes, the fields of a struct in declared order, and
  the schemas of the parts of an array or a map.
- `Schema.field?`: the field of a given name.
- `Schema.agrees`: equality of schemas, with values compared by `Datum.agrees`.
-/

namespace TableLayout

/-- The types of values. -/
inductive ValueType where
  | int8 | int16 | int32 | int64
  | float32 | float64
  | boolean | string | bytes
  | array | map | struct
deriving DecidableEq, Repr

namespace ValueType

/-- All types, in the order in which messages list them. -/
def all : List ValueType :=
  [.int8, .int16, .int32, .int64, .float32, .float64, .boolean, .string, .bytes, .array, .map,
    .struct]

/-- The word for a type. -/
def text : ValueType → String
  | .int8 => "int8"
  | .int16 => "int16"
  | .int32 => "int32"
  | .int64 => "int64"
  | .float32 => "float32"
  | .float64 => "float64"
  | .boolean => "boolean"
  | .string => "string"
  | .bytes => "bytes"
  | .array => "array"
  | .map => "map"
  | .struct => "struct"

/-- Whether a value of the type fits into one column. -/
def isPrimitive : ValueType → Bool
  | .array | .map | .struct => false
  | _ => true

/-- The type that a word names. -/
def ofText? (s : String) : Option ValueType :=
  all.find? fun type => type.text == s

theorem ofText?_eq_some_iff {s : String} {type : ValueType} :
    ofText? s = some type ↔ s = type.text := by
  constructor
  · intro h
    have hfound : all.find? (fun type => type.text == s) = some type := h
    have htext := List.find?_some hfound
    exact (beq_iff_eq.mp htext).symm
  · rintro rfl
    cases type <;> decide

end ValueType

mutual

/-- A schema. -/
structure Schema where
  type : ValueType
  /-- Whether the value may be null. -/
  optional : Bool
  /-- The default value, null if there is none. -/
  default : Datum
  /-- The logical type name, or the name of a struct. -/
  name : Datum
  version : Datum
  doc : Datum
  /-- The fields of a struct, in declared order. -/
  fields : List Field
  /-- The schema of the keys of a map. -/
  key : Option Schema
  /-- The schema of the elements of an array or of the values of a map. -/
  value : Option Schema

/-- A named field of a struct. -/
structure Field where
  name : String
  /-- The place among the fields, from zero. -/
  index : Nat
  schema : Schema

end

namespace Schema

/-- A schema with a type and no further attributes. -/
def ofType (type : ValueType) (optional : Bool) : Schema :=
  ⟨type, optional, .null, .null, .null, .null, [], none, none⟩

/-- The names of the fields, in declared order. -/
def fieldNames (schema : Schema) : List String :=
  schema.fields.map Field.name

/-- The field of a given name. -/
def field? (schema : Schema) (name : String) : Option Field :=
  schema.fields.find? fun field => field.name == name

/-- Whether the schema is a struct. -/
def isStruct (schema : Schema) : Bool :=
  schema.type == .struct

/-- Named schemas as fields, with their places. -/
def numbered (named : List (String × Schema)) : List Field :=
  named.mapIdx fun index entry => ⟨entry.1, index, entry.2⟩

theorem name_eq_of_field? {schema : Schema} {name : String} {field : Field}
    (h : schema.field? name = some field) : field.name = name := by
  simpa using List.find?_some h

theorem mem_of_field? {schema : Schema} {name : String} {field : Field}
    (h : schema.field? name = some field) : field ∈ schema.fields :=
  List.mem_of_find?_eq_some h

theorem field?_isSome_iff {schema : Schema} {name : String} :
    (schema.field? name).isSome ↔ name ∈ schema.fieldNames := by
  simp [field?, fieldNames]

theorem field?_eq_none_iff {schema : Schema} {name : String} :
    schema.field? name = none ↔ name ∉ schema.fieldNames := by
  rw [← field?_isSome_iff, Option.not_isSome_iff_eq_none]

theorem exists_field?_iff {schema : Schema} {name : String} :
    (∃ field, schema.field? name = some field) ↔ name ∈ schema.fieldNames :=
  Option.isSome_iff_exists.symm.trans field?_isSome_iff

end Schema

/-! ## Equality -/

mutual

/-- Whether two schemas count as equal. -/
def Schema.agrees : Schema → Schema → Bool
  | ⟨type, optional, default, name, version, doc, fields, key, value⟩,
    ⟨type', optional', default', name', version', doc', fields', key', value'⟩ =>
    type == type' && optional == optional' && default.agrees default' && name.agrees name' &&
      version.agrees version' && doc.agrees doc' && Schema.agreeFields fields fields' &&
      Schema.agreeParts key key' && Schema.agreeParts value value'

/-- Whether two lists of fields agree, field by field. -/
def Schema.agreeFields : List Field → List Field → Bool
  | [], [] => true
  | ⟨name, index, schema⟩ :: fields, ⟨name', index', schema'⟩ :: fields' =>
    name == name' && index == index' && schema.agrees schema' && Schema.agreeFields fields fields'
  | _, _ => false

/-- Whether two parts agree, or both are missing. -/
def Schema.agreeParts : Option Schema → Option Schema → Bool
  | none, none => true
  | some schema, some schema' => schema.agrees schema'
  | _, _ => false

end

end TableLayout
