import TableLayout.Datum.Keys
import TableLayout.Datum.Printed
import TableLayout.Schema.Basic

/-!
# Errors in schemas (specification §3.1)

- `SchemaError`: what can be wrong with the description of a schema.
- `SchemaError.message`: the words for it.
- `SchemaError.isMisuse`: whether the description is no data that could be reported on.
-/

namespace TableLayout

/-- What can be wrong with the description of a schema. -/
inductive SchemaError where
  /-- Neither a text nor a map. -/
  | notASpec (kind : Datum.Kind)
  /-- Keys that no schema has, sorted. -/
  | surplusKeys (names : List String)
  /-- Surplus keys that cannot be listed. -/
  | unlistableKeys (fault : Datum.KeyFault)
  | missingType (entries : List (Datum × Datum))
  | typeNotText (kind : Datum.Kind)
  /-- No word with an optional question mark. -/
  | malformedType (spec : String)
  /-- A word that names no type. -/
  | unknownType (name : String)
  | fieldsNotList (kind : Datum.Kind)
  /-- No name, colon and type. -/
  | malformedField (entry : String)
  /-- An entry among the fields that is neither a text nor a map. -/
  | fieldNotSpec (index : Nat) (kind : Datum.Kind)
  | unnamedField (index : Nat)
  /-- Both a whole schema and attributes of one. -/
  | mixedField (index : Nat) (name : String)
  /-- Both `items` and `values`. -/
  | twoElements
  /-- Fields on a type without fields. -/
  | strayFields (type : ValueType)
  /-- Names of several fields, sorted. -/
  | repeatedFields (names : List String)
  /-- A value in the place of a type. -/
  | notAType (kind : Datum.Kind)
  /-- A value that names no type. -/
  | noSuchType (value : Datum)

namespace SchemaError

/-- The words for an error. -/
def message : SchemaError → String
  | .notASpec kind => s!"Schema spec must be a string or dict, got {kind.name}"
  | .surplusKeys names => s!"Unknown schema keys: {Text.joined names}"
  | .unlistableKeys fault => fault.message
  | .missingType entries => s!"Schema spec is missing 'type': {(Datum.map entries).quoted}"
  | .typeNotText kind => s!"Schema type must be a string, got {kind.name}"
  | .malformedType spec =>
    s!"Invalid schema type '{spec}'. Expected a type name such as 'int64' or 'string?'"
  | .unknownType name =>
    s!"Unknown schema type '{name}'. Supported types: "
      ++ Text.joined (ValueType.all.map ValueType.text)
  | .fieldsNotList kind => s!"'fields' must be a list, got {kind.name}"
  | .malformedField entry =>
    s!"Invalid field spec '{entry}'. Expected format: 'field_name: type' or 'field_name: type?'"
  | .fieldNotSpec index kind => s!"fields[{index}] must be a string or dict, got {kind.name}"
  | .unnamedField index => s!"fields[{index}] must have a non-empty 'name'"
  | .mixedField index name => s!"fields[{index}] ('{name}') mixes 'schema' with inline schema keys"
  | .twoElements => "Schema spec cannot define both 'items' and 'values'"
  | .strayFields type => s!"Only struct schemas have fields, got fields for type {type.text}"
  | .repeatedFields names => s!"Duplicate field names in struct schema: {Text.joined names}"
  | .notAType kind => s!"ConnectSchema.type must be a SchemaType, got {kind.name}"
  | .noSuchType value => s!"{value.quoted} is not a valid SchemaType"

/-- Whether the error lies in how the description was handed over, so that nothing is reported on
the description itself. -/
def isMisuse : SchemaError → Bool
  | .unlistableKeys _ | .notAType _ => true
  | _ => false

end SchemaError

namespace Schema

/-- A schema, unless it has fields without being a struct or two fields of one name. -/
def check (schema : Schema) : Except SchemaError Schema :=
  if !schema.fields.isEmpty && !schema.isStruct then .error (.strayFields schema.type)
  else if schema.fieldNames.Nodup then .ok schema
  else .error (.repeatedFields (Text.repeated schema.fieldNames))

/-- A type, unless a bare value stands in its place. -/
def typeOnly : Datum ⊕ ValueType → Except SchemaError ValueType
  | .inl value => .error (.notAType value.kind)
  | .inr type => .ok type

/-- The type that a value names. -/
def typeNamed (value : Datum) : Except SchemaError ValueType :=
  match value.text?.bind ValueType.ofText? with
  | some type => .ok type
  | none => .error (.noSuchType value)

theorem check_eq_ok {schema checked : Schema} (h : schema.check = .ok checked) :
    checked = schema := by
  unfold check at h
  split at h
  · cases h
  · split at h
    · exact (Except.ok.inj h).symm
    · cases h

theorem check_eq_ok_iff {schema : Schema} :
    schema.check = .ok schema ↔
      (schema.fields ≠ [] → schema.type = .struct) ∧ schema.fieldNames.Nodup := by
  unfold check
  by_cases hfields : schema.fields = [] <;> by_cases hstruct : schema.type = .struct <;>
    by_cases hnodup : schema.fieldNames.Nodup <;>
    simp [isStruct, hfields, hstruct, hnodup]

end Schema

end TableLayout
