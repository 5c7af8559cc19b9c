import TableLayout.Schema.Basic

/-!
# The long form of schemas

Every schema has a description that spells out all of its attributes, one entry each, in the form
that `Schema.read` takes.

- `Schema.longForm`: the description of a schema.
- `Schema.attributes`: the entries of the attributes that are values themselves.
- `Schema.longFields`: the descriptions of fields, each with its name and its whole schema.
-/

namespace TableLayout.Schema

/-- The attributes of a schema that are values themselves, each under its key. -/
def attributes (schema : Schema) : List (Datum × Datum) := [
  (.text "type", .text schema.type.text),
  (.text "optional", .bool schema.optional),
  (.text "default", schema.default),
  (.text "name", schema.name),
  (.text "version", schema.version),
  (.text "doc", schema.doc)]

mutual

/-- The description of a schema that spells out all of its attributes. -/
def longForm : Schema → Datum
  | ⟨type, optional, default, name, version, doc, fields, key, value⟩ =>
    .map (attributes ⟨type, optional, default, name, version, doc, [], none, none⟩
      ++ (.text "fields", .list (longFields fields)) :: longPart "keys" key
      ++ longPart "values" value)

/-- The descriptions of fields, by name and whole schema. -/
def longFields : List Field → List Datum
  | [] => []
  | ⟨name, _, schema⟩ :: fields =>
    .map [(.text "name", .text name), (.text "schema", schema.longForm)] :: longFields fields

/-- The entry for a part, if the schema has it. -/
def longPart (under : String) : Option Schema → List (Datum × Datum)
  | none => []
  | some schema => [(.text under, schema.longForm)]

end

theorem longFields_eq_map (fields : List Field) :
    longFields fields = fields.map fun field =>
      .map [(.text "name", .text field.name), (.text "schema", field.schema.longForm)] := by
  induction fields with
  | nil => simp [longFields]
  | cons field fields ih =>
    obtain ⟨name, index, schema⟩ := field
    simp [longFields, ih]

end TableLayout.Schema
