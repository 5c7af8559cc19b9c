import TableLayout.Proofs.Schema.Lawful
import TableLayout.Schema.LongForm

/-!
# Schemas and their long form

What is lawful at every depth, and only that, can be written down in full and read back.

- `Schema.induction`: induction by way of the schemas that stand right in one.
- `Schema.forall_within_iff`: what holds at every depth, by way of the same.
- `Schema.longEntries`, `Schema.longForm_eq`: the long form by its entries, each of which is found
  under its key (`Schema.find?_keys` and the like).
- `Schema.describes_longEntries`: the entries describe a lawful schema if the long forms of the
  schemas right in it are read back.
- `Schema.read_longForm_iff`: the long form of a schema is read back exactly if the schema is lawful
  at every depth.
-/

namespace TableLayout

/-- The word for a type is read as the type, without a mark. -/
theorem Shorthand.type_text (type : ValueType) : Shorthand.type type.text = .ok (type, false) := by
  cases type <;> rfl

namespace Schema

open Datum (find?)

/-! ## Induction -/

/-- The schema of a field is smaller than the schema that it stands in, so that a recursion through
fields ends. -/
theorem sizeOf_field_lt {schema : Schema} {field : Field} (h : field ∈ schema.fields) :
    sizeOf field.schema < sizeOf schema := by
  have hfield : sizeOf field.schema < sizeOf field := by
    cases field
    simp only [Field.mk.sizeOf_spec]
    omega
  have hfields : sizeOf field < sizeOf schema.fields := List.sizeOf_lt_of_mem h
  cases schema
  simp only [Schema.mk.sizeOf_spec] at hfields ⊢
  omega

theorem sizeOf_key_lt {schema part : Schema} (h : part ∈ schema.key) :
    sizeOf part < sizeOf schema := by
  cases schema
  simp only [Option.mem_def] at h
  simp only [h, Schema.mk.sizeOf_spec, Option.some.sizeOf_spec]
  omega

theorem sizeOf_value_lt {schema part : Schema} (h : part ∈ schema.value) :
    sizeOf part < sizeOf schema := by
  cases schema
  simp only [Option.mem_def] at h
  simp only [h, Schema.mk.sizeOf_spec, Option.some.sizeOf_spec]
  omega

/-- Induction on schemas, by way of the schemas that stand right in one. -/
theorem induction {P : Schema → Prop}
    (step : ∀ schema : Schema, (∀ field ∈ schema.fields, P field.schema) →
      (∀ part ∈ schema.key, P part) → (∀ part ∈ schema.value, P part) → P schema)
    (schema : Schema) : P schema :=
  step schema (fun field _ => induction step field.schema) (fun part _ => induction step part)
    fun part _ => induction step part
termination_by schema
decreasing_by
  · exact sizeOf_field_lt ‹_›
  · exact sizeOf_key_lt ‹_›
  · exact sizeOf_value_lt ‹_›

/-- What holds at every depth holds for a schema and at every depth of all that stands right in
it. -/
theorem forall_within_iff {P : Schema → Prop} {schema : Schema} :
    (∀ nested, Within nested schema → P nested) ↔ P schema ∧
      (∀ field ∈ schema.fields, ∀ nested, Within nested field.schema → P nested) ∧
      (∀ part ∈ schema.key, ∀ nested, Within nested part → P nested) ∧
      ∀ part ∈ schema.value, ∀ nested, Within nested part → P nested := by
  constructor
  · intro h
    exact ⟨h _ .self, fun field hfield nested hnested => h _ (.field hfield hnested),
      fun part hpart nested hnested => h _ (.key hpart hnested),
      fun part hpart nested hnested => h _ (.value hpart hnested)⟩
  · rintro ⟨hself, hfields, hkey, hvalue⟩ nested hwithin
    cases hwithin with
    | self => exact hself
    | field hfield hnested => exact hfields _ hfield _ hnested
    | key hpart hnested => exact hkey _ hpart _ hnested
    | value hpart hnested => exact hvalue _ hpart _ hnested

/-! ## The entries of the long form -/

variable {schema : Schema}

/-- The entries of the long form. -/
def longEntries (schema : Schema) : List (Datum × Datum) :=
  attributes schema ++ (.text "fields", .list (longFields schema.fields)) ::
    longPart "keys" schema.key ++ longPart "values" schema.value

/-- A long form is the map of its entries. -/
theorem longForm_eq (schema : Schema) : schema.longForm = .map (longEntries schema) := by
  cases schema
  rw [longForm]
  rfl

section Entries

variable (schema)

/-- Every key of a long form is one that a description may have. -/
theorem checkKeys_longEntries : checkKeys (longEntries schema) = .ok () := by
  unfold longEntries
  -- Keys do not depend on values, so each of the four shapes of a long form computes.
  cases schema.key <;> cases schema.value <;> simp only [longPart] <;> rfl

theorem readType_longEntries : readType (longEntries schema) = .ok (schema.type, false) :=
  Shorthand.type_text schema.type

/-- The keys are described in a long form exactly if the schema has any. -/
theorem find?_keys : find? (longEntries schema) "keys" = schema.key.map longForm := by
  unfold longEntries
  cases schema.key <;> cases schema.value <;> simp only [longPart] <;> rfl

theorem find?_items : find? (longEntries schema) "items" = none := by
  unfold longEntries
  cases schema.key <;> cases schema.value <;> simp only [longPart] <;> rfl

theorem find?_values : find? (longEntries schema) "values" = schema.value.map longForm := by
  unfold longEntries
  cases schema.key <;> cases schema.value <;> simp only [longPart] <;> rfl

/-- The elements are described under `values`, also those of an array. -/
theorem element?_longEntries : element? (longEntries schema) = schema.value.map longForm := by
  rw [element?, find?_items, find?_values]
  cases schema.value with
  | none => rfl
  | some part =>
    -- A long form is a map, so it is not taken for a missing description.
    simp [longForm_eq, Datum.notNull?]

end Entries

/-! ## Reading back -/

/-- A part that is missing is left out of a long form, and so it is missing when this is read
back. -/
theorem readPart_longForm {part : Option Schema}
    (h : ∀ schema ∈ part, read schema.longForm = .ok schema) :
    readPart (part.map longForm) = .ok part := by
  cases part with
  | none => exact readPart_none
  | some schema =>
    rw [Option.map_some, readPart_some, h schema rfl]
    rfl

/-- The fields are read back from their long forms, if each has a name, stands at its place and has
a schema that is read back. -/
theorem readFields_longFields {fields : List Field} {index : Nat}
    (hnamed : ∀ field ∈ fields, field.name ≠ "")
    (hplaced : ∀ (place : Nat) (field : Field), fields[place]? = some field →
      field.index = index + place)
    (hread : ∀ field ∈ fields, read field.schema.longForm = .ok field.schema) :
    readFields index (longFields fields) = .ok fields := by
  rw [readFields_eq_ok_iff, longFields_eq_map]
  -- The index moves on with the fields, so it cannot be fixed to zero here.
  induction fields generalizing index with
  | nil => exact .nil
  | cons field fields ih =>
    obtain ⟨hname, hrestNamed⟩ := List.forall_mem_cons.mp hnamed
    obtain ⟨hschema, hrestRead⟩ := List.forall_mem_cons.mp hread
    obtain ⟨name, index', part⟩ := field
    obtain rfl : index' = index := hplaced 0 ⟨name, index', part⟩ rfl
    -- A field is written with its schema whole, under a key of its own.
    have hitem : FieldDescribed (.map [(.text "name", .text name), (.text "schema", part.longForm)])
        name part.longForm := .whole rfl hname rfl rfl
    refine .cons (.described hitem hschema)
      (ih hrestNamed (fun place field' hfield' => ?_) hrestRead)
    rw [hplaced (place + 1) field' hfield', Nat.add_assoc, Nat.add_comm 1]

/-- The entries of the long form describe a lawful schema, if the long forms of all that stands
right in it are read back. -/
theorem describes_longEntries (hlawful : schema.Lawful)
    (hfields : ∀ field ∈ schema.fields, read field.schema.longForm = .ok field.schema)
    (hkey : ∀ part ∈ schema.key, read part.longForm = .ok part)
    (hvalue : ∀ part ∈ schema.value, read part.longForm = .ok part) :
    Describes (longEntries schema) schema where
  keys := checkKeys_longEntries schema
  type := ⟨false, readType_longEntries schema, rfl⟩
  fields := by
    -- Fields are numbered from zero on when they are read, which is how a lawful schema has them.
    have hplaced : ∀ (place : Nat) (field : Field), schema.fields[place]? = some field →
        field.index = 0 + place := by
      intro place field hfield
      rw [hlawful.placed place field hfield, Nat.zero_add]
    exact (readFieldList_list _).trans (readFields_longFields hlawful.named hplaced hfields)
  key := by rw [find?_keys, readPart_longForm hkey]
  element := by rw [checkElement, find?_items]; rfl
  value := by rw [element?_longEntries, readPart_longForm hvalue]
  default := rfl
  name := rfl
  version := rfl
  doc := rfl
  checked := (lawful_iff_check.mp hlawful).1

/-- A schema that is lawful at every depth is read back from its long form. -/
theorem read_longForm (schema : Schema) (h : ∀ nested, Within nested schema → nested.Lawful) :
    read schema.longForm = .ok schema := by
  -- What is lawful at every depth of a schema is so in all that stands right in it, so the long
  -- forms of these are read back.
  induction schema using Schema.induction with
  | step schema hfields hkey hvalue =>
    obtain ⟨hself, hwithinFields, hwithinKey, hwithinValue⟩ := forall_within_iff.mp h
    rw [longForm_eq, read_map, readEntries_eq_ok_iff]
    refine describes_longEntries hself (fun field hfield => ?_) (fun part hpart => ?_)
      fun part hpart => ?_
    · exact hfields field hfield (hwithinFields field hfield)
    · exact hkey part hpart (hwithinKey part hpart)
    · exact hvalue part hpart (hwithinValue part hpart)

/-- A schema can be written down in full and read back, whatever its default, its names, its version
and its words are, exactly if the schemas at every depth of it are lawful. -/
theorem read_longForm_iff :
    read schema.longForm = .ok schema ↔ ∀ nested, Within nested schema → nested.Lawful := by
  constructor
  · intro h nested hwithin
    obtain ⟨part, hpart⟩ := exists_read_within hwithin h
    exact lawful_of_read hpart
  · exact read_longForm schema

/-- A map from texts to structs, with a default that is no map. -/
def lineMap : Schema :=
  { ofType .map true with
    default := .list [.null, .map [(.int 1, .text "type")]]
    name := .text "schema"
    key := some (ofType .string false)
    value := some lineSchema }

theorem read_longForm_lineMap :
    (∀ nested, Within nested lineMap → nested.Lawful) ∧ read lineMap.longForm = .ok lineMap := by
  have hstring : ∀ nested, Within nested (ofType .string false) → nested.Lawful :=
    forall_within_iff.mpr ⟨lawful_ofType _ _, nofun, nofun, nofun⟩
  have hline : ∀ nested, Within nested lineSchema → nested.Lawful :=
    fun _ hwithin => lawful_of_read (exists_read_within hwithin read_lineDescription).choose_spec
  have hmap : ∀ nested, Within nested lineMap → nested.Lawful := by
    refine forall_within_iff.mpr ⟨⟨fun _ => rfl, nofun, List.nodup_nil, nofun⟩, nofun, ?_, ?_⟩
    · rintro _ ⟨⟩
      exact hstring
    · rintro _ ⟨⟩
      exact hline
  exact ⟨hmap, read_longForm_iff.mpr hmap⟩

end Schema

end TableLayout
