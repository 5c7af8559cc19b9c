import Mathlib.Data.List.Nodup
import TableLayout.Proofs.Distinct
import TableLayout.Proofs.Schema.Grammar
import TableLayout.Proofs.Schema.Reading

/-!
# Lawful schemas

What may be relied on in a schema that was read, and in every schema that stands in it.

- `Schema.Within`: a schema is another one or stands in it, at any depth.
- `Schema.Lawful`: only structs have fields, and these have names, no two the same, and know their
  places.
- `Schema.byName`: the fields by their names. `Schema.Answers`: a lookup of a name gives exactly the
  field that is declared under it, whether the fields are gone through or kept by their names.
- `Schema.exists_read_within`: whatever stands in a schema that was read could be read on its own.
- `Schema.answers_of_read`: a schema that was read is lawful at every depth and answers lookups.
-/

namespace TableLayout

/-- A field text gives a field with a name and with a type that a text of its own spells. -/
theorem Shorthand.name_ne_of_field {entry name : String} {type : ValueType} {marked : Bool}
    (h : Shorthand.field entry = .ok (name, type, marked)) :
    name ≠ "" ∧ ∃ typeText, Shorthand.type typeText = .ok (type, marked) := by
  have hspells := field_eq_ok_iff.mp h
  generalize Text.strip entry = text at hspells
  cases hspells with
  | mk hne _ _ htype => exact ⟨hne, _, htype.type_eq_ok⟩

namespace Schema

/-- A schema is another one or stands in it: as the schema of a field, of the keys or of the
elements, at any depth. -/
inductive Within (nested : Schema) : Schema → Prop where
  | self : Within nested nested
  | field {schema : Schema} {field : Field} (hfield : field ∈ schema.fields)
      (h : Within nested field.schema) : Within nested schema
  | key {schema part : Schema} (hkey : schema.key = some part) (h : Within nested part) :
      Within nested schema
  | value {schema part : Schema} (hvalue : schema.value = some part) (h : Within nested part) :
      Within nested schema

/-- What holds for a schema by itself, without the schemas that stand in it. -/
structure Lawful (schema : Schema) : Prop where
  fieldless : schema.type ≠ .struct → schema.fields = []
  named : ∀ field ∈ schema.fields, field.name ≠ ""
  distinct : schema.fieldNames.Nodup
  placed : ∀ (place : Nat) (field : Field), schema.fields[place]? = some field → field.index = place

/-- The fields by their names, as they are kept for lookups. -/
def byName (schema : Schema) : NameMap Field :=
  .ofList (schema.fields.map fun field => (field.name, field))

/-- A schema answers every lookup of a name with the field that is declared under it. -/
structure Answers (schema : Schema) : Prop where
  declared : ∀ name field,
    schema.field? name = some field ↔ field ∈ schema.fields ∧ field.name = name
  byName : ∀ name, schema.byName.find? name = schema.field? name
  fieldless : schema.type ≠ .struct → ∀ name, schema.field? name = none

variable {schema : Schema}

/-- What is checked when a schema is made is half of what makes it lawful. That fields have names
and know their places is up to whoever makes the fields. -/
theorem lawful_iff_check :
    schema.Lawful ↔ schema.check = .ok schema ∧ (∀ field ∈ schema.fields, field.name ≠ "") ∧
      ∀ (place : Nat) (field : Field), schema.fields[place]? = some field →
        field.index = place := by
  rw [check_eq_ok_iff]
  constructor
  · intro h
    exact ⟨⟨fun hne => by_contra fun htype => hne (h.fieldless htype), h.distinct⟩, h.named,
      h.placed⟩
  · rintro ⟨⟨hstruct, hdistinct⟩, hnamed, hplaced⟩
    exact ⟨fun htype => by_contra fun hne => htype (hstruct hne), hnamed, hdistinct, hplaced⟩

/-- Where no two fields have one name, a lookup finds the field that is declared under it. -/
theorem field?_eq_some_iff (hdistinct : schema.fieldNames.Nodup) {name : String} {field : Field} :
    schema.field? name = some field ↔ field ∈ schema.fields ∧ field.name = name := by
  constructor
  · intro h
    exact ⟨mem_of_field? h, name_eq_of_field? h⟩
  · rintro ⟨hfield, rfl⟩
    have hname : field.name ∈ schema.fieldNames := List.mem_map_of_mem hfield
    obtain ⟨found, hfound⟩ := exists_field?_iff.mpr hname
    -- The first field of that name is the only one.
    obtain rfl : found = field :=
      List.inj_on_of_nodup_map hdistinct (mem_of_field? hfound) hfield (name_eq_of_field? hfound)
    exact hfound

/-- A field is found under its name in whichever way it is looked for. -/
theorem find?_byName (hdistinct : schema.fieldNames.Nodup) (name : String) :
    schema.byName.find? name = schema.field? name := by
  have hnames : ((schema.fields.map fun field => (field.name, field)).map Prod.fst).Nodup := by
    rw [List.map_map]
    exact hdistinct
  refine Option.ext fun field => ?_
  rw [NameMap.find?_eq_some_iff, byName, NameMap.entries_ofList hnames,
    field?_eq_some_iff hdistinct]
  simp [and_comm]

/-- A lawful schema answers every lookup of a name. -/
theorem Lawful.answers (h : schema.Lawful) : schema.Answers := by
  constructor
  case declared => exact fun name field => field?_eq_some_iff h.distinct
  case byName => exact find?_byName h.distinct
  -- Only structs declare fields, and every other schema answers that there is none.
  case fieldless =>
    intro htype name
    rw [field?, h.fieldless htype, List.find?_nil]

theorem lawful_ofType (type : ValueType) (optional : Bool) : (ofType type optional).Lawful where
  fieldless _ := rfl
  named := nofun
  distinct := List.nodup_nil
  placed := nofun

/-! ## Schemas that were read -/

/-- A field that was read has a name, is where its item stands, and has a schema that could be read
on its own. -/
theorem ReadsField.spec {index : Nat} {item : Datum} {field : Field}
    (h : ReadsField index item field) :
    field.name ≠ "" ∧ field.index = index ∧ ∃ part, read part = .ok field.schema := by
  cases h with
  | short hentry =>
    obtain ⟨hne, typeText, htype⟩ := Shorthand.name_ne_of_field hentry
    exact ⟨hne, rfl, .text typeText, read_eq_ok_iff.mpr (.inl ⟨_, _, _, rfl, htype, rfl⟩)⟩
  | described hitem hpart => exact ⟨hitem.name_ne, rfl, _, hpart⟩

section Fields

variable {items : List Datum} {fields : List Field} (h : readFields 0 items = .ok fields)
include h

theorem exists_readsField_of_mem {field : Field} (hfield : field ∈ fields) :
    ∃ index item, ReadsField index item field := by
  obtain ⟨⟨item, index⟩, -, hreads⟩ :=
    exists_of_forall₂ (readFields_eq_ok_iff.mp h).flip field hfield
  exact ⟨index, item, hreads⟩

/-- A field that was read knows its place among the fields. -/
theorem index_eq_of_readFields {place : Nat} {field : Field}
    (hfield : fields[place]? = some field) : field.index = place := by
  -- Each field takes its index from its item, and the items are counted from zero.
  obtain ⟨⟨item, index⟩, hitem, hreads⟩ :=
    exists_getElem?_of_forall₂ (readFields_eq_ok_iff.mp h).flip hfield
  rw [List.getElem?_zipIdx] at hitem
  obtain ⟨item', -, hplaced⟩ := Option.map_eq_some_iff.mp hitem
  obtain ⟨-, rfl⟩ := Prod.mk.inj hplaced
  rw [hreads.spec.2.1, Nat.zero_add]

end Fields

section Described

variable {entries : List (Datum × Datum)} (h : Describes entries schema)
include h

theorem Describes.exists_readFields : ∃ items, readFields 0 items = .ok schema.fields := by
  rcases readFieldList_eq_ok_iff.mp h.fields with ⟨-, hnil⟩ | ⟨items, -, hitems⟩
  · exact ⟨[], readFields_eq_ok_iff.mpr (hnil ▸ .nil)⟩
  · exact ⟨items, hitems⟩

/-- Entries describe lawful schemas only. -/
theorem Describes.lawful : schema.Lawful := by
  obtain ⟨items, hitems⟩ := h.exists_readFields
  refine lawful_iff_check.mpr ⟨h.checked, fun field hfield => ?_, fun place field hfield => ?_⟩
  · obtain ⟨index, item, hreads⟩ := exists_readsField_of_mem hitems hfield
    exact hreads.spec.1
  · exact index_eq_of_readFields hitems hfield

theorem Describes.exists_read_field {field : Field} (hfield : field ∈ schema.fields) :
    ∃ part, read part = .ok field.schema := by
  obtain ⟨items, hitems⟩ := h.exists_readFields
  obtain ⟨index, item, hreads⟩ := exists_readsField_of_mem hitems hfield
  exact hreads.spec.2.2

end Described

theorem exists_read_of_readPart {value? : Option Datum} {part : Option Schema} {schema : Schema}
    (h : readPart value? = .ok part) (hpart : part = some schema) :
    ∃ spec, read spec = .ok schema := by
  rcases readPart_eq_ok_iff.mp h with ⟨-, hnone⟩ | ⟨spec, schema', -, hsome, hread⟩
  · exact nomatch hnone.symm.trans hpart
  · obtain rfl := Option.some.inj (hsome.symm.trans hpart)
    exact ⟨spec, hread⟩

/-- Whatever is read is lawful. -/
theorem lawful_of_read {spec : Datum} (h : read spec = .ok schema) : schema.Lawful := by
  rcases read_eq_ok_iff.mp h with ⟨_, type, marked, -, -, rfl⟩ | ⟨entries, -, hentries⟩
  · exact lawful_ofType type marked
  · exact hentries.lawful

/-- Whatever stands in a schema that was read could be read on its own. -/
theorem exists_read_within {nested : Schema} (hwithin : Within nested schema) {spec : Datum}
    (h : read spec = .ok schema) : ∃ part, read part = .ok nested := by
  -- On the way down to the nested schema: what stands right in a schema was read from a part of its
  -- description, and a schema that was read from a text has nothing in it.
  induction hwithin generalizing spec with
  | self => exact ⟨spec, h⟩
  | field hfield _ ih =>
    rcases read_eq_ok_iff.mp h with ⟨_, type, marked, -, -, rfl⟩ | ⟨entries, -, hentries⟩
    · cases hfield
    · obtain ⟨part, hpart⟩ := hentries.exists_read_field hfield
      exact ih hpart
  | key hkey _ ih =>
    rcases read_eq_ok_iff.mp h with ⟨_, type, marked, -, -, rfl⟩ | ⟨entries, -, hentries⟩
    · cases hkey
    · obtain ⟨part, hpart⟩ := exists_read_of_readPart hentries.key hkey
      exact ih hpart
  | value hvalue _ ih =>
    rcases read_eq_ok_iff.mp h with ⟨_, type, marked, -, -, rfl⟩ | ⟨entries, -, hentries⟩
    · cases hvalue
    · obtain ⟨part, hpart⟩ := exists_read_of_readPart hentries.value hvalue
      exact ih hpart

/-- In a schema that was read, the schemas at every depth are lawful, and a lookup of a name gives
exactly the field that is declared under it. -/
theorem answers_of_read {spec : Datum} (h : read spec = .ok schema) {nested : Schema}
    (hwithin : Within nested schema) : nested.Lawful ∧ nested.Answers := by
  obtain ⟨part, hpart⟩ := exists_read_within hwithin h
  have hlawful : nested.Lawful := lawful_of_read hpart
  exact ⟨hlawful, hlawful.answers⟩

/-- The description of a struct with a field as a text and one with a logical name. -/
def lineDescription : Datum :=
  .map [(.text "fields", .list [
      .text " id: INT64",
      .map [(.text "logical", .text "Decimal"), (.text "type", .text "bytes?"),
        (.text "name", .text "amount")]]),
    (.text "type", .text "struct")]

/-- The schema of that struct. -/
def lineSchema : Schema :=
  { ofType .struct false with
    fields := numbered [("id", ofType .int64 false),
      ("amount", { ofType .bytes true with name := .text "Decimal" })] }

theorem read_lineDescription : read lineDescription = .ok lineSchema := by
  have hamount : read (.map [(.text "type", .text "bytes?"), (.text "name", .text "Decimal")]) =
      .ok { ofType .bytes true with name := .text "Decimal" } :=
    read_map_of_type rfl rfl rfl rfl rfl rfl
  refine read_eq_ok_iff.mpr (.inr ⟨_, rfl, rfl, ⟨false, rfl, rfl⟩, ?_, readPart_none, rfl,
    readPart_none, rfl, rfl, rfl, rfl, rfl⟩)
  refine readFieldList_eq_ok_iff.mpr (.inr ⟨_, rfl, readFields_eq_ok_iff.mpr ?_⟩)
  exact .cons (.short rfl) (.cons (.described (.spread rfl (by decide) rfl) hamount) .nil)

/-- The description of an array of these structs. -/
theorem read_lineItems :
    read (.map [(.text "type", .text "array"), (.text "items", lineDescription)]) =
      .ok { ofType .array false with value := some lineSchema } := by
  have hitems : readPart (some lineDescription) = .ok (some lineSchema) :=
    readPart_eq_ok_iff.mpr (.inr ⟨_, _, rfl, rfl, read_lineDescription⟩)
  exact read_eq_ok_iff.mpr (.inr ⟨_, rfl, rfl, ⟨false, rfl, rfl⟩, readFieldList_none, readPart_none,
    rfl, hitems, rfl, rfl, rfl, rfl, rfl⟩)

theorem answers_lineSchema :
    ∃ schema, read (.map [(.text "type", .text "array"), (.text "items", lineDescription)]) =
      .ok schema ∧ Within lineSchema schema ∧ lineSchema.Lawful ∧ lineSchema.Answers := by
  have hwithin : Within lineSchema { ofType .array false with value := some lineSchema } :=
    .value rfl .self
  exact ⟨_, read_lineItems, hwithin, answers_of_read read_lineItems hwithin⟩

end Schema

end TableLayout
