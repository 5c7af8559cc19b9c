import TableLayout.Proofs.Failure
import TableLayout.Schema.Reader

/-!
# What a description describes

One statement for each function that reads a part of a description, so that nothing further down
has to look into one of them.

- `Schema.FieldDescribed`: an item among fields describes a field by a map.
- `Schema.FieldShape`, `Schema.fieldShape`: an item among fields is a field text, a map that
  describes a field, or is refused at once.
- `Schema.readField_eq_ok_iff`, `Schema.readFields_eq_mapM`: reading a field and a list of fields.
- `Schema.Describes`, `Schema.readEntries_eq_ok_iff`: the entries of a map describe a schema.
- `Schema.read_eq_ok_iff`: what any value describes.
-/

namespace TableLayout.Schema

open Datum (find?)

/-! ## Fields -/

/-- A map among fields gives the name of a field and the description of its schema, which stands
whole under `schema` or is spread over the other entries of the map. -/
inductive FieldDescribed : Datum → String → Datum → Prop where
  | whole {entries : List (Datum × Datum)} {name : String} {part : Datum}
      (hname : find? entries "name" = some (.text name)) (hne : name ≠ "")
      (hpart : find? (fieldSpec entries) "schema" = some part)
      (halone : (fieldSpec entries).length = 1) : FieldDescribed (.map entries) name part
  | spread {entries : List (Datum × Datum)} {name : String}
      (hname : find? entries "name" = some (.text name)) (hne : name ≠ "")
      (hnone : find? (fieldSpec entries) "schema" = none) :
      FieldDescribed (.map entries) name (.map (fieldSpec entries))

theorem read_map (entries : List (Datum × Datum)) : read (.map entries) = readEntries entries := by
  rw [read]

/-- No field is described without a name. -/
theorem FieldDescribed.name_ne {item part : Datum} {name : String}
    (h : FieldDescribed item name part) : name ≠ "" := by
  cases h with
  | whole _ hne _ _ => exact hne
  | spread _ hne _ => exact hne

/-- The field that a map describes is the one whose schema its description gives. -/
theorem FieldDescribed.readField_eq {item part : Datum} {name : String}
    (h : FieldDescribed item name part) (index : Nat) :
    readField index item = (⟨name, index, ·⟩) <$> read part := by
  cases h with
  | whole hname hne hpart halone =>
    rw [readField, hname]
    simp only [if_neg hne]
    rw [readFieldSchema]
    split
    · next value hvalue =>
      obtain rfl : part = value := Option.some.inj (hpart.symm.trans hvalue)
      rw [if_neg (not_not_intro halone)]
    · next hvalue => cases hpart.symm.trans hvalue
  | spread hname hne hnone =>
    rw [readField, hname]
    simp only [if_neg hne]
    rw [readFieldSchema, read_map]
    split
    · next value hvalue => cases hnone.symm.trans hvalue
    · rfl

/-- What an item among fields can be: a field text, a map that describes a field, or neither, for
which it is refused with a report on it. -/
inductive FieldShape (index : Nat) : Datum → Prop where
  | short (entry : String) : FieldShape index (.text entry)
  | described {item part : Datum} {name : String} (h : FieldDescribed item name part) :
      FieldShape index item
  | refused {item : Datum} {error : SchemaError} (h : readField index item = .error error)
      (hreport : error.isMisuse = false) : FieldShape index item

/-- Every item among fields has one of these shapes. -/
theorem fieldShape (index : Nat) (item : Datum) : FieldShape index item := by
  cases item with
  | text entry => exact .short entry
  | map entries =>
    by_cases hname : ∃ name, find? entries "name" = some (.text name) ∧ name ≠ ""
    · obtain ⟨name, hname, hne⟩ := hname
      cases hpart : find? (fieldSpec entries) "schema" with
      | none => exact .described (.spread hname hne hpart)
      | some part =>
        -- A schema given whole leaves no room for attributes beside it.
        by_cases halone : (fieldSpec entries).length = 1
        · exact .described (.whole hname hne hpart halone)
        · have hmixed : readField index (.map entries) = .error (.mixedField index name) := by
            rw [readField, hname]
            simp only [if_neg hne]
            rw [readFieldSchema]
            split
            · rw [if_pos halone]
              rfl
            · next hvalue => cases hpart.symm.trans hvalue
          exact .refused hmixed rfl
    -- Without a name, or with an empty one, nothing else of the item is looked at.
    · have hunnamed : readField index (.map entries) = .error (.unnamedField index) := by
        rw [readField]
        split
        · next name hfound =>
          by_cases hne : name = ""
          · rw [if_pos hne]
          · exact absurd ⟨name, hfound, hne⟩ hname
        · rfl
      exact .refused hunnamed rfl
  | _ => exact .refused (by rw [readField] <;> simp) rfl

/-- An item describes the field at a place: as a text, or as a map whose description of the schema
is read. -/
inductive ReadsField (index : Nat) : Datum → Field → Prop where
  | short {entry name : String} {type : ValueType} {marked : Bool}
      (h : Shorthand.field entry = .ok (name, type, marked)) :
      ReadsField index (.text entry) ⟨name, index, .ofType type marked⟩
  | described {item part : Datum} {name : String} {schema : Schema}
      (h : FieldDescribed item name part) (hpart : read part = .ok schema) :
      ReadsField index item ⟨name, index, schema⟩

/-- An item is read as a field exactly if it describes this field. -/
theorem readField_eq_ok_iff {index : Nat} {item : Datum} {field : Field} :
    readField index item = .ok field ↔ ReadsField index item field := by
  constructor
  · intro h
    cases fieldShape index item with
    | short entry =>
      rw [readField] at h
      obtain ⟨⟨name, type, marked⟩, hentry, rfl⟩ := map_eq_ok_iff.mp h
      exact .short hentry
    | described hitem =>
      rw [hitem.readField_eq] at h
      obtain ⟨schema, hpart, rfl⟩ := map_eq_ok_iff.mp h
      exact .described hitem hpart
    | refused herror => cases herror.symm.trans h
  · intro h
    cases h with
    | short hentry =>
      rw [readField, hentry]
      rfl
    | described hitem hpart =>
      rw [hitem.readField_eq, hpart]
      rfl

/-- Fields are read one by one, each at its place. -/
theorem readFields_eq_mapM (index : Nat) (items : List Datum) :
    readFields index items = (items.zipIdx index).mapM fun item => readField item.2 item.1 := by
  induction items generalizing index with
  | nil =>
    rw [readFields]
    rfl
  | cons item items ih =>
    rw [readFields, List.zipIdx_cons, List.mapM_cons, ih]

/-- A list of items is read as the fields that the items describe, each at its place. -/
theorem readFields_eq_ok_iff {index : Nat} {items : List Datum} {fields : List Field} :
    readFields index items = .ok fields ↔
      List.Forall₂ (fun item field => ReadsField item.2 item.1 field) (items.zipIdx index)
        fields := by
  rw [readFields_eq_mapM, mapM_eq_ok_iff]
  simp only [readField_eq_ok_iff]

@[simp] theorem readFieldList_none : readFieldList none = .ok [] := by
  rw [readFieldList]

theorem readFieldList_list (items : List Datum) :
    readFieldList (some (.list items)) = readFields 0 items := by
  rw [readFieldList]

/-- Fields are given by a list, and there are none if there is no value at all. -/
theorem readFieldList_eq_ok_iff {value? : Option Datum} {fields : List Field} :
    readFieldList value? = .ok fields ↔
      value? = none ∧ fields = [] ∨
        ∃ items, value? = some (.list items) ∧ readFields 0 items = .ok fields := by
  cases value? with
  | none => simp [eq_comm]
  | some value =>
    cases value with
    | list items => simp [readFieldList_list]
    | _ => rw [readFieldList] <;> simp

/-! ## Parts and whole schemas -/

@[simp] theorem readPart_none : readPart none = .ok none := by
  rw [readPart]

theorem readPart_some (spec : Datum) : readPart (some spec) = some <$> read spec := by
  rw [readPart]

/-- A part is missing if it is not described, and else it is what its description is read as. -/
theorem readPart_eq_ok_iff {value? : Option Datum} {part : Option Schema} :
    readPart value? = .ok part ↔
      value? = none ∧ part = none ∨
        ∃ value schema, value? = some value ∧ part = some schema ∧ read value = .ok schema := by
  cases value? with
  | none => simp [eq_comm]
  | some value =>
    rw [readPart_some, map_eq_ok_iff]
    constructor
    · rintro ⟨schema, hread, rfl⟩
      exact .inr ⟨value, schema, rfl, rfl, hread⟩
    · rintro (⟨h, -⟩ | ⟨_, schema, h, rfl, hread⟩)
      · cases h
      · obtain rfl := Option.some.inj h
        exact ⟨schema, hread, rfl⟩

/-- The entries of a map describe a schema. -/
structure Describes (entries : List (Datum × Datum)) (schema : Schema) : Prop where
  keys : checkKeys entries = .ok ()
  type : ∃ marked, readType entries = .ok (schema.type, marked) ∧
    schema.optional = readOptional entries marked
  fields : readFieldList (find? entries "fields") = .ok schema.fields
  key : readPart (find? entries "keys") = .ok schema.key
  element : checkElement entries = .ok ()
  value : readPart (element? entries) = .ok schema.value
  default : schema.default = Datum.get entries "default"
  name : schema.name = Datum.get entries "name"
  version : schema.version = Datum.get entries "version"
  doc : schema.doc = Datum.get entries "doc"
  checked : schema.check = .ok schema

/-- Entries are read as a schema exactly if they describe it. -/
theorem readEntries_eq_ok_iff {entries : List (Datum × Datum)} {schema : Schema} :
    readEntries entries = .ok schema ↔ Describes entries schema := by
  rw [readEntries]
  constructor
  · intro h
    -- One step for each part, in the order in which they are read.
    obtain ⟨⟨⟩, hkeys, h⟩ := bind_eq_ok_iff.mp h
    obtain ⟨⟨type, marked⟩, htype, h⟩ := bind_eq_ok_iff.mp h
    obtain ⟨fields, hfields, h⟩ := bind_eq_ok_iff.mp h
    obtain ⟨key, hkey, h⟩ := bind_eq_ok_iff.mp h
    obtain ⟨⟨⟩, helement, h⟩ := bind_eq_ok_iff.mp h
    obtain ⟨value, hvalue, h⟩ := bind_eq_ok_iff.mp h
    obtain rfl := check_eq_ok h
    exact ⟨hkeys, ⟨marked, htype, rfl⟩, hfields, hkey, helement, hvalue, rfl, rfl, rfl, rfl, h⟩
  · intro h
    obtain ⟨marked, htype, hoptional⟩ := h.type
    -- Every attribute of the schema is settled by the entries, so it can be replaced by what they
    -- give.
    obtain ⟨type, optional, default, name, version, doc, fields, key, value⟩ := schema
    obtain rfl := hoptional
    obtain rfl := h.default
    obtain rfl := h.name
    obtain rfl := h.version
    obtain rfl := h.doc
    rw [h.keys, htype, h.fields, h.key, h.element, h.value]
    exact h.checked

/-- A schema is read from a text that spells its type or from a map whose entries describe it, and
from nothing else. -/
theorem read_eq_ok_iff {spec : Datum} {schema : Schema} :
    read spec = .ok schema ↔
      (∃ entry type marked, spec = .text entry ∧ Shorthand.type entry = .ok (type, marked) ∧
        schema = ofType type marked) ∨
      ∃ entries, spec = .map entries ∧ Describes entries schema := by
  cases spec with
  | text entry =>
    rw [read, map_eq_ok_iff]
    constructor
    · rintro ⟨⟨type, marked⟩, hentry, rfl⟩
      exact .inl ⟨entry, type, marked, rfl, hentry, rfl⟩
    · rintro (⟨_, type, marked, h, hentry, rfl⟩ | ⟨_, h, -⟩)
      · obtain rfl := Datum.text.inj h
        exact ⟨(type, marked), hentry, rfl⟩
      · cases h
  | map entries =>
    rw [read_map, readEntries_eq_ok_iff]
    simp
  | _ => rw [read] <;> simp

/-- A description without fields, keys and elements gives a type with its attributes. -/
theorem read_map_of_type {entries : List (Datum × Datum)} {type : ValueType} {marked : Bool}
    (hkeys : checkKeys entries = .ok ()) (htype : readType entries = .ok (type, marked))
    (hfields : find? entries "fields" = none) (hkey : find? entries "keys" = none)
    (helement : checkElement entries = .ok ()) (hvalue : element? entries = none) :
    read (.map entries) = .ok { ofType type (readOptional entries marked) with
      default := Datum.get entries "default"
      name := Datum.get entries "name"
      version := Datum.get entries "version"
      doc := Datum.get entries "doc" } := by
  rw [read_map, readEntries_eq_ok_iff]
  exact {
    keys := hkeys
    type := ⟨marked, htype, rfl⟩
    fields := by rw [hfields, readFieldList_none]; rfl
    key := by rw [hkey, readPart_none]; rfl
    element := helement
    value := by rw [hvalue, readPart_none]; rfl
    default := rfl
    name := rfl
    version := rfl
    doc := rfl
    checked := rfl }

end TableLayout.Schema
