import TableLayout.Proofs.Schema.Lawful

/-!
# Descriptions that stand in descriptions

What becomes of every description that stands in another one, at any depth, when the whole is read.

- `Schema.Place`, `Schema.Place.part?`, `Schema.Place.schema?`: the places right in a description,
  what stands there, and the schema that a schema has there.
- `Schema.partAlong?`, `Schema.schemaAlong?`: the same along a way of places.
- `Schema.nested_of_read`: what stands in a description that is read is read itself, and its schema
  stands at the same place of the whole, except that a null in the place of an element is passed
  over.
- `Schema.read_nullItems`: an array whose elements are described by null is read all the same.
-/

namespace TableLayout.Schema

open Datum (find?)

/-! ## Places -/

/-- A place in a description where another one may stand. -/
inductive Place where
  | keys
  | items
  | values
  | field (index : Nat)

/-- The description of its schema that an item among fields gives, if it is no text: what stands
under `schema`, and without that the item itself, but for its name. -/
def fieldPart? : Datum → Option Datum
  | .map entries => some ((find? (fieldSpec entries) "schema").getD (.map (fieldSpec entries)))
  | _ => none

/-- The item at an index, if there is a list. -/
def item? (index : Nat) : Datum → Option Datum
  | .list items => items[index]?
  | _ => none

namespace Place

/-- The description that stands at a place right in another one. -/
def part? : Place → Datum → Option Datum
  | .keys, .map entries => find? entries "keys"
  | .items, .map entries => find? entries "items"
  | .values, .map entries => find? entries "values"
  | .field index, .map entries =>
    ((find? entries "fields").bind (item? index)).bind fieldPart?
  | _, _ => none

/-- The schema that a schema has at a place. The elements are described under either of two keys. -/
def schema? : Place → Schema → Option Schema
  | .keys, schema => schema.key
  | .items, schema | .values, schema => schema.value
  | .field index, schema => schema.fields[index]?.map Field.schema

/-- Whether the description of an element stands at a place. -/
def isElement : Place → Bool
  | .items | .values => true
  | _ => false

end Place

/-- The description that is reached from another one by a way of places. -/
def partAlong? : List Place → Datum → Option Datum
  | [], spec => some spec
  | place :: way, spec => (place.part? spec).bind (partAlong? way)

/-- The schema that is reached from another one by a way of places. -/
def schemaAlong? : List Place → Schema → Option Schema
  | [], schema => some schema
  | place :: way, schema => (place.schema? schema).bind (schemaAlong? way)

/-! ## One place -/

/-- The description at the place of a field is the one that the field's item gives. -/
theorem FieldDescribed.fieldPart?_eq {item part : Datum} {name : String}
    (h : FieldDescribed item name part) : fieldPart? item = some part := by
  cases h with
  | whole _ _ hpart _ => rw [fieldPart?, hpart, Option.getD_some]
  | spread _ _ hnone => rw [fieldPart?, hnone, Option.getD_none]

/-- What stands at a place of a description that is read: a description with its schema, or a null
in the place of an element, without any schema. -/
inductive Passed (place : Place) : Datum → Option Schema → Prop where
  | read {part : Datum} {nested : Schema} (h : read part = .ok nested) :
      Passed place part (some nested)
  | skipped (h : place.isElement = true) : Passed place .null none

theorem Passed.of_readPart {place : Place} {part : Datum} {nested? : Option Schema}
    (h : readPart (some part) = .ok nested?) : Passed place part nested? := by
  rw [readPart_some] at h
  obtain ⟨nested, hread, rfl⟩ := map_eq_ok_iff.mp h
  exact .read hread

/-- An item that is no text gives its field the schema that its own description has. -/
theorem ReadsField.read_fieldPart {index : Nat} {item part : Datum} {field : Field}
    (h : ReadsField index item field) (hpart : fieldPart? item = some part) :
    read part = .ok field.schema := by
  cases h with
  | short _ => cases hpart
  | described hitem hread =>
    obtain rfl := Option.some.inj (hitem.fieldPart?_eq.symm.trans hpart)
    exact hread

theorem readsField_of_readFields {items : List Datum} {fields : List Field}
    (h : readFields 0 items = .ok fields) {index : Nat} {item : Datum}
    (hitem : items[index]? = some item) :
    ∃ field, fields[index]? = some field ∧ ReadsField index item field := by
  have hplaced : (items.zipIdx 0)[index]? = some (item, index) := by
    rw [List.getElem?_zipIdx, hitem, Option.map_some, Nat.zero_add]
  exact exists_getElem?_of_forall₂ (readFields_eq_ok_iff.mp h) hplaced

section Describes

variable {entries : List (Datum × Datum)} {schema : Schema} (h : Describes entries schema)
include h

/-- The description of an element is what stands under that one of its two keys that is there. -/
theorem Describes.element?_eq {name : String} (hname : name = "items" ∨ name = "values")
    {part : Datum} (hpart : find? entries name = some part) :
    element? entries = part.notNull? := by
  have honce : ¬((find? entries "items").isSome && (find? entries "values").isSome) = true := by
    intro hboth
    have helement := h.element
    rw [checkElement, if_pos hboth] at helement
    cases helement
  rcases hname with rfl | rfl
  · rw [element?, hpart, Option.some_or, Option.bind_some]
  · have hitems : find? entries "items" = none := by simpa [hpart] using honce
    rw [element?, hitems, hpart, Option.none_or, Option.bind_some]

/-- A description of the elements is read, unless it is a null. -/
theorem Describes.passed_element {name : String} (hname : name = "items" ∨ name = "values")
    {part : Datum} (hpart : find? entries name = some part) {place : Place}
    (hplace : place.isElement = true) : Passed place part schema.value := by
  have hvalue := h.value
  rw [h.element?_eq hname hpart] at hvalue
  cases part with
  | null =>
    have hnone : schema.value = none := (Except.ok.inj (readPart_none.symm.trans hvalue)).symm
    rw [hnone]
    exact .skipped hplace
  | _ => exact .of_readPart hvalue

/-- A description of a field's schema is read. -/
theorem Describes.passed_field {index : Nat} {part : Datum}
    (hpart : (Place.field index).part? (.map entries) = some part) :
    Passed (.field index) part ((Place.field index).schema? schema) := by
  obtain ⟨item, hitem, hpart⟩ := Option.bind_eq_some_iff.mp hpart
  obtain ⟨value, hvalue, hitem⟩ := Option.bind_eq_some_iff.mp hitem
  rcases readFieldList_eq_ok_iff.mp h.fields with ⟨hnone, -⟩ | ⟨items, hlist, hitems⟩
  · cases hnone.symm.trans hvalue
  · obtain rfl := Option.some.inj (hlist.symm.trans hvalue)
    obtain ⟨field, hfield, hreads⟩ := readsField_of_readFields hitems hitem
    rw [Place.schema?, hfield]
    exact .read (hreads.read_fieldPart hpart)

/-- Nothing that stands right in a description is lost but a null in the place of an element. -/
theorem Describes.passed {place : Place} {part : Datum}
    (hpart : place.part? (.map entries) = some part) :
    Passed place part (place.schema? schema) := by
  cases place with
  | keys =>
    have hkey : find? entries "keys" = some part := hpart
    exact .of_readPart (hkey ▸ h.key)
  | items => exact h.passed_element (.inl rfl) hpart rfl
  | values => exact h.passed_element (.inr rfl) hpart rfl
  | field index => exact h.passed_field hpart

end Describes

/-- The same for whatever is read: a text has no place where a description could stand. -/
theorem passed_of_read {spec : Datum} {schema : Schema} (h : read spec = .ok schema)
    {place : Place} {part : Datum} (hpart : place.part? spec = some part) :
    Passed place part (place.schema? schema) := by
  rcases read_eq_ok_iff.mp h with ⟨entry, -, -, rfl, -, -⟩ | ⟨entries, rfl, hentries⟩
  · cases place <;> cases hpart
  · exact hentries.passed hpart

/-! ## A way of places -/

@[simp] theorem part?_null (place : Place) : place.part? .null = none := by
  cases place <;> rfl

/-- Nothing that stands in a description at any depth is lost when the whole is read. What is no
null is read itself, and its schema stands in the schema of the whole where it stands in the whole
description. A null stands only in the place of an element, and the schema of the whole has nothing
there. -/
theorem nested_of_read {spec : Datum} {schema : Schema} (h : read spec = .ok schema)
    {way : List Place} {part : Datum} (hpart : partAlong? way spec = some part) :
    (∃ nested, read part = .ok nested ∧ schemaAlong? way schema = some nested) ∨
      part = .null ∧ schemaAlong? way schema = none ∧
        ∃ before last, way = before ++ [last] ∧ last.isElement = true := by
  induction way generalizing spec schema with
  | nil =>
    obtain rfl := Option.some.inj hpart
    exact .inl ⟨schema, h, rfl⟩
  -- The first place of the way is settled by one step, the rest of the way by induction on what
  -- stands there.
  | cons place way ih =>
    obtain ⟨first, hfirst, hrest⟩ := Option.bind_eq_some_iff.mp hpart
    have hpassed := passed_of_read h hfirst
    rw [schemaAlong?]
    generalize place.schema? schema = first? at hpassed ⊢
    cases hpassed with
    | read hread =>
      rw [Option.bind_some]
      rcases ih hread hrest with hnested | ⟨hnull, hnone, before, last, hway, hlast⟩
      · exact .inl hnested
      · exact .inr ⟨hnull, hnone, place :: before, last, congrArg (place :: ·) hway, hlast⟩
    | skipped helement =>
      -- Nothing stands in a null, so the way ends there.
      cases way with
      | nil =>
        obtain rfl := Option.some.inj hrest
        exact .inr ⟨rfl, rfl, [], place, rfl, helement⟩
      | cons next way =>
        rw [partAlong?, part?_null] at hrest
        cases hrest

/-- The second field of the structs that an array is made of, which is described by a map without
its name. -/
theorem nested_lineItems :
    ∃ schema part,
      read (.map [(.text "type", .text "array"), (.text "items", lineDescription)]) = .ok schema ∧
      partAlong? [.items, .field 1]
        (.map [(.text "type", .text "array"), (.text "items", lineDescription)]) = some part ∧
      ∃ nested, read part = .ok nested ∧ schemaAlong? [.items, .field 1] schema = some nested := by
  have hpart : partAlong? [.items, .field 1]
      (.map [(.text "type", .text "array"), (.text "items", lineDescription)]) =
        some (.map [(.text "type", .text "bytes?"), (.text "name", .text "Decimal")]) := rfl
  rcases nested_of_read read_lineItems hpart with hnested | ⟨hnull, -⟩
  · exact ⟨_, _, read_lineItems, hpart, hnested⟩
  · cases hnull

/-- A null in the place of the elements is no description, but the array is read without them. -/
theorem read_nullItems :
    read (.map [(.text "type", .text "array"), (.text "items", .null)]) =
        .ok (ofType .array false) ∧
      read .null = .error (.notASpec .null) ∧
      ¬∀ (spec : Datum) (schema : Schema) (place : Place) (part : Datum),
        read spec = .ok schema → place.part? spec = some part →
          ∃ nested, read part = .ok nested ∧ place.schema? schema = some nested := by
  have hread : read (.map [(.text "type", .text "array"), (.text "items", .null)]) =
      .ok (ofType .array false) :=
    read_map_of_type rfl rfl rfl rfl rfl rfl
  have hnull : read .null = .error (.notASpec .null) := by rw [read] <;> simp [Datum.kind]
  refine ⟨hread, hnull, fun h => ?_⟩
  obtain ⟨nested, hnested, -⟩ := h _ _ .items .null hread rfl
  cases hnull.symm.trans hnested

end TableLayout.Schema
