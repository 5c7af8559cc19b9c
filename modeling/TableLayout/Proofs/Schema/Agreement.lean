import TableLayout.Column
import TableLayout.Proofs.Failure

/-!
# Schemas that count as equal

Defaults, names and the like may differ in schemas that count as equal, as a one and a true do. All
that a layout is made by is the same in both: the types, the names and the order of fields.

- `Schema.agreeFields_iff`, `Schema.agreeParts_elim`: agreement of fields and of parts.
- `Schema.type_eq_of_agrees`, `Schema.fields_of_agrees`: what schemas that count as equal share.
- `Schema.field?_elim`: they answer every lookup of a name alike, by no field or by fields that
  count as equal.
- `Column.AllAgree`: two lists of columns count as equal. They have the same names, and so do the
  first columns of each name (`Column.AllAgree.firstByName`).
-/

namespace TableLayout

/-- Two fields count as equal. -/
structure Field.Agrees (a b : Field) : Prop where
  name : a.name = b.name
  index : a.index = b.index
  schema : a.schema.agrees b.schema = true

namespace Schema

/-- Lists of fields agree exactly if they agree field by field. -/
theorem agreeFields_iff {fields fields' : List Field} :
    agreeFields fields fields' = true ↔ List.Forall₂ Field.Agrees fields fields' := by
  induction fields generalizing fields' with
  | nil =>
    rw [List.forall₂_nil_left_iff]
    cases fields' <;> simp [agreeFields]
  | cons field fields ih =>
    obtain ⟨name, index, schema⟩ := field
    cases fields' with
    | nil => simp [agreeFields]
    | cons field' fields' =>
      obtain ⟨name', index', schema'⟩ := field'
      simp only [agreeFields, Bool.and_eq_true, beq_iff_eq, ih, List.forall₂_cons]
      refine and_congr_left fun _ => ?_
      constructor
      · rintro ⟨⟨hname, hindex⟩, hschema⟩
        exact ⟨hname, hindex, hschema⟩
      · rintro ⟨hname, hindex, hschema⟩
        exact ⟨⟨hname, hindex⟩, hschema⟩

/-- Agreeing parts are both missing, or both there and count as equal. -/
theorem agreeParts_elim {part part' : Option Schema} (h : agreeParts part part' = true) :
    (part = none ∧ part' = none) ∨
      ∃ schema schema', part = some schema ∧ part' = some schema' ∧
        schema.agrees schema' = true := by
  cases part with
  | none =>
    cases part' with
    | none => exact .inl ⟨rfl, rfl⟩
    | some schema' => simp [agreeParts] at h
  | some schema =>
    cases part' with
    | none => simp [agreeParts] at h
    | some schema' => exact .inr ⟨schema, schema', rfl, rfl, by simpa [agreeParts] using h⟩

/-- The attributes that count for a layout, of schemas that count as equal. -/
theorem type_and_fields_of_agrees {schema schema' : Schema} (h : schema.agrees schema' = true) :
    schema.type = schema'.type ∧ List.Forall₂ Field.Agrees schema.fields schema'.fields := by
  cases schema
  cases schema'
  simp only [agrees, Bool.and_eq_true, beq_iff_eq] at h
  -- The type stands first among nine attributes, the fields seventh.
  obtain ⟨⟨⟨⟨⟨⟨⟨⟨htype, -⟩, -⟩, -⟩, -⟩, -⟩, hfields⟩, -⟩, -⟩ := h
  exact ⟨htype, agreeFields_iff.mp hfields⟩

/-- A schema with nothing but a type counts as equal to itself. Not every schema does, since a
default may be no number. -/
theorem agrees_ofType (type : ValueType) (optional : Bool) :
    (ofType type optional).agrees (ofType type optional) = true := by
  simp [ofType, agrees, agreeFields, agreeParts, Datum.agrees]

variable {schema schema' : Schema}

theorem type_eq_of_agrees (h : schema.agrees schema' = true) : schema.type = schema'.type :=
  (type_and_fields_of_agrees h).1

theorem fields_of_agrees (h : schema.agrees schema' = true) :
    List.Forall₂ Field.Agrees schema.fields schema'.fields :=
  (type_and_fields_of_agrees h).2

theorem isStruct_eq_of_agrees (h : schema.agrees schema' = true) :
    schema.isStruct = schema'.isStruct := by
  rw [isStruct, isStruct, type_eq_of_agrees h]

/-- Schemas that count as equal declare the same names in the same order. -/
theorem fieldNames_eq_of_agrees (h : schema.agrees schema' = true) :
    schema.fieldNames = schema'.fieldNames :=
  map_eq_of_forall₂ (fields_of_agrees h) fun _ _ hfield => hfield.name

/-- Schemas that count as equal answer every lookup alike. -/
theorem field?_elim (h : schema.agrees schema' = true) (name : String) :
    (schema.field? name = none ∧ schema'.field? name = none) ∨
      ∃ field field', schema.field? name = some field ∧ schema'.field? name = some field' ∧
        field.Agrees field' := by
  refine find?_of_forall₂ (fields_of_agrees h) fun field field' hfield => ?_
  rw [hfield.name]

theorem isSome_field?_of_agrees (h : schema.agrees schema' = true) (name : String) :
    (schema.field? name).isSome = (schema'.field? name).isSome := by
  rw [Bool.eq_iff_iff, field?_isSome_iff, field?_isSome_iff, fieldNames_eq_of_agrees h]

end Schema

namespace Column

theorem agrees_iff {a b : Column} :
    a.agrees b = true ↔ a.name = b.name ∧ a.schema.agrees b.schema = true ∧ a.isKey = b.isKey := by
  simp only [agrees, Bool.and_eq_true, beq_iff_eq, and_assoc]

/-- Two lists of columns count as equal, column by column. -/
def AllAgree (columns columns' : List Column) : Prop :=
  List.Forall₂ (fun a b => a.agrees b = true) columns columns'

/-- Columns that count as equal have the same names in the same order. -/
theorem AllAgree.names_eq {columns columns' : List Column} (h : AllAgree columns columns') :
    columns.map Column.name = columns'.map Column.name :=
  map_eq_of_forall₂ h fun _ _ hcolumn => (agrees_iff.mp hcolumn).1

/-- The first columns of each name count as equal as well. -/
theorem AllAgree.firstByName {columns columns' : List Column} (h : AllAgree columns columns') :
    AllAgree (firstByName columns) (firstByName columns') := by
  induction h with
  | nil => exact .nil
  | @cons column column' columns columns' hcolumn _ ih =>
    have hname : column.name = column'.name := (agrees_iff.mp hcolumn).1
    -- Both lists lose the columns of one and the same name.
    refine .cons hcolumn (filter_of_forall₂ ih fun a b hab => ?_)
    rw [(agrees_iff.mp hab).1, hname]

end Column

end TableLayout
