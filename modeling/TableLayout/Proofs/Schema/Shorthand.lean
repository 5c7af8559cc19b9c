import TableLayout.Proofs.Schema.Grammar
import TableLayout.Proofs.Schema.Misuse

/-!
# Texts among descriptions

What a text is read as where a schema may stand, and where a field may stand, alone or among the
fields of a struct.

- `Schema.SpelledSchema`, `Schema.SpelledField`, `Schema.SpelledStruct`: what a text or a list of
  texts spells as a schema, as the field at a place and as the fields of a struct.
- `Schema.fieldStruct`, `Schema.read_fieldStruct`: a struct that is described by its fields only.
- `Schema.ReadsExactly`: a step gives what is spelled and reports where nothing is.
- `Schema.reads_exactly_spelled`: texts are read so in all three places.
-/

namespace TableLayout

namespace Schema

open Datum (find?)
open Shorthand (SpellsType SpellsField)

/-- A text spells a schema, which has nothing but a type that may be marked. -/
def SpelledSchema (spec : String) (schema : Schema) : Prop :=
  ∃ type marked, SpellsType (Text.strip spec) type marked ∧ schema = ofType type marked

/-- A text spells the field at a place. -/
def SpelledField (index : Nat) (entry : String) (field : Field) : Prop :=
  ∃ name type marked, SpellsField (Text.strip entry) name type marked ∧
    field = ⟨name, index, ofType type marked⟩

/-- Texts spell the fields of a struct, in their order, and no two of them one name. -/
def SpelledStruct (entries : List String) (schema : Schema) : Prop :=
  ∃ fields, List.Forall₂ (fun item field => SpelledField item.2 item.1 field) entries.zipIdx
      fields ∧
    (fields.map Field.name).Nodup ∧ schema = { ofType .struct false with fields := fields }

/-- The description of a struct whose fields are given as texts. -/
def textStruct (entries : List String) : Datum :=
  .map [(.text "type", .text "struct"), (.text "fields", .list (entries.map .text))]

/-- A step gives what is spelled, and it ends in a report where nothing is. -/
structure ReadsExactly {α : Type} (x : Except SchemaError α) (spelled : α → Prop) : Prop where
  accepted : ∀ a, x = .ok a ↔ spelled a
  reported : (∃ error, x = .error error ∧ error.isMisuse = false) ↔ ¬∃ a, spelled a

/-- A step that only reports does so wherever it gives no result. -/
theorem ReadsExactly.of_reports {α : Type} {x : Except SchemaError α} {spelled : α → Prop}
    (hreports : Reports x) (haccepted : ∀ a, x = .ok a ↔ spelled a) : ReadsExactly x spelled := by
  refine ⟨haccepted, ?_⟩
  simp only [← haccepted]
  cases x with
  | ok a => simp
  | error error =>
    constructor
    · rintro - ⟨_, ⟨⟩⟩
    · intro _
      exact ⟨error, rfl, hreports error rfl⟩

/-- A text is read as a schema exactly if it spells it. -/
theorem read_text_eq_ok_iff {spec : String} {schema : Schema} :
    read (.text spec) = .ok schema ↔ SpelledSchema spec schema := by
  rw [read, map_eq_ok_iff]
  constructor
  · rintro ⟨⟨type, marked⟩, htype, rfl⟩
    exact ⟨type, marked, Shorthand.type_eq_ok_iff.mp htype, rfl⟩
  · rintro ⟨type, marked, hspells, rfl⟩
    exact ⟨(type, marked), Shorthand.type_eq_ok_iff.mpr hspells, rfl⟩

/-- A text is read as the field at a place exactly if it spells it. -/
theorem readField_text_eq_ok_iff {index : Nat} {entry : String} {field : Field} :
    readField index (.text entry) = .ok field ↔ SpelledField index entry field := by
  rw [readField, map_eq_ok_iff]
  constructor
  · rintro ⟨⟨name, type, marked⟩, hentry, rfl⟩
    exact ⟨name, type, marked, Shorthand.field_eq_ok_iff.mp hentry, rfl⟩
  · rintro ⟨name, type, marked, hspells, rfl⟩
    exact ⟨(name, type, marked), Shorthand.field_eq_ok_iff.mpr hspells, rfl⟩

theorem readFields_texts_eq_ok_iff {entries : List String} {fields : List Field} :
    readFields 0 (entries.map .text) = .ok fields ↔
      List.Forall₂ (fun item field => SpelledField item.2 item.1 field) entries.zipIdx fields := by
  rw [readFields_eq_mapM, List.zipIdx_map, mapM_eq_ok_iff, List.forall₂_map_left_iff]
  simp only [Prod.map_fst, Prod.map_snd, id_eq, readField_text_eq_ok_iff]

/-- The description of a struct by nothing but the descriptions of its fields. -/
def fieldStruct (items : List Datum) : Datum :=
  .map [(.text "type", .text "struct"), (.text "fields", .list items)]

/-- Nothing but the fields of such a struct is left to be read. -/
theorem read_fieldStruct (items : List Datum) :
    read (fieldStruct items) = readFields 0 items >>= fun fields =>
      check { ofType .struct false with fields := fields } := by
  have hfields : readFieldList (find? [(.text "type", .text "struct"),
      (.text "fields", .list items)] "fields") = readFields 0 items :=
    readFieldList_list _
  rw [fieldStruct, read_map, readEntries, hfields]
  show (readFields 0 items >>= fun fields => readPart none >>= fun key =>
    readPart none >>= fun value => check { ofType .struct false with fields, key, value }) = _
  rw [readPart_none]
  rfl

theorem read_textStruct (entries : List String) :
    read (textStruct entries) = readFields 0 (entries.map .text) >>= fun fields =>
      check { ofType .struct false with fields := fields } :=
  read_fieldStruct (entries.map .text)

/-- A struct is read from texts exactly if they spell its fields. -/
theorem read_textStruct_eq_ok_iff {entries : List String} {schema : Schema} :
    read (textStruct entries) = .ok schema ↔ SpelledStruct entries schema := by
  rw [read_textStruct, bind_eq_ok_iff]
  constructor
  · rintro ⟨fields, hfields, hcheck⟩
    obtain rfl := check_eq_ok hcheck
    exact ⟨fields, readFields_texts_eq_ok_iff.mp hfields, (check_eq_ok_iff.mp hcheck).2, rfl⟩
  · rintro ⟨fields, hspelled, hdistinct, rfl⟩
    exact ⟨fields, readFields_texts_eq_ok_iff.mpr hspelled,
      check_eq_ok_iff.mpr ⟨fun _ => rfl, hdistinct⟩⟩

/-- Such a description has no keys but texts, so no misuse can come of it. -/
theorem textKeyed_textStruct (entries : List String) : (textStruct entries).TextKeyed := by
  have hlist : (Datum.list (entries.map .text)).TextKeyed := by
    rw [Datum.textKeyed_list_iff]
    intro d hd
    obtain ⟨entry, -, rfl⟩ := List.mem_map.mp hd
    trivial
  exact ⟨⟨rfl, trivial⟩, ⟨rfl, hlist⟩, trivial⟩

/-- A text is read exactly if it spells what it is read as, be it a schema, a field or one of the
fields of a struct, and any other text is reported on. -/
theorem reads_exactly_spelled :
    (∀ spec, ReadsExactly (read (.text spec)) (SpelledSchema spec)) ∧
      (∀ index entry, ReadsExactly (readField index (.text entry)) (SpelledField index entry)) ∧
      ∀ entries, ReadsExactly (read (textStruct entries)) (SpelledStruct entries) := by
  refine ⟨fun spec => ?_, fun index entry => ?_, fun entries => ?_⟩
  · refine .of_reports (reports_read trivial) fun _ => read_text_eq_ok_iff
  · refine .of_reports ?_ fun _ => readField_text_eq_ok_iff
    rw [readField]
    exact (reports_field entry).map
  · exact .of_reports (reports_read (textKeyed_textStruct entries)) fun _ =>
      read_textStruct_eq_ok_iff

end Schema

end TableLayout
