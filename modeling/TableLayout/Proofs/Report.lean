import TableLayout.Proofs.Datum.Json
import TableLayout.Proofs.RecordFile
import TableLayout.Proofs.Resolve.Origin
import TableLayout.Proofs.Settings.Deletion
import TableLayout.Report

/-!
# Reports that can be written

A layout has a form in JSON if the values that its columns show have texts as keys. The columns of a
record that was loaded from a file with texts as keys do.

- `Schema.TextKeyed`: the values of a schema that reports show have texts as keys.
- `Schema.ReadFromTexts`: a schema was read from a description with texts as keys, for which it and
  its fields show such values.
- `Report.exists_json`: a layout whose columns show such values has a form in JSON, without escape
  characters.
- `Record.Loads.exists_json`: the layout of a record that was loaded has one.
-/

namespace TableLayout

/-! ## Schemas -/

namespace Schema

/-- The values of a schema that reports show have texts as keys. -/
structure TextKeyed (schema : Schema) : Prop where
  default : schema.default.TextKeyed
  name : schema.name.TextKeyed

/-- A schema was read from a description with texts as keys. -/
def ReadFromTexts (schema : Schema) : Prop :=
  ∃ spec : Datum, spec.TextKeyed ∧ read spec = .ok schema

variable {schema : Schema}

theorem textKeyed_ofType (type : ValueType) (optional : Bool) : (ofType type optional).TextKeyed :=
  ⟨trivial, trivial⟩

/-- What a schema shows was taken from its description. -/
theorem ReadFromTexts.textKeyed (h : schema.ReadFromTexts) : schema.TextKeyed := by
  obtain ⟨spec, hspec, hread⟩ := h
  rcases read_eq_ok_iff.mp hread with ⟨_, type, marked, -, -, rfl⟩ | ⟨entries, rfl, hentries⟩
  · exact textKeyed_ofType type marked
  · have hkeys : (Datum.map entries).TextKeyed := hspec
    exact ⟨hentries.default ▸ hkeys.get "default", hentries.name ▸ hkeys.get "name"⟩

/-- The schema of a field was read from a part of the description, and so it shows such values,
too. -/
theorem ReadFromTexts.textKeyed_field (h : schema.ReadFromTexts) :
    ∀ field ∈ schema.fields, field.schema.TextKeyed := by
  intro field hfield
  obtain ⟨spec, hspec, hread⟩ := h
  rcases read_eq_ok_iff.mp hread with ⟨_, type, marked, -, -, rfl⟩ | ⟨entries, rfl, hentries⟩
  · cases hfield
  rcases readFieldList_eq_ok_iff.mp hentries.fields with ⟨-, hnone⟩ | ⟨items, hlist, hitems⟩
  · rw [hnone] at hfield
    cases hfield
  obtain ⟨⟨item, index⟩, hitem, hreads⟩ :=
    exists_of_forall₂ (readFields_eq_ok_iff.mp hitems).flip field hfield
  cases hreads with
  | short => exact textKeyed_ofType _ _
  | described hdescribed hpart =>
    -- From the item of the field to the description, part by part, all keys are texts.
    have hmem : item ∈ items := List.fst_mem_of_mem_zipIdx hitem
    have hlistKeys : (Datum.list items).TextKeyed := Datum.TextKeyed.find? hspec hlist
    have hitemKeys : item.TextKeyed := Datum.textKeyed_list_iff.mp hlistKeys item hmem
    exact ReadFromTexts.textKeyed ⟨_, hdescribed.textKeyed hitemKeys, hpart⟩

theorem ReadFromTexts.check_eq (h : schema.ReadFromTexts) : schema.check = .ok schema := by
  obtain ⟨spec, -, hread⟩ := h
  exact (lawful_iff_check.mp (lawful_of_read hread)).1

end Schema

theorem KeyRequest.Brings.textKeyed {request : KeyRequest} {schema : Schema}
    (h : request.Brings schema) (hkey : ∀ key ∈ request.key, key.ReadFromTexts)
    (hvalue : ∀ value ∈ request.value, value.ReadFromTexts) : schema.TextKeyed := by
  -- A schema of a column is made for a coordinate, or it is that of a part of the record or of a
  -- field.
  cases h with
  | coordinate type => exact Schema.textKeyed_ofType type false
  | key hpart => exact (hkey _ hpart).textKeyed
  | keyField hpart hfield => exact (hkey _ hpart).textKeyed_field _ hfield
  | valueField hpart hfield => exact (hvalue _ hpart).textKeyed_field _ hfield

/-! ## Layouts -/

theorem Datum.textKeyed_object {entries : List (String × Datum)}
    (h : ∀ entry ∈ entries, entry.2.TextKeyed) : (Datum.object entries).TextKeyed := by
  refine textKeyed_map_iff.mpr fun k v hentry => ?_
  obtain ⟨entry, hmem, heq⟩ := List.mem_map.mp hentry
  obtain ⟨rfl, rfl⟩ := Prod.mk.inj heq
  exact ⟨rfl, h entry hmem⟩

theorem Datum.textKeyed_names (names : List String) : (Datum.names names).TextKeyed :=
  textKeyed_list_iff.mpr (List.forall_mem_map.mpr fun _ _ => trivial)

theorem Column.textKeyed_document {column : Column} (h : column.schema.TextKeyed) :
    column.document.TextKeyed := by
  refine Datum.textKeyed_object ?_
  simp [Datum.TextKeyed, h.default, h.name]

/-- A layout consists of names and of what its columns show. -/
theorem Layout.textKeyed_documentEntries {layout : Layout}
    (h : ∀ column ∈ layout.allColumns, column.schema.TextKeyed) :
    ∀ entry ∈ layout.documentEntries, entry.2.TextKeyed := by
  have hsourced : layout.keySourcedDocument.TextKeyed := by
    unfold Layout.keySourcedDocument
    split
    · exact Datum.textKeyed_names _
    · trivial
  have hcolumns : (Datum.list (layout.allColumns.map Column.document)).TextKeyed :=
    Datum.textKeyed_list_iff.mpr
      (List.forall_mem_map.mpr fun column hcolumn => Column.textKeyed_document (h column hcolumn))
  simp [Layout.documentEntries, Datum.textKeyed_names, hsourced, hcolumns]

/-- A layout whose columns show values with texts as keys has a form in JSON, without escape
characters. -/
theorem Report.exists_json {layout : Layout}
    (h : ∀ column ∈ layout.allColumns, column.schema.TextKeyed) (table : String) (mode : KeyMode) :
    ∃ text, Report.json table mode layout = .ok text ∧ Text.EscapeFree text := by
  refine Datum.exists_jsonText (Datum.textKeyed_object ?_)
  refine List.forall_mem_cons.mpr ⟨trivial, List.forall_mem_cons.mpr ⟨trivial, ?_⟩⟩
  exact Layout.textKeyed_documentEntries h

/-! ## Records that were loaded -/

namespace Record

variable {contents : Option Datum} {record : Record}

theorem SchemaUnder.readFromTexts {entries : List (Datum × Datum)} {name : String}
    {schema? : Option Schema} (h : SchemaUnder entries name schema?)
    (hentries : (Datum.map entries).TextKeyed) : ∀ schema ∈ schema?, schema.ReadFromTexts := by
  rintro schema ⟨⟩
  cases h with
  | described hread => exact ⟨_, hentries.get name, hread⟩

section Loads

variable {digits : Option Nat} (h : Loads digits contents record)
  (hcontents : ∀ value ∈ contents, value.TextKeyed)
include h hcontents

/-- The schemas of a record that was loaded were read from descriptions with texts as keys. -/
theorem Loads.readFromTexts : (∀ key ∈ record.key, key.ReadFromTexts) ∧
    ∀ value ∈ record.value, value.ReadFromTexts := by
  obtain ⟨value, entries, rfl, hvalue, hdescribes⟩ := h
  have hentries := textKeyed_of_entriesOf? (hcontents value rfl) hvalue
  exact ⟨hdescribes.key.readFromTexts hentries, hdescribes.value.readFromTexts hentries⟩

/-- The layout of a record that was loaded has a form in JSON, without escape characters. -/
theorem Loads.exists_json {settings : Settings} {table : String} {layout : Layout}
    (hlayout : (settings.resolve table record).outcome = .ok layout) (mode : KeyMode) :
    ∃ text, Report.json table mode layout = .ok text ∧ Text.EscapeFree text := by
  obtain ⟨hkey, hvalue⟩ := h.readFromTexts hcontents
  refine Report.exists_json (fun column hcolumn => ?_) table mode
  exact (Resolve.brings_of_resolve hlayout column hcolumn).textKeyed hkey hvalue

end Loads

end Record

end TableLayout
