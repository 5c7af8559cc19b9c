import TableLayout.Column
import TableLayout.NameMap
import TableLayout.Rejection
import TableLayout.Text.Names

/-!
# Layouts (specification §3.4)

The columns of a table for one record, split into key columns and others: the `ResolvedFieldSet`,
with the invariant that is checked at its construction.

- `Layout`: the names of the key columns and of the others, all columns by name, and, where columns
  are named by headers, the key columns that are read from the record's key.
- `Layout.make`: a layout, provided that the numbers of names add up, that every name has a column
  and that only key columns are read from the key.
- `Layout.keyColumns`, `Layout.otherColumns`: the columns of either side.
- `Layout.isKey`, `Layout.isKeySourced`: questions about a name.
- `Layout.shown`: the text of a layout.
- `Layout.agrees`: equality, for which the order of the columns does not count.
-/

namespace TableLayout

/-- The columns of a table for one record. -/
structure Layout where
  /-- Key columns, in the order of the key. -/
  keyNames : List String
  /-- The other columns, in the order of the record's value. -/
  otherNames : List String
  /-- All columns. -/
  columns : NameMap Column
  /-- The key columns whose values stand in the record's key, where headers name the columns. -/
  keySourced : Option (List String)

namespace Layout

/-- Whether names and columns match in number, and every name has a column. -/
def isPartition (keyNames otherNames : List String) (columns : NameMap Column) : Bool :=
  -- A name that is given twice counts twice, so the number may be right while a column is left out.
  keyNames.length + otherNames.length == columns.size &&
    (keyNames ++ otherNames).all (columns.names.contains ·)

/-- A layout of these parts, if they match. -/
def make (keyNames otherNames : List String) (columns : NameMap Column)
    (keySourced : Option (List String)) : Except Defect Layout :=
  if isPartition keyNames otherNames columns then
    match (keySourced.getD []).filter (!keyNames.contains ·) with
    | [] => .ok ⟨keyNames, otherNames, columns, keySourced⟩
    | stray => .error (.strayKeySourced stray)
  else .error (.partition keyNames otherNames (Text.sorted columns.names))

/-- The key columns. -/
def keyColumns (layout : Layout) : List Column :=
  layout.keyNames.filterMap layout.columns.find?

/-- The columns outside the key. -/
def otherColumns (layout : Layout) : List Column :=
  layout.otherNames.filterMap layout.columns.find?

/-- All columns, those of the key first. -/
def allColumns (layout : Layout) : List Column :=
  layout.keyColumns ++ layout.otherColumns

/-- Whether a name is that of a key column. -/
def isKey (layout : Layout) (name : String) : Bool :=
  layout.keyNames.contains name

/-- Whether a name is that of a column read from the record's key. -/
def isKeySourced (layout : Layout) (name : String) : Bool :=
  (layout.keySourced.getD []).contains name

/-- The text of a layout. -/
def shown (layout : Layout) : String :=
  let keySourced := match layout.keySourced with
    | some names => Datum.tuple (names.map Datum.text)
    | none => .null
  s!"ResolvedFieldSet\x7bkey_field_names={Text.listed layout.keyNames}, "
    ++ s!"key_field_names_in_key={keySourced.quoted}, "
    ++ s!"non_key_field_names={Text.listed layout.otherNames}, "
    ++ s!"all_fields={Text.listed layout.columns.names}\x7d"

/-- Whether two maps hold agreeing columns under the same names. -/
def agreeColumns (a b : NameMap Column) : Bool :=
  a.size == b.size && a.entries.all fun (name, column) => (b.find? name).any column.agrees

/-- Whether the names of two layouts are the same, which makes them fall together as keys. -/
def agreeNames (a b : Layout) : Bool :=
  a.keyNames == b.keyNames && a.otherNames == b.otherNames && a.keySourced == b.keySourced

/-- Whether two layouts count as equal. -/
def agrees (a b : Layout) : Bool :=
  a.agreeNames b && agreeColumns a.columns b.columns

theorem isPartition_iff {keyNames otherNames : List String} {columns : NameMap Column} :
    isPartition keyNames otherNames columns = true ↔
      (keyNames ++ otherNames).length = columns.names.length ∧
        ∀ name ∈ keyNames ++ otherNames, name ∈ columns.names := by
  rw [isPartition, Bool.and_eq_true, beq_iff_eq, List.all_eq_true, List.length_append,
    NameMap.length_names]
  simp only [List.contains_iff_mem]

theorem make_eq_ok_iff {keyNames otherNames : List String} {columns : NameMap Column}
    {keySourced : Option (List String)} {layout : Layout} :
    make keyNames otherNames columns keySourced = .ok layout ↔
      layout = ⟨keyNames, otherNames, columns, keySourced⟩ ∧
        isPartition keyNames otherNames columns = true ∧
        ∀ name ∈ keySourced.getD [], name ∈ keyNames := by
  unfold make
  by_cases hpart : isPartition keyNames otherNames columns
  · cases hstray : (keySourced.getD []).filter (!keyNames.contains ·) with
    | nil =>
      have hmem : ∀ name ∈ keySourced.getD [], name ∈ keyNames := by
        simpa [List.filter_eq_nil_iff] using hstray
      simpa [hpart] using ⟨fun h => ⟨h.symm, hmem⟩, fun h => h.1.symm⟩
    | cons name rest =>
      have hnot : name ∈ (keySourced.getD []).filter (!keyNames.contains ·) :=
        hstray ▸ List.mem_cons_self
      simp only [List.mem_filter, Bool.not_eq_true', List.contains_eq_mem,
        decide_eq_false_iff_not] at hnot
      simpa [hpart] using fun _ => ⟨name, hnot⟩
  · simp [hpart]

end Layout

end TableLayout
