import TableLayout.Proofs.Key.Lawful
import TableLayout.Resolve
import TableLayout.Schema.Error

/-!
# Joining key columns and others

The last step of a resolution makes a layout of the key columns and the others.

- `Resolve.remaining`: the columns outside the key, said by what keeps a field of the value.
  `Resolve.exists_field?_of_mem_remaining`: each holds the field that is found under its name.
- `Layout.Joins`: the layout that lists certain key columns first and certain others after them.
- `Resolve.layout_eq_ok_iff`: the step succeeds exactly if all the columns have distinct names and
  only key columns are read from the record's key. The layout is then the one that `Layout.Joins`
  describes.
- `Resolve.exists_layout_remaining`: it does succeed with a lawful key, its remaining columns and a
  value in which no name comes twice.
- `Layout.Joins.keyColumns_eq`, `Layout.Joins.otherColumns_eq`, `Layout.Joins.allColumns_eq`:
  looking the names up in such a layout gives the columns back, in order.
-/

namespace TableLayout

theorem NameMap.eq_of_entries {α : Type} {a b : NameMap α} (h : a.entries = b.entries) : a = b := by
  cases a
  cases b
  congr

namespace Layout

/-- A layout with these key columns, then these other columns. -/
structure Joins (key : KeyColumns) (others : List Column) (layout : Layout) : Prop where
  keyNames : layout.keyNames = key.names
  otherNames : layout.otherNames = others.map Column.name
  entries : layout.columns.entries =
    (key.columns ++ others).map fun column => (column.name, column)
  keySourced : layout.keySourced = key.keySourced

namespace Joins

variable {key : KeyColumns} {others : List Column} {layout layout' : Layout}

theorem eq (h : layout.Joins key others) (h' : layout'.Joins key others) : layout = layout' := by
  have hcolumns : layout.columns = layout'.columns :=
    NameMap.eq_of_entries (h.entries.trans h'.entries.symm)
  obtain ⟨hkey, hother, -, hsourced⟩ := h
  obtain ⟨hkey', hother', -, hsourced'⟩ := h'
  cases layout
  cases layout'
  simp_all

theorem names_eq (h : layout.Joins key others) :
    layout.columns.names = layout.keyNames ++ layout.otherNames := by
  rw [NameMap.names, h.entries, h.keyNames, h.otherNames, KeyColumns.names, List.map_map,
    ← List.map_append]
  rfl

theorem names_ne_nil (h : layout.Joins key others) (hnonempty : key.columns ++ others ≠ []) :
    layout.columns.names ≠ [] := by
  rw [NameMap.names, h.entries, List.map_map]
  exact fun hnone => hnonempty (List.map_eq_nil_iff.mp hnone)

theorem mem_entries_iff (h : layout.Joins key others) {name : String} {column : Column} :
    (name, column) ∈ layout.columns.entries ↔
      column.name = name ∧ (column ∈ key.columns ∨ column ∈ others) := by
  rw [h.entries, List.mem_map]
  constructor
  -- Every entry has the name of its column in front.
  · rintro ⟨column', hcolumn', heq⟩
    obtain ⟨hname, rfl⟩ := Prod.mk.inj heq
    exact ⟨hname, List.mem_append.mp hcolumn'⟩
  · rintro ⟨rfl, hcolumn⟩
    exact ⟨column, List.mem_append.mpr hcolumn, rfl⟩

/-- The columns of a layout are found under their names. -/
theorem find?_name (h : layout.Joins key others) {column : Column}
    (hcolumn : column ∈ key.columns ∨ column ∈ others) :
    layout.columns.find? column.name = some column :=
  NameMap.find?_eq_some_iff.mpr (h.mem_entries_iff.mpr ⟨rfl, hcolumn⟩)

theorem filterMap_find? (h : layout.Joins key others) {columns : List Column}
    (hcolumns : ∀ column ∈ columns, column ∈ key.columns ∨ column ∈ others) :
    (columns.map Column.name).filterMap layout.columns.find? = columns := by
  induction columns with
  | nil => rfl
  | cons column columns ih =>
    obtain ⟨hcolumn, hrest⟩ := List.forall_mem_cons.mp hcolumns
    rw [List.map_cons, List.filterMap_cons_some (h.find?_name hcolumn), ih hrest]

/-- Looking up the names of columns in turn never fails. -/
theorem mapM_find? (h : layout.Joins key others) {columns : List Column}
    (hcolumns : ∀ column ∈ columns, column ∈ key.columns ∨ column ∈ others) :
    (columns.map Column.name).mapM layout.columns.find? = some columns := by
  induction columns with
  | nil => rfl
  | cons column columns ih =>
    obtain ⟨hcolumn, hrest⟩ := List.forall_mem_cons.mp hcolumns
    rw [List.map_cons, List.mapM_cons, h.find?_name hcolumn, ih hrest]
    rfl

theorem keyColumns_eq (h : layout.Joins key others) : layout.keyColumns = key.columns := by
  rw [Layout.keyColumns, h.keyNames]
  exact h.filterMap_find? fun _ hcolumn => .inl hcolumn

theorem otherColumns_eq (h : layout.Joins key others) : layout.otherColumns = others := by
  rw [Layout.otherColumns, h.otherNames]
  exact h.filterMap_find? fun _ hcolumn => .inr hcolumn

theorem allColumns_eq (h : layout.Joins key others) :
    layout.allColumns = key.columns ++ others := by
  rw [Layout.allColumns, h.keyColumns_eq, h.otherColumns_eq]

end Joins

end Layout

namespace Resolve

variable {key : KeyColumns} {others : List Column}

/-- The names of all columns, those of the key first. -/
def allNames (key : KeyColumns) (others : List Column) : List String :=
  key.names ++ others.map Column.name

theorem map_fst_columns (key : KeyColumns) (others : List Column) :
    ((key.columns ++ others).map fun column => (column.name, column)).map Prod.fst =
      allNames key others := by
  rw [List.map_map, List.map_append]
  rfl

/-- The numbers of names add up to the number of columns only if no name comes twice. -/
theorem isPartition_columnMap_iff :
    Layout.isPartition key.names (others.map Column.name) (columnMap key others) = true ↔
      (allNames key others).Nodup := by
  -- The map has one entry for each name, so its size falls short exactly if a name comes twice.
  have hnames : (columnMap key others).names = (allNames key others).eraseDups := by
    rw [columnMap, NameMap.names_ofList, map_fst_columns]
  rw [Layout.isPartition_iff, hnames]
  constructor
  · rintro ⟨hlength, -⟩
    exact nodup_of_length_eraseDups (Nat.le_of_eq hlength)
  · intro hdistinct
    rw [eraseDups_of_nodup hdistinct]
    exact ⟨rfl, fun _ hname => hname⟩

/-- Columns with distinct names are joined by the layout that is made of them. -/
theorem joins_of_nodup (hdistinct : (allNames key others).Nodup) :
    Layout.Joins key others
      ⟨key.names, others.map Column.name, columnMap key others, key.keySourced⟩ :=
  ⟨rfl, rfl, NameMap.entries_ofList (map_fst_columns key others ▸ hdistinct), rfl⟩

/-- The last step succeeds exactly for columns with distinct names, if only names of key columns are
read from the record's key. Its other checks pass by themselves. -/
theorem layout_eq_ok_iff {layout : Layout} :
    Resolve.layout key others = .ok layout ↔
      layout.Joins key others ∧ (allNames key others).Nodup ∧
        ∀ name ∈ key.keySourced.getD [], name ∈ key.names := by
  -- The words that the last step puts around a failure do not matter for a success.
  have hmake : Resolve.layout key others = .ok layout ↔
      Layout.make key.names (others.map Column.name) (columnMap key others) key.keySourced =
        .ok layout := by
    unfold Resolve.layout
    split <;> next h => simp [h]
  rw [hmake, Layout.make_eq_ok_iff, isPartition_columnMap_iff]
  constructor
  · rintro ⟨rfl, hdistinct, hsourced⟩
    exact ⟨joins_of_nodup hdistinct, hdistinct, hsourced⟩
  · rintro ⟨hjoins, hdistinct, hsourced⟩
    exact ⟨hjoins.eq (joins_of_nodup hdistinct), hdistinct, hsourced⟩

/-! ## The remaining columns -/

/-- A name passes the whitelist, which applies only where no headers name the columns and which lets
everything pass if it is empty. -/
def Passes (mode : KeyMode) (whitelist : List String) (name : String) : Prop :=
  mode = .flatten ∨ whitelist = [] ∨ name ∈ whitelist

instance (mode : KeyMode) (whitelist : List String) : DecidablePred (Passes mode whitelist) :=
  fun name => inferInstanceAs (Decidable (mode = .flatten ∨ whitelist = [] ∨ name ∈ whitelist))

/-- The fields of a record's value that are no key columns and that pass, in declared order. -/
def remaining (mode : KeyMode) (whitelist : List String) (request : KeyRequest)
    (key : KeyColumns) : List Column :=
  let fields := (request.value.map Schema.fields).getD []
  let kept := fields.filter fun field => field.name ∉ key.names ∧ Passes mode whitelist field.name
  kept.map fun field => ⟨field.name, field.schema, false⟩

variable {mode : KeyMode} {whitelist : List String} {request : KeyRequest}

theorem otherColumns_eq_remaining :
    otherColumns request.value key.names (effectiveWhitelist mode whitelist) =
      remaining mode whitelist request key := by
  unfold otherColumns remaining
  refine congrArg (List.map _) (List.filter_congr fun field _ => ?_)
  rw [Bool.eq_iff_iff, decide_eq_true_iff, Passes, effectiveWhitelist]
  -- Where headers name the columns there is no whitelist, and all fields outside the key are kept.
  by_cases hmode : mode = .flatten <;> simp [hmode]

/-- A remaining column lies outside the key. -/
theorem mem_remaining {column : Column} (h : column ∈ remaining mode whitelist request key) :
    column.name ∉ key.names ∧ column.isKey = false := by
  obtain ⟨field, hfield, rfl⟩ := List.mem_map.mp h
  have hkept := of_decide_eq_true (List.mem_filter.mp hfield).2
  exact ⟨hkept.1, rfl⟩

/-- A remaining column holds the field of the value that is found under its name, provided that the
remaining columns have distinct names. -/
theorem exists_field?_of_mem_remaining {column : Column}
    (hdistinct : ((remaining mode whitelist request key).map Column.name).Nodup)
    (h : column ∈ remaining mode whitelist request key) :
    ∃ value field, request.value = some value ∧ value.field? column.name = some field ∧
      column = ⟨column.name, field.schema, false⟩ := by
  obtain ⟨field, hkept, rfl⟩ := List.mem_map.mp h
  obtain ⟨hfield, hpasses⟩ := List.mem_filter.mp hkept
  cases hvalue : request.value with
  | none =>
    rw [hvalue] at hfield
    cases hfield
  | some value =>
    rw [hvalue] at hfield
    obtain ⟨found, hfound⟩ := Schema.exists_field?_iff.mpr (List.mem_map_of_mem hfield)
    have hname : found.name = field.name := Schema.name_eq_of_field? hfound
    -- What keeps a field is its name alone, so the field that is found is kept as well.
    have hother : ⟨found.name, found.schema, false⟩ ∈ remaining mode whitelist request key := by
      refine List.mem_map.mpr ⟨found, List.mem_filter.mpr ⟨?_, hname ▸ hpasses⟩, rfl⟩
      rw [hvalue]
      exact Schema.mem_of_field? hfound
    have heq := List.inj_on_of_nodup_map hdistinct h hother hname.symm
    exact ⟨value, found, rfl, hfound, hname ▸ heq⟩

/-- A name is that of a remaining column exactly if it is that of a field outside the key that
passes. -/
theorem mem_names_remaining_iff {name : String} :
    name ∈ (remaining mode whitelist request key).map Column.name ↔
      (∃ value ∈ request.value, name ∈ value.fieldNames) ∧
        name ∉ key.names ∧ Passes mode whitelist name := by
  have hfield : (∃ value ∈ request.value, name ∈ value.fieldNames) ↔
      ∃ field ∈ (request.value.map Schema.fields).getD [], field.name = name := by
    cases request.value <;> simp [Schema.fieldNames]
  rw [hfield, remaining, List.map_map, List.mem_map]
  constructor
  · rintro ⟨field, hkept, rfl⟩
    obtain ⟨hmem, hpasses⟩ := List.mem_filter.mp hkept
    exact ⟨⟨field, hmem, rfl⟩, of_decide_eq_true hpasses⟩
  · rintro ⟨⟨field, hmem, rfl⟩, hpasses⟩
    exact ⟨field, List.mem_filter.mpr ⟨hmem, decide_eq_true hpasses⟩, rfl⟩

/-- The remaining columns of a value in which no name comes twice have distinct names. -/
theorem nodup_names_remaining (hvalue : ∀ value ∈ request.value, value.check = .ok value) :
    ((remaining mode whitelist request key).map Column.name).Nodup := by
  unfold remaining
  rw [List.map_map]
  cases hpresent : request.value with
  | none => exact List.nodup_nil
  | some value =>
    have hdistinct := (Schema.check_eq_ok_iff.mp (hvalue value hpresent)).2
    exact hdistinct.sublist (List.filter_sublist.map Field.name)

/-- A lawful key joins the remaining columns of a value in which no name comes twice. -/
theorem exists_layout_remaining (hkey : key.Lawful mode)
    (hvalue : ∀ value ∈ request.value, value.check = .ok value) :
    ∃ layout, Resolve.layout key (remaining mode whitelist request key) = .ok layout := by
  have hdistinct : (allNames key (remaining mode whitelist request key)).Nodup := by
    refine List.nodup_append.mpr ⟨hkey.distinct, nodup_names_remaining hvalue, ?_⟩
    -- A name of the key is never that of a remaining column.
    rintro name hname other hother rfl
    obtain ⟨column, hcolumn, rfl⟩ := List.mem_map.mp hother
    exact (mem_remaining hcolumn).1 hname
  exact ⟨_, layout_eq_ok_iff.mpr ⟨joins_of_nodup hdistinct, hdistinct, hkey.mem_names⟩⟩

end Resolve

end TableLayout
