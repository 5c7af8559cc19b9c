import Mathlib.Data.List.Basic
import TableLayout.Layout.Basic
import TableLayout.Proofs.Distinct

/-!
# Layouts and partitions

A layout should part its columns: each of them is listed once, among the key columns or among the
others. `Layout.make` compares the number of the names that are listed with the number of columns,
and looks up each name. A name that is listed once too often then makes up for a column that is not
listed at all.

- `Layout.PartsColumns`: the key columns and the others are a partition of all columns, and only key
  columns are read from the record's key.
- `Layout.unlisted`: the columns that a layout leaves out.
- `Layout.partsColumns_iff_of_make`: parts that make up such a layout pass. Whatever passes leaves
  out as many columns as it has repeats among its names; it parts its columns exactly if no name is
  repeated, which comes to the same as that no column is left out.
- `Layout.make_repeatedName`: a layout with a repeated name does pass.
-/

namespace TableLayout.Layout

/-- The names that a layout lists, those of the key columns first. -/
def listed (layout : Layout) : List String :=
  layout.keyNames ++ layout.otherNames

/-- The names of the columns that a layout does not list. -/
def unlisted (layout : Layout) : List String :=
  layout.columns.names.filter (· ∉ layout.listed)

/-- A layout lists each of its columns once, and reads only key columns from the record's key. -/
structure PartsColumns (layout : Layout) : Prop where
  keyDistinct : layout.keyNames.Nodup
  otherDistinct : layout.otherNames.Nodup
  disjoint : ∀ name ∈ layout.keyNames, name ∉ layout.otherNames
  covers : ∀ name, name ∈ layout.columns.names ↔
    name ∈ layout.keyNames ∨ name ∈ layout.otherNames
  sourced : ∀ name ∈ layout.keySourced.getD [], name ∈ layout.keyNames

/-! ## Counting -/

/-- A list of some of several distinct names has as many different names as are not missing. -/
theorem length_filter_not_mem_add {names listed : List String} (hnames : names.Nodup)
    (hlisted : ∀ name ∈ listed, name ∈ names) :
    (names.filter (· ∉ listed)).length + listed.eraseDups.length = names.length := by
  have hperm : (names.filter (· ∈ listed)).Perm listed.eraseDups := by
    refine (List.perm_ext_iff_of_nodup (hnames.filter _) (nodup_eraseDups listed)).mpr ?_
    intro name
    rw [List.mem_filter, List.mem_eraseDups, decide_eq_true_iff]
    exact ⟨And.right, fun h => ⟨hlisted name h, h⟩⟩
  have hsplit := names.length_eq_length_filter_add (decide <| · ∈ listed)
  simp only [← decide_not] at hsplit
  rw [hsplit, hperm.length_eq, Nat.add_comm]

variable {layout : Layout}

theorem unlisted_eq_nil_iff :
    layout.unlisted = [] ↔ ∀ name ∈ layout.columns.names, name ∈ layout.listed := by
  simp [unlisted, List.filter_eq_nil_iff]

/-! ## The check -/

/-- A layout that passes the check. -/
structure Checked (layout : Layout) : Prop where
  length_eq : layout.listed.length = layout.columns.names.length
  known : ∀ name ∈ layout.listed, name ∈ layout.columns.names
  sourced : ∀ name ∈ layout.keySourced.getD [], name ∈ layout.keyNames

/-- A layout is made exactly if it passes the check. -/
theorem make_eq_ok_iff_checked {keyNames otherNames : List String} {columns : NameMap Column}
    {keySourced : Option (List String)} :
    make keyNames otherNames columns keySourced = .ok layout ↔
      layout = ⟨keyNames, otherNames, columns, keySourced⟩ ∧ layout.Checked := by
  rw [make_eq_ok_iff, isPartition_iff]
  constructor
  · rintro ⟨rfl, ⟨hlength, hknown⟩, hsourced⟩
    exact ⟨rfl, hlength, hknown, hsourced⟩
  · rintro ⟨rfl, hlength, hknown, hsourced⟩
    exact ⟨rfl, ⟨hlength, hknown⟩, hsourced⟩

theorem PartsColumns.nodup_listed (h : layout.PartsColumns) : layout.listed.Nodup := by
  refine List.nodup_append.mpr ⟨h.keyDistinct, h.otherDistinct, ?_⟩
  rintro name hname _ hother rfl
  exact h.disjoint name hname hother

/-- Names that part the columns pass the check. -/
theorem PartsColumns.checked (h : layout.PartsColumns) : layout.Checked := by
  have hmem : ∀ name, name ∈ layout.listed ↔ name ∈ layout.columns.names :=
    fun name => List.mem_append.trans (h.covers name).symm
  have hperm := (List.perm_ext_iff_of_nodup h.nodup_listed layout.columns.nodup_names).mpr hmem
  exact ⟨hperm.length_eq, fun name => (hmem name).mp, h.sourced⟩

namespace Checked

/-- The columns that are left out make up for the names that are repeated. -/
theorem length_unlisted_add (h : layout.Checked) :
    layout.unlisted.length + layout.listed.eraseDups.length = layout.listed.length := by
  rw [h.length_eq]
  exact length_filter_not_mem_add layout.columns.nodup_names h.known

/-- By counting, a name comes twice exactly if a column is left out. -/
theorem nodup_listed_iff (h : layout.Checked) : layout.listed.Nodup ↔ layout.unlisted = [] := by
  have hcount := h.length_unlisted_add
  constructor
  · intro hdistinct
    rw [eraseDups_of_nodup hdistinct] at hcount
    exact List.length_eq_zero_iff.mp (by omega)
  · intro hnone
    rw [hnone, List.length_nil, Nat.zero_add] at hcount
    exact nodup_of_length_eraseDups (Nat.le_of_eq hcount.symm)

/-- What the check leaves open is whether a name comes twice. -/
theorem partsColumns_iff (h : layout.Checked) : layout.PartsColumns ↔ layout.listed.Nodup := by
  refine ⟨PartsColumns.nodup_listed, fun hdistinct => ?_⟩
  obtain ⟨hkey, hother, hdisjoint⟩ := List.nodup_append.mp hdistinct
  have hcovers := unlisted_eq_nil_iff.mp (h.nodup_listed_iff.mp hdistinct)
  constructor
  case keyDistinct => exact hkey
  case otherDistinct => exact hother
  case disjoint => exact fun name hname hmem => hdisjoint name hname name hmem rfl
  case covers =>
    exact fun name => ⟨fun hname => List.mem_append.mp (hcovers name hname),
      fun hname => h.known name (List.mem_append.mpr hname)⟩
  case sourced => exact h.sourced

end Checked

/-! ## What the check is good for -/

/-- A layout that parts its columns passes. One that passes lists only columns, and leaves out as
many as it has repeats among its names; it parts its columns exactly if it repeats no name, and
exactly if it leaves no column out. -/
theorem partsColumns_iff_of_make (keyNames otherNames : List String) (columns : NameMap Column)
    (keySourced : Option (List String)) :
    (PartsColumns ⟨keyNames, otherNames, columns, keySourced⟩ →
      make keyNames otherNames columns keySourced =
        .ok ⟨keyNames, otherNames, columns, keySourced⟩) ∧
    ∀ layout, make keyNames otherNames columns keySourced = .ok layout →
      (∀ name ∈ layout.listed, name ∈ layout.columns.names) ∧
      (∀ name ∈ layout.keySourced.getD [], name ∈ layout.keyNames) ∧
      layout.unlisted.length + layout.listed.eraseDups.length = layout.listed.length ∧
      (layout.PartsColumns ↔ layout.listed.Nodup) ∧
      (layout.PartsColumns ↔ layout.unlisted = []) := by
  refine ⟨fun hparts => make_eq_ok_iff_checked.mpr ⟨rfl, hparts.checked⟩, fun layout h => ?_⟩
  obtain ⟨-, hchecked⟩ := make_eq_ok_iff_checked.mp h
  exact ⟨hchecked.known, hchecked.sourced, hchecked.length_unlisted_add, hchecked.partsColumns_iff,
    hchecked.partsColumns_iff.trans hchecked.nodup_listed_iff⟩

/-- Two columns `id` and `note`. -/
def idAndNote : NameMap Column :=
  .ofList [("id", ⟨"id", .ofType .int64 false, true⟩),
    ("note", ⟨"note", .ofType .string true, false⟩)]

theorem idAndNote_parts :
    ∃ layout, make ["id"] ["note"] idAndNote none = .ok layout ∧ layout.PartsColumns := by
  have hmake : make ["id"] ["note"] idAndNote none = .ok _ := rfl
  have hchecked := (partsColumns_iff_of_make ["id"] ["note"] idAndNote none).2 _ hmake
  exact ⟨_, hmake, hchecked.2.2.2.1.mpr (by decide)⟩

/-- The key column listed twice makes up for the other column, which is listed nowhere. -/
theorem make_repeatedName : ¬ ∀ keyNames otherNames columns keySourced layout,
    make keyNames otherNames columns keySourced = .ok layout → layout.PartsColumns := by
  intro h
  have hparts := h ["id", "id"] [] idAndNote none _ rfl
  exact absurd hparts.keyDistinct (by decide)

end TableLayout.Layout
