import TableLayout.Layout.Basic
import TableLayout.Proofs.Distinct
import TableLayout.Proofs.Schema.Agreement

/-!
# Layouts that count as equal

Layouts made of the same names and of columns that count as equal count as equal themselves.

- `NameMap.Related`: two maps hold related values under the same names. `NameMap.ofList_related`
  makes such maps of entries that are related one by one.
- `Layout.Interchangeable`: two layouts count as equal and fall together as keys.
- `Layout.make_alike`: making two layouts of parts that count as equal.
-/

namespace TableLayout

namespace NameMap

variable {α : Type}

/-- Two entries have the same name and related values. -/
def EntriesRelated (R : α → α → Prop) (entry entry' : String × α) : Prop :=
  entry.1 = entry'.1 ∧ R entry.2 entry'.2

/-- Two maps hold related values under the same names, in the same order. -/
def Related (R : α → α → Prop) (map map' : NameMap α) : Prop :=
  List.Forall₂ (EntriesRelated R) map.entries map'.entries

variable {R : α → α → Prop}

/-- Related entries stay related after one is put. -/
theorem putEntry_related {name : String} {value value' : α} (hvalue : R value value')
    {entries entries' : List (String × α)} (h : List.Forall₂ (EntriesRelated R) entries entries') :
    List.Forall₂ (EntriesRelated R) (putEntry name value entries)
      (putEntry name value' entries') := by
  induction h with
  | nil => exact .cons ⟨rfl, hvalue⟩ .nil
  | @cons entry entry' entries entries' hentry hrest ih =>
    obtain ⟨first, old⟩ := entry
    obtain ⟨first', old'⟩ := entry'
    obtain ⟨hname, hold⟩ := hentry
    obtain rfl : first = first' := hname
    rw [putEntry, putEntry]
    by_cases hfirst : first = name
    · rw [if_pos hfirst, if_pos hfirst]
      exact .cons ⟨rfl, hvalue⟩ hrest
    · rw [if_neg hfirst, if_neg hfirst]
      exact .cons ⟨rfl, hold⟩ ih

/-- Putting in related entries one after the other leaves related maps related. -/
theorem foldl_put_related {entries entries' : List (String × α)}
    (h : List.Forall₂ (EntriesRelated R) entries entries') {map map' : NameMap α}
    (hmap : Related R map map') :
    Related R (entries.foldl (fun map entry => map.put entry.1 entry.2) map)
      (entries'.foldl (fun map entry => map.put entry.1 entry.2) map') := by
  induction h generalizing map map' with
  | nil => exact hmap
  | @cons entry entry' entries entries' hentry _ ih =>
    have hput : Related R (map.put entry.1 entry.2) (map'.put entry'.1 entry'.2) :=
      hentry.1 ▸ putEntry_related hentry.2 hmap
    exact ih hput

theorem ofList_related {entries entries' : List (String × α)}
    (h : List.Forall₂ (EntriesRelated R) entries entries') :
    Related R (ofList entries) (ofList entries') := by
  have hempty : Related R empty empty := List.Forall₂.nil
  exact foldl_put_related h hempty

namespace Related

variable {map map' : NameMap α}

theorem names_eq (h : Related R map map') : map.names = map'.names :=
  map_eq_of_forall₂ h fun _ _ hentry => hentry.1

theorem size_eq (h : Related R map map') : map.size = map'.size :=
  List.Forall₂.length_eq h

/-- What stands under a name in one map is related to what stands there in the other. -/
theorem exists_find? (h : Related R map map') {name : String} {value : α}
    (hmem : (name, value) ∈ map.entries) :
    ∃ value', map'.find? name = some value' ∧ R value value' := by
  obtain ⟨⟨name', value'⟩, hmem', hname, hvalue⟩ := exists_of_forall₂ h _ hmem
  obtain rfl : name = name' := hname
  exact ⟨value', find?_eq_some_iff.mpr hmem', hvalue⟩

end Related

end NameMap

namespace Layout

/-- Two layouts count as equal, and they have the names in common by which they fall together as
keys. -/
structure Interchangeable (a b : Layout) : Prop where
  agrees : a.agrees b = true
  keyNames : a.keyNames = b.keyNames
  otherNames : a.otherNames = b.otherNames
  keySourced : a.keySourced = b.keySourced

variable {columns columns' : NameMap Column}
  (hcolumns : NameMap.Related (fun a b => a.agrees b = true) columns columns')
include hcolumns

/-- Related maps count as equal. -/
theorem agreeColumns_of_related : agreeColumns columns columns' = true := by
  rw [agreeColumns, hcolumns.size_eq, beq_self_eq_true, Bool.true_and, List.all_eq_true]
  rintro ⟨name, column⟩ hmem
  obtain ⟨column', hfind, hagrees⟩ := hcolumns.exists_find? hmem
  show (columns'.find? name).any column.agrees = true
  rw [hfind]
  exact hagrees

/-- Whether names and columns match can be told by the names of the columns. -/
theorem isPartition_eq_of_related (keyNames otherNames : List String) :
    isPartition keyNames otherNames columns = isPartition keyNames otherNames columns' := by
  rw [isPartition, isPartition, hcolumns.size_eq, hcolumns.names_eq]

/-- Layouts are made of related columns alike. -/
theorem make_alike (keyNames otherNames : List String) (keySourced : Option (List String)) :
    Alike Interchangeable (make keyNames otherNames columns keySourced)
      (make keyNames otherNames columns' keySourced) := by
  unfold make
  rw [isPartition_eq_of_related hcolumns, hcolumns.names_eq]
  by_cases hpartition : isPartition keyNames otherNames columns'
  · rw [if_pos hpartition, if_pos hpartition]
    cases (keySourced.getD []).filter (!keyNames.contains ·) with
    | nil =>
      refine .ok ⟨?_, rfl, rfl, rfl⟩
      simp [agrees, agreeNames, agreeColumns_of_related hcolumns]
    | cons name names => exact .error _
  · rw [if_neg hpartition, if_neg hpartition]
    exact .error _

end Layout

end TableLayout
