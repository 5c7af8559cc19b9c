import Mathlib.Data.List.Nodup
import TableLayout.Key.Derive
import TableLayout.Proofs.Distinct
import TableLayout.Proofs.Failure

/-!
# Lawful keys

What every key mode may be relied on for, whatever the record and the settings are.

- `KeyColumns.Lawful`: the columns of a key have distinct names and belong to the key, and only
  where headers name the columns are there names that are read from the record's key; these are
  names of the key's columns, each once.
- `KeyRequest.Exceeds`: the value of a header goes beyond the limit on the digits of numbers.
- `Key.derive_settles`: a derivation ends in a lawful key or in a rejection, or such a header cannot
  be written. The guards in front of `KeyColumns.make` and `KeyColumns.column` keep both of their
  defects out.
-/

namespace TableLayout

namespace KeyColumns

/-- What holds for the columns of a key under a mode. -/
structure Lawful (mode : KeyMode) (key : KeyColumns) : Prop where
  distinct : key.names.Nodup
  isKey : ∀ column ∈ key.columns, column.isKey = true
  plain : mode ≠ .flatten → key.keySourced = none
  sourced : mode = .flatten →
    ∃ names, key.keySourced = some names ∧ names.Nodup ∧ ∀ name ∈ names, name ∈ key.names

/-- Under every mode, the names that are read from the record's key are those of key columns. -/
theorem Lawful.mem_names {mode : KeyMode} {key : KeyColumns} (h : key.Lawful mode) :
    ∀ name ∈ key.keySourced.getD [], name ∈ key.names := by
  by_cases hmode : mode = .flatten
  · obtain ⟨names, hnames, -, hmem⟩ := h.sourced hmode
    rw [hnames]
    exact hmem
  · rw [h.plain hmode]
    exact fun name hname => absurd hname List.not_mem_nil

/-- The guard against two columns of one name lets distinct names pass. -/
theorem make_of_nodup {columns : List Column} {keySourced : Option (List String)}
    (h : (columns.map Column.name).Nodup) : make columns keySourced = .ok ⟨columns, keySourced⟩ :=
  if_pos h

/-- A column that holds a field of a struct, as a part of the key. -/
def IsField (schema : Schema) (name : String) (column : Column) : Prop :=
  ∃ field, schema.field? name = some field ∧ column = ⟨name, field.schema, true⟩

/-- A field of the struct is found as a column, and nothing else is. -/
theorem column_eq_ok_iff {schema : Schema} {name : String} {column : Column} :
    KeyColumns.column schema name = .ok column ↔ IsField schema name column := by
  unfold KeyColumns.column IsField
  cases h : schema.field? name with
  | none => simp
  | some field => simp [eq_comm]

/-- There is such a column exactly for the names of fields. -/
theorem exists_isField_iff {schema : Schema} {name : String} :
    (∃ column, IsField schema name column) ↔ name ∈ schema.fieldNames := by
  rw [← Schema.exists_field?_iff]
  constructor
  · rintro ⟨_, field, hfield, -⟩
    exact ⟨field, hfield⟩
  · rintro ⟨field, hfield⟩
    exact ⟨_, field, hfield, rfl⟩

/-- Each name gives the column of its field, in its first place. -/
theorem ofNames_eq_ok_iff {schema : Schema} {names : List String} {columns : List Column} :
    ofNames schema names = .ok columns ↔
      List.Forall₂ (IsField schema) names.eraseDups columns := by
  rw [ofNames, mapM_eq_ok_iff]
  simp only [column_eq_ok_iff]

/-- Names of fields all have their columns. -/
theorem exists_ofNames {schema : Schema} {names : List String}
    (h : ∀ name ∈ names, name ∈ schema.fieldNames) :
    ∃ columns, List.Forall₂ (IsField schema) names.eraseDups columns := by
  refine exists_forall₂_iff.mpr fun name hname => ?_
  exact exists_isField_iff.mpr (h name (List.mem_eraseDups.mp hname))

/-- Columns that hold fields have the names by which these were asked for. -/
theorem names_of_isField {schema : Schema} {names : List String} {columns : List Column}
    (h : List.Forall₂ (IsField schema) names columns) : columns.map Column.name = names := by
  induction h with
  | nil => rfl
  | cons hfield _ ih =>
    obtain ⟨field, -, rfl⟩ := hfield
    rw [List.map_cons, ih]

/-- Columns that hold fields, each in its first place, make up a key. -/
theorem make_of_isField {schema : Schema} {names : List String} {columns : List Column}
    (h : List.Forall₂ (IsField schema) names.eraseDups columns) :
    make columns none = .ok ⟨columns, none⟩ :=
  make_of_nodup (names_of_isField h ▸ nodup_eraseDups names)

/-- They belong to the key. -/
theorem isKey_of_isField {schema : Schema} {names : List String} {columns : List Column}
    (h : List.Forall₂ (IsField schema) names columns) :
    ∀ column ∈ columns, column.isKey = true := by
  induction h with
  | nil => exact fun column hcolumn => absurd hcolumn List.not_mem_nil
  | cons hfield _ ih =>
    obtain ⟨field, -, rfl⟩ := hfield
    exact List.forall_mem_cons.mpr ⟨rfl, ih⟩

/-- The guard passes exactly if every name is that of a field. -/
theorem requireFields_eq_ok_iff {request : KeyRequest} {mode : KeyMode} {payload : Payload}
    {schema : Schema} {names : List String} :
    requireFields request mode payload schema names = .ok () ↔
      ∀ name ∈ names, name ∈ schema.fieldNames := by
  have hnone : requireFields request mode payload schema names = .ok () ↔
      names.find? (fun name => (schema.field? name).isNone) = none := by
    unfold requireFields
    split
    · next h => exact ⟨nofun, fun h' => nomatch h.symm.trans h'⟩
    · next h => exact iff_of_true rfl h
  rw [hnone, List.find?_eq_none]
  refine forall₂_congr fun name _ => ?_
  rw [← Schema.field?_isSome_iff]
  cases schema.field? name <;> simp

/-- The guard lets pass or rejects; it has no other end. -/
theorem requireFields_settles {Long : Nat → Prop} (request : KeyRequest) (mode : KeyMode)
    (payload : Payload) (schema : Schema) (names : List String) :
    Settles Long (fun _ => ∀ name ∈ names, name ∈ schema.fieldNames)
      (requireFields request mode payload schema names) := by
  have hrejects : Settles Long (requireFields request mode payload schema names = .ok ·)
      (requireFields request mode payload schema names) := by
    refine .of_error fun failure h => ?_
    unfold requireFields at h
    split at h
    · exact ⟨_, (Except.error.inj h).symm⟩
    · cases h
  exact hrejects.imp fun _ => requireFields_eq_ok_iff.mp

/-- The fields of a struct that have these names make a lawful key. -/
theorem make_ofNames_settles {Long : Nat → Prop} {mode : KeyMode} (hmode : mode ≠ .flatten)
    {schema : Schema} {names : List String} (h : ∀ name ∈ names, name ∈ schema.fieldNames) :
    Settles Long (Lawful mode) (ofNames schema names >>= fun columns => make columns none) := by
  -- The names are those of fields, so none is missing, and each is taken once, so none is repeated.
  obtain ⟨columns, hfields⟩ := exists_ofNames h
  have hdistinct : (columns.map Column.name).Nodup :=
    names_of_isField hfields ▸ nodup_eraseDups names
  rw [ofNames_eq_ok_iff.mpr hfields]
  show Settles Long (Lawful mode) (make columns none)
  rw [make_of_isField hfields]
  exact .ok ⟨hdistinct, isKey_of_isField hfields, fun _ => rfl, fun h => absurd h hmode⟩

/-- The configured fields of a struct, or all of them, make a lawful key. -/
theorem ofStruct_settles {Long : Nat → Prop} {mode : KeyMode} (hmode : mode ≠ .flatten)
    (request : KeyRequest) (payload : Payload) (schema : Schema) :
    Settles Long (Lawful mode) (ofStruct request mode payload schema) := by
  unfold ofStruct
  split
  · exact make_ofNames_settles hmode fun name hname => hname
  · exact (requireFields_settles ..).bind fun _ hnames => make_ofNames_settles hmode hnames

end KeyColumns

/-! ## Long numbers -/

/-- The value of a header goes beyond the limit on the digits of numbers. -/
def KeyRequest.Exceeds (request : KeyRequest) (most : Nat) : Prop :=
  request.digits = some most ∧ ∃ header ∈ request.headers, header.value.fits most = false

/-- No header goes beyond the limit if all can be written. -/
theorem KeyRequest.Prints.not_exceeds {request : KeyRequest} (h : request.Prints) (most : Nat) :
    ¬request.Exceeds most := by
  rintro ⟨hlimit, header, hheader, hlong⟩
  exact absurd (h header hheader most hlimit) (Bool.eq_false_iff.mp hlong)

/-- Writing the headers settles, unless the value of one goes beyond the limit. -/
theorem KeyRequest.shownHeaders_settles (request : KeyRequest) :
    Settles request.Exceeds (· = Header.shownAll request.headers) request.shownHeaders := by
  unfold KeyRequest.shownHeaders
  cases h : Datum.anyExceeds? request.digits (request.headers.map Header.value) with
  | none => exact .ok rfl
  | some most =>
    obtain ⟨value, hvalue, hexceeds⟩ := List.exists_of_findSome?_eq_some h
    obtain ⟨header, hheader, rfl⟩ := List.mem_map.mp hvalue
    obtain ⟨hlimit, hlong⟩ := Datum.exceeds?_eq_some_iff.mp hexceeds
    exact .longNumber ⟨hlimit, header, hheader, hlong⟩

/-! ## Keys named by headers -/

namespace Flatten

open KeyColumns (Lawful make_of_nodup)

variable (request : KeyRequest)

section Headers

variable {header : Header} (hheader : header ∈ request.headers)
include hheader

/-- The name for a column is the text of the header, unless there is none or it cannot be written.
-/
theorem columnName_settles :
    Settles request.Exceeds (fun name => header.text = .ok name) (columnName request header) := by
  have hprints := Settles.requirePrints request.digits header.value
  refine (hprints.weaken fun most h => ⟨h.1, header, hheader, h.2⟩).bind fun _ _ => ?_
  cases h : header.text with
  | ok name => exact .ok rfl
  | error fault => exact .rejected _

/-- A header that names a field of the key gives a key column. -/
theorem keyColumn_settles (key : Schema) :
    Settles request.Exceeds (fun column => column.isKey = true) (keyColumn request key header) := by
  unfold keyColumn
  split
  · exact request.shownHeaders_settles.bind fun _ _ => .rejected _
  · exact (columnName_settles request hheader).bind fun name _ => .ok rfl

/-- A header that names a field of the value gives a key column. -/
theorem valueColumn_settles (value : Schema) :
    Settles request.Exceeds (fun entry => entry.1.isKey = true)
      (valueColumn request value header) := by
  unfold valueColumn
  refine (columnName_settles request hheader).bind fun name _ => ?_
  split
  · exact .rejected _
  · exact .ok rfl

end Headers

/-- Of the columns that headers name, the first of each name make a lawful key. -/
theorem make_firstByName_settles {columns : List Column} {sourced : List String}
    (hkey : ∀ column ∈ columns, column.isKey = true) (hdistinct : sourced.Nodup)
    (hnames : ∀ name ∈ sourced, name ∈ columns.map Column.name) :
    Settles request.Exceeds (Lawful .flatten)
      (KeyColumns.make (Column.firstByName columns) (some sourced)) := by
  rw [make_of_nodup (Column.nodup_names_firstByName columns)]
  refine .ok ⟨Column.nodup_names_firstByName columns, ?_, fun h => absurd rfl h, fun _ => ?_⟩
  · exact fun column hcolumn => hkey column (Column.mem_of_mem_firstByName hcolumn)
  · -- Dropping later columns of a name loses no name, so the names to be read are still there.
    refine ⟨sourced, rfl, hdistinct, fun name hname => ?_⟩
    show name ∈ (Column.firstByName columns).map Column.name
    rw [Column.names_firstByName]
    exact List.mem_eraseDups.mpr (hnames name hname)

/-- The columns from the record's key make a lawful key: names are taken once, in their first place.
-/
theorem fromKey_settles : Settles request.Exceeds (Lawful .flatten) (fromKey request) := by
  unfold fromKey
  -- The cases of the derivation: no key, a key of one value, a struct, and any other key.
  split
  · exact .rejected _
  · next key _ =>
    split
    · split
      · next header hheaders =>
        have hheader : header ∈ request.headers := hheaders ▸ List.mem_singleton_self header
        refine (columnName_settles request hheader).bind fun name _ => ?_
        exact .ok ⟨List.nodup_singleton name, by simp, fun h => absurd rfl h,
          fun _ => ⟨[name], rfl, List.nodup_singleton name, fun _ h => h⟩⟩
      · exact request.shownHeaders_settles.bind fun _ _ => .rejected _
    · split
      · refine (Settles.mapM fun header hheader => keyColumn_settles request hheader key).bind ?_
        intro columns hcolumns
        refine make_firstByName_settles request (forall_of_forall₂ hcolumns)
          (Column.nodup_names_firstByName columns) fun name hname => ?_
        rw [Column.names_firstByName] at hname
        exact List.mem_eraseDups.mp hname
      · exact .rejected _

/-- So do the columns from its value; those that are also read from the key are among them. -/
theorem fromValue_settles : Settles request.Exceeds (Lawful .flatten) (fromValue request) := by
  unfold fromValue
  split
  · exact .rejected _
  · next value _ =>
    refine (Settles.mapM fun header hheader => valueColumn_settles request hheader value).bind ?_
    intro found hfound
    have hkey := forall_of_forall₂ hfound
    -- Two facts are left: all columns are key columns, and what is read from the key is among them.
    refine make_firstByName_settles request ?_ (nodup_eraseDups _) fun name hname => ?_
    · intro column hcolumn
      obtain ⟨entry, hentry, rfl⟩ := List.mem_map.mp hcolumn
      exact hkey entry hentry
    · obtain ⟨entry, hentry, rfl⟩ := List.mem_map.mp (List.mem_eraseDups.mp hname)
      exact List.mem_map_of_mem (List.mem_map_of_mem (List.mem_filter.mp hentry).1)

/-- Both branches settle, and with them the derivation. -/
theorem derive_settles : Settles request.Exceeds (Lawful .flatten) (Flatten.derive request) := by
  unfold Flatten.derive
  split
  · exact fromKey_settles request
  · exact fromValue_settles request

end Flatten

/-! ## Keys by mode -/

namespace Key

open KeyColumns (Lawful make_of_nodup)

variable (request : KeyRequest)

/-- The coordinates have three distinct names, their own or the configured ones. -/
theorem coordinateNames_settles :
    Settles request.Exceeds (fun names => names.length = 3 ∧ names.Nodup)
      (coordinateNames request) := by
  unfold coordinateNames
  split
  · exact .ok (by decide)
  · split
    · next h => exact .ok h
    · exact .rejected _

/-- Three distinct names make a lawful key. -/
theorem coordinates_settles : Settles request.Exceeds (Lawful .kafka) (coordinates request) := by
  refine (coordinateNames_settles request).bind ?_
  rintro names ⟨hlength, hdistinct⟩
  obtain ⟨topic, partition, offset, rfl⟩ := List.length_eq_three.mp hlength
  have hmake :
      KeyColumns.make ([topic, partition, offset].zipWith coordinate coordinateTypes) none =
        .ok ⟨_, none⟩ := make_of_nodup hdistinct
  rw [hmake]
  refine .ok ⟨hdistinct, ?_, fun _ => rfl, nofun⟩
  simp [coordinateTypes, coordinate]

/-- A key of one value makes one column, and a struct those of its fields. -/
theorem ofKey_settles : Settles request.Exceeds (Lawful .recordKey) (ofKey request) := by
  unfold ofKey
  split
  · exact .rejected _
  · next key _ =>
    split
    · split
      · next name _ =>
        exact .ok ⟨List.nodup_singleton name, by simp, fun _ => rfl, nofun⟩
      · exact .rejected _
    · split
      · exact KeyColumns.ofStruct_settles (by decide) request .key key
      · exact .rejected _

theorem ofValue_settles : Settles request.Exceeds (Lawful .recordValue) (ofValue request) := by
  unfold ofValue
  split
  · exact .rejected _
  · exact KeyColumns.ofStruct_settles (by decide) request .value _

/-- A derivation ends in a lawful key or in a rejection, under every mode and for every record,
unless the value of a header cannot be written. -/
theorem derive_settles (mode : KeyMode) :
    Settles request.Exceeds (Lawful mode) (derive mode request) := by
  cases mode with
  | none => exact .ok ⟨List.nodup_nil, by simp, fun _ => rfl, nofun⟩
  | kafka => exact coordinates_settles request
  | recordKey => exact ofKey_settles request
  | recordValue => exact ofValue_settles request
  | flatten => exact Flatten.derive_settles request

/-- Whatever key is derived is lawful. -/
theorem lawful_of_derive {request : KeyRequest} {mode : KeyMode} {key : KeyColumns}
    (h : derive mode request = .ok key) : key.Lawful mode := by
  have hsettles := derive_settles request mode
  rw [h] at hsettles
  exact hsettles.of_ok

end Key

end TableLayout
