import TableLayout.Proofs.Key.KeySourced
import TableLayout.Proofs.Key.Struct
import TableLayout.Proofs.Resolve.Steps

/-!
# Where columns come from

A resolution makes up no schemas: the schema of a column is that of a coordinate, that of the
record's key, or that of a field of the record's key or value.

- `KeyRequest.Brings`: the schemas that a record brings.
- `Key.brings_of_derive`: the columns of a key have such schemas.
- `Resolve.brings_of_resolve`: so have all columns of a layout.
-/

namespace TableLayout

/-- The schemas that columns of a record can have. -/
inductive KeyRequest.Brings (request : KeyRequest) : Schema → Prop where
  | coordinate (type : ValueType) : Brings request (.ofType type false)
  | key {key : Schema} (hkey : request.key = some key) : Brings request key
  | keyField {key : Schema} {field : Field} (hkey : request.key = some key)
      (hfield : field ∈ key.fields) : Brings request field.schema
  | valueField {value : Schema} {field : Field} (hvalue : request.value = some value)
      (hfield : field ∈ value.fields) : Brings request field.schema

variable {request : KeyRequest} {mode : KeyMode} {key : KeyColumns}

/-- A column that holds a field has the schema of that field. -/
theorem KeyRequest.brings_of_isField {schema : Schema} {names : List String}
    {columns : List Column} (hbrings : ∀ field ∈ schema.fields, request.Brings field.schema)
    (h : List.Forall₂ (KeyColumns.IsField schema) names columns) :
    ∀ column ∈ columns, request.Brings column.schema := by
  intro column hcolumn
  obtain ⟨name, -, field, hfield, rfl⟩ := exists_of_forall₂ h.flip column hcolumn
  exact hbrings field (Schema.mem_of_field? hfield)

/-! ## Keys -/

/-- Columns that headers name hold the record's key or a field of it. -/
theorem Flatten.brings_of_namedByKey {schema : Schema} (hkey : request.key = some schema)
    (h : Flatten.NamedByKey request schema key) :
    ∀ column ∈ key.columns, request.Brings column.schema := by
  intro column hcolumn
  cases h with
  | single =>
    obtain rfl := List.mem_singleton.mp hcolumn
    exact .key hkey
  | fields _ hcolumns =>
    have hmem := Column.mem_of_mem_firstByName hcolumn
    obtain ⟨header, -, field, hfield, name, -, rfl⟩ :=
      exists_of_forall₂ hcolumns.flip column hmem
    exact .keyField hkey (Schema.mem_of_field? hfield)

theorem Key.brings_of_takenFromKey {schema : Schema} (hkey : request.key = some schema)
    (h : Key.TakenFromKey request schema key) :
    ∀ column ∈ key.columns, request.Brings column.schema := by
  cases h with
  | single =>
    intro column hcolumn
    obtain rfl := List.mem_singleton.mp hcolumn
    exact .key hkey
  | fields _ _ hcolumns =>
    exact KeyRequest.brings_of_isField (fun _ => .keyField hkey) hcolumns.columns

theorem KeyColumns.columns_of_make {columns : List Column} {keySourced : Option (List String)}
    (h : KeyColumns.make columns keySourced = .ok key) : key.columns = columns := by
  unfold KeyColumns.make at h
  simp only at h
  split at h
  · obtain rfl := Except.ok.inj h
    rfl
  · cases h

theorem Key.brings_of_coordinates (h : Key.coordinates request = .ok key) :
    ∀ column ∈ key.columns, request.Brings column.schema := by
  obtain ⟨names, -, hmake⟩ := bind_eq_ok_iff.mp h
  rw [KeyColumns.columns_of_make hmake, ← List.map_uncurry_zip_eq_zipWith]
  intro column hcolumn
  obtain ⟨⟨name, type⟩, -, rfl⟩ := List.mem_map.mp hcolumn
  exact .coordinate type

/-- Both branches take columns from a part of the record. -/
theorem Flatten.brings_of_derive (h : Flatten.derive request = .ok key) :
    ∀ column ∈ key.columns, request.Brings column.schema := by
  unfold Flatten.derive at h
  split at h
  · obtain ⟨-, schema, hkey, hnamed⟩ := Flatten.fromKey_eq_ok_iff.mp h
    exact Flatten.brings_of_namedByKey hkey hnamed
  · cases hvalue : request.value with
    | none =>
      rw [Flatten.fromValue, hvalue] at h
      cases h
    | some value =>
      obtain ⟨-, hnamed⟩ := (Flatten.fromValue_eq_ok_iff hvalue).mp h
      obtain ⟨names, -, hcolumns⟩ := hnamed.columns
      exact KeyRequest.brings_of_isField (fun _ => .valueField hvalue) hcolumns

/-- The columns of a key have schemas that the record brings. -/
theorem Key.brings_of_derive (h : Key.derive mode request = .ok key) :
    ∀ column ∈ key.columns, request.Brings column.schema := by
  cases mode with
  | none =>
    obtain rfl := Except.ok.inj h
    exact nofun
  | kafka => exact Key.brings_of_coordinates h
  | recordKey =>
    obtain ⟨schema, hkey, htaken⟩ := Key.ofKey_eq_ok_iff.mp h
    exact Key.brings_of_takenFromKey hkey htaken
  | recordValue =>
    obtain ⟨value, hvalue, -, hcolumns⟩ := Key.ofValue_eq_ok_iff.mp h
    exact KeyRequest.brings_of_isField (fun _ => .valueField hvalue) hcolumns.columns
  | flatten => exact Flatten.brings_of_derive h

/-! ## Layouts -/

/-- The columns of a layout have schemas that the record brings. -/
theorem Resolve.brings_of_resolve {whitelist : List String} {layout : Layout}
    (h : (resolve (.text mode.text) whitelist request).outcome = .ok layout) :
    ∀ column ∈ layout.allColumns, request.Brings column.schema := by
  obtain ⟨key, hkey, hjoins⟩ := Resolve.exists_joins_of_resolve h
  intro column hcolumn
  rw [hjoins.allColumns_eq, List.mem_append] at hcolumn
  rcases hcolumn with hcolumn | hcolumn
  · exact Key.brings_of_derive hkey column hcolumn
  · obtain ⟨field, hkept, rfl⟩ := List.mem_map.mp hcolumn
    have hfield := (List.mem_filter.mp hkept).1
    cases hvalue : request.value with
    | none =>
      rw [hvalue] at hfield
      cases hfield
    | some value =>
      rw [hvalue] at hfield
      exact .valueField hvalue hfield

end TableLayout
