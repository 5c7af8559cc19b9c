import TableLayout.Proofs.Key.Lawful

/-!
# Keys from the fields of a struct

The configured names choose fields of a struct, or all fields are chosen if no name is configured.

- `KeyColumns.chosen`: the names that are chosen.
- `KeyColumns.OfFields`: the key columns that hold the fields of these names.
- `KeyColumns.ofStruct_eq_ok_iff`: a key is derived exactly if every configured name is that of a
  field, and it holds the chosen ones.
- `Key.ofKey_eq_ok_iff`, `Key.ofValue_eq_ok_iff`: the same for the record's key, which may also be a
  single value under the one configured name, and for its value.
-/

namespace TableLayout

namespace KeyColumns

/-- The names of the fields that make up a key. -/
def chosen (configured : List String) (schema : Schema) : List String :=
  if configured = [] then schema.fieldNames else configured

/-- The key columns hold the fields of a struct that have these names, each in its first place. -/
structure OfFields (schema : Schema) (names : List String) (key : KeyColumns) : Prop where
  columns : List.Forall₂ (IsField schema) names.eraseDups key.columns
  plain : key.keySourced = none

variable {request : KeyRequest} {mode : KeyMode} {payload : Payload} {schema : Schema}
  {names : List String} {key : KeyColumns}

theorem OfFields.names_eq (h : OfFields schema names key) : key.names = names.eraseDups :=
  names_of_isField h.columns

/-- Columns that hold fields make up a key without fail, so what matters is whether there are such
fields. -/
theorem make_ofNames_eq_ok_iff :
    (ofNames schema names >>= fun columns => make columns none) = .ok key ↔
      OfFields schema names key := by
  rw [bind_eq_ok_iff]
  constructor
  · rintro ⟨columns, hcolumns, h⟩
    have hfields := ofNames_eq_ok_iff.mp hcolumns
    rw [make_of_isField hfields] at h
    obtain rfl := Except.ok.inj h
    exact ⟨hfields, rfl⟩
  · rintro ⟨hfields, hplain⟩
    refine ⟨key.columns, ofNames_eq_ok_iff.mpr hfields, ?_⟩
    rw [make_of_isField hfields, ← hplain]

/-- Names of fields make up a key. -/
theorem exists_make_ofNames (h : ∀ name ∈ names, name ∈ schema.fieldNames) :
    ∃ key, (ofNames schema names >>= fun columns => make columns none) = .ok key := by
  obtain ⟨columns, hcolumns⟩ := exists_ofNames h
  have hfields : OfFields schema names ⟨columns, none⟩ := ⟨hcolumns, rfl⟩
  exact ⟨_, make_ofNames_eq_ok_iff.mpr hfields⟩

/-- A key is derived exactly if every configured name is that of a field, and it holds the chosen
fields. -/
theorem ofStruct_eq_ok_iff :
    ofStruct request mode payload schema = .ok key ↔
      (∀ name ∈ request.configured, name ∈ schema.fieldNames) ∧
        OfFields schema (chosen request.configured schema) key := by
  unfold ofStruct chosen
  by_cases hnone : request.configured = []
  · rw [if_pos (List.isEmpty_iff.mpr hnone), if_pos hnone, make_ofNames_eq_ok_iff, hnone]
    simp
  · rw [if_neg (mt List.isEmpty_iff.mp hnone), if_neg hnone, bind_eq_ok_iff]
    constructor
    · rintro ⟨_, hrequire, hmake⟩
      exact ⟨requireFields_eq_ok_iff.mp hrequire, make_ofNames_eq_ok_iff.mp hmake⟩
    · rintro ⟨hnames, hkey⟩
      exact ⟨(), requireFields_eq_ok_iff.mpr hnames, make_ofNames_eq_ok_iff.mpr hkey⟩

end KeyColumns

namespace Key

open KeyColumns (OfFields chosen)

variable {request : KeyRequest} {columns : KeyColumns}

/-- The key columns that are read from the record's key under the configured names. -/
inductive TakenFromKey (request : KeyRequest) (key : Schema) : KeyColumns → Prop where
  /-- The record's key is a single value, and the only configured name is that of its column. -/
  | single {name : String} (hprimitive : key.type.isPrimitive = true)
      (hconfigured : request.configured = [name]) :
      TakenFromKey request key ⟨[⟨name, key, true⟩], none⟩
  /-- The record's key is a struct, and the configured names are those of fields. -/
  | fields {columns : KeyColumns} (hstruct : key.type = .struct)
      (hconfigured : ∀ name ∈ request.configured, name ∈ key.fieldNames)
      (hcolumns : OfFields key (chosen request.configured key) columns) :
      TakenFromKey request key columns

section Shapes

variable {key : Schema} (hkey : request.key = some key)
include hkey

/-- A single value needs one configured name. -/
theorem ofKey_eq_ok_iff_of_primitive (hprimitive : key.type.isPrimitive = true) :
    ofKey request = .ok columns ↔
      ∃ name, request.configured = [name] ∧ columns = ⟨[⟨name, key, true⟩], none⟩ := by
  rw [ofKey, hkey]
  simp only [hprimitive, if_true]
  split
  · next name hconfigured =>
    constructor
    · intro h
      exact ⟨name, hconfigured, (Except.ok.inj h).symm⟩
    · rintro ⟨name', hconfigured', rfl⟩
      obtain rfl := List.singleton_inj.mp (hconfigured.symm.trans hconfigured')
      rfl
  · next hmany => exact ⟨nofun, fun ⟨name, h, _⟩ => absurd h (hmany name)⟩

theorem ofKey_eq_ofStruct (hstruct : key.type = .struct) :
    ofKey request = KeyColumns.ofStruct request .recordKey .key key := by
  rw [ofKey, hkey]
  simp only [Schema.isStruct, hstruct]
  rfl

/-- A list or a map makes up no key. -/
theorem ofKey_ne_ok (hprimitive : key.type.isPrimitive = false) (hstruct : key.type ≠ .struct) :
    ofKey request ≠ .ok columns := by
  rw [ofKey, hkey]
  simp [Schema.isStruct, hprimitive, hstruct, KeyRequest.reject]

theorem ofKey_eq_ok_iff_of_key :
    ofKey request = .ok columns ↔ TakenFromKey request key columns := by
  -- A struct is not primitive, so at most one of the two forms is possible for a key.
  by_cases hstruct : key.type = .struct
  · rw [ofKey_eq_ofStruct hkey hstruct, KeyColumns.ofStruct_eq_ok_iff]
    constructor
    · rintro ⟨hconfigured, hcolumns⟩
      exact .fields hstruct hconfigured hcolumns
    · intro h
      cases h with
      | single hprimitive => rw [hstruct] at hprimitive; cases hprimitive
      | fields _ hconfigured hcolumns => exact ⟨hconfigured, hcolumns⟩
  cases hprimitive : key.type.isPrimitive with
  | true =>
    rw [ofKey_eq_ok_iff_of_primitive hkey hprimitive]
    constructor
    · rintro ⟨name, hconfigured, rfl⟩
      exact .single hprimitive hconfigured
    · intro h
      cases h with
      | @single name _ hconfigured => exact ⟨name, hconfigured, rfl⟩
      | fields h => exact absurd h hstruct
  | false =>
    refine iff_of_false (ofKey_ne_ok hkey hprimitive hstruct) fun h => ?_
    cases h with
    | single h => rw [hprimitive] at h; cases h
    | fields h => exact hstruct h

end Shapes

/-- The key is taken from the record's key. -/
theorem ofKey_eq_ok_iff :
    ofKey request = .ok columns ↔
      ∃ key, request.key = some key ∧ TakenFromKey request key columns := by
  cases hkey : request.key with
  | none =>
    rw [ofKey, hkey]
    exact ⟨nofun, fun ⟨_, h, _⟩ => nomatch h⟩
  | some key =>
    rw [ofKey_eq_ok_iff_of_key hkey]
    simp

/-- The key is taken from the fields of the record's value. -/
theorem ofValue_eq_ok_iff :
    ofValue request = .ok columns ↔
      ∃ value, request.value = some value ∧
        (∀ name ∈ request.configured, name ∈ value.fieldNames) ∧
        OfFields value (chosen request.configured value) columns := by
  unfold ofValue
  cases hvalue : request.value with
  | none => exact ⟨nofun, fun ⟨_, h, _⟩ => nomatch h⟩
  | some value =>
    simp only [Option.some.injEq, exists_eq_left']
    exact KeyColumns.ofStruct_eq_ok_iff

end Key

end TableLayout
