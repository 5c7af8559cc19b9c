import TableLayout.Proofs.Key.Inputs
import TableLayout.Proofs.Key.Struct

/-!
# Keys with configured names

A key that was derived under usual names, from all fields or from repeated names is derived again if
its own names are configured.

- `Key.derive_pin`: the key of a record is the key of the same record with the names of the key
  configured, under every mode.
-/

namespace TableLayout

/-- The record with these names of key columns configured. -/
def KeyRequest.pin (request : KeyRequest) (names : List String) : KeyRequest :=
  { request with configured := names }

variable {request : KeyRequest} {key : KeyColumns}

/-! ## Fields of a struct -/

namespace KeyColumns

/-- The names of the chosen fields choose the same fields again. -/
theorem eraseDups_chosen (configured : List String) (schema : Schema) :
    (chosen (chosen configured schema).eraseDups schema).eraseDups =
      (chosen configured schema).eraseDups := by
  by_cases hnone : (chosen configured schema).eraseDups = []
  · -- No field is chosen, so all fields were and there are none.
    have hchosen : chosen configured schema = [] := by
      rw [List.eq_nil_iff_forall_not_mem] at hnone ⊢
      exact fun name hname => hnone name (List.mem_eraseDups.mpr hname)
    have hfields : schema.fieldNames = [] := by
      unfold chosen at hchosen
      split at hchosen
      · exact hchosen
      · next h => exact absurd hchosen h
    rw [hnone, chosen, if_pos rfl, hfields]
    rfl
  · rw [chosen, if_neg hnone, eraseDups_of_nodup (nodup_eraseDups _)]

/-- A key of chosen fields is chosen by its own names. -/
theorem OfFields.chosen_names {configured : List String} {schema : Schema}
    (h : OfFields schema (chosen configured schema) key) :
    OfFields schema (chosen key.names schema) key := by
  refine ⟨?_, h.plain⟩
  rw [h.names_eq, eraseDups_chosen]
  exact h.columns

/-- Its names are those of fields. -/
theorem OfFields.mem_fieldNames {names : List String} {schema : Schema}
    (h : OfFields schema names key) : ∀ name ∈ key.names, name ∈ schema.fieldNames := by
  intro name hname
  rw [h.names_eq] at hname
  obtain ⟨column, -, hfield⟩ := exists_of_forall₂ h.columns name hname
  exact exists_isField_iff.mp ⟨column, hfield⟩

end KeyColumns

/-! ## Coordinates -/

namespace Key

/-- The columns for three coordinates have the three names in their order. -/
theorem names_coordinates {names : List String} (hlength : names.length = 3) :
    (names.zipWith coordinate coordinateTypes).map Column.name = names := by
  obtain ⟨topic, partition, offset, rfl⟩ := List.length_eq_three.mp hlength
  rfl

/-- Three distinct names make up a key of coordinates. -/
theorem coordinates_eq_of_names {names : List String} (h : coordinateNames request = .ok names)
    (hlength : names.length = 3) (hdistinct : names.Nodup) :
    coordinates request = .ok ⟨names.zipWith coordinate coordinateTypes, none⟩ := by
  rw [coordinates, h]
  exact KeyColumns.make_of_nodup ((names_coordinates hlength).symm ▸ hdistinct)

/-- Usual names of coordinates may as well be configured. -/
theorem coordinates_pin (h : coordinates request = .ok key) :
    coordinates (request.pin key.names) = .ok key := by
  obtain ⟨names, hnames, -⟩ := bind_eq_ok_iff.mp h
  obtain ⟨hlength, hdistinct⟩ : names.length = 3 ∧ names.Nodup := by
    have hsettles := coordinateNames_settles request
    rw [hnames] at hsettles
    exact hsettles.of_ok
  rw [coordinates_eq_of_names hnames hlength hdistinct] at h
  obtain rfl := Except.ok.inj h
  have hkeyNames : KeyColumns.names ⟨names.zipWith coordinate coordinateTypes, none⟩ = names :=
    names_coordinates hlength
  rw [hkeyNames]
  -- Three distinct names are taken as they are.
  have hpinned : coordinateNames (request.pin names) = .ok names := by
    have hnonempty : names ≠ [] := by
      rintro rfl
      cases hlength
    rw [coordinateNames]
    show (if names.isEmpty then _ else if names.length = 3 ∧ names.Nodup then _ else _) = _
    rw [if_neg (mt List.isEmpty_iff.mp hnonempty), if_pos ⟨hlength, hdistinct⟩]
    rfl
  exact coordinates_eq_of_names hpinned hlength hdistinct

/-! ## The modes -/

/-- The name of a single value, or the names of the chosen fields, may as well be configured. -/
theorem ofKey_pin (h : ofKey request = .ok key) : ofKey (request.pin key.names) = .ok key := by
  obtain ⟨schema, hschema, htaken⟩ := ofKey_eq_ok_iff.mp h
  refine ofKey_eq_ok_iff.mpr ⟨schema, hschema, ?_⟩
  -- A single value has one column, so its name is the one that is configured.
  cases htaken with
  | single hprimitive _ => exact .single hprimitive rfl
  | fields hstruct _ hcolumns =>
    exact .fields hstruct hcolumns.mem_fieldNames hcolumns.chosen_names

theorem ofValue_pin (h : ofValue request = .ok key) :
    ofValue (request.pin key.names) = .ok key := by
  obtain ⟨value, hvalue, -, hcolumns⟩ := ofValue_eq_ok_iff.mp h
  exact ofValue_eq_ok_iff.mpr ⟨value, hvalue, hcolumns.mem_fieldNames, hcolumns.chosen_names⟩

/-- A key is derived again if its own names are configured. -/
theorem derive_pin {mode : KeyMode} (h : derive mode request = .ok key) :
    derive mode (request.pin key.names) = .ok key := by
  cases mode with
  | none => exact h
  | kafka => exact coordinates_pin h
  | recordKey => exact ofKey_pin h
  | recordValue => exact ofValue_pin h
  | flatten =>
    have hsame : Flatten.derive (request.pin key.names) = Flatten.derive request :=
      Flatten.derive_congr rfl rfl rfl rfl rfl fun _ => ⟨rfl, rfl⟩
    exact hsame.trans h

end Key

end TableLayout
