import TableLayout.Proofs.Key.Flatten
import TableLayout.Proofs.Key.Inputs
import TableLayout.Proofs.Key.Struct
import TableLayout.Proofs.Resolve.Steps

/-!
# A new field of the record's value

The value of a record may get a further field, with a name that neither a field nor a key column
has. The key stays as it is then. Only a key of all fields would take the new one up, so some names
have to be configured where the key comes from the record's value.

- `Schema.extended`: a struct with one more field. What is found under a name in the struct itself
  is found there too.
- `Key.derive_extended`: the same key is derived.
- `Resolve.remaining_extended`: the new field comes last of the remaining columns, if it passes the
  whitelist.
- `Resolve.new_field_leaves_key`: what this makes of the layout.
-/

namespace TableLayout

/-! ## Structs with one more field -/

namespace Schema

/-- A struct with one more field, at the end. -/
def extended (schema : Schema) (field : Field) : Schema :=
  { schema with fields := schema.fields ++ [field] }

variable {schema : Schema} {name : String} {found : Field}

/-- A field that was found before is found again. -/
theorem field?_extended (field : Field) (h : schema.field? name = some found) :
    (schema.extended field).field? name = some found := by
  have hfirst : schema.fields.find? (fun field => field.name == name) = some found := h
  show (schema.fields ++ [field]).find? (fun field => field.name == name) = some found
  rw [List.find?_append, hfirst, Option.some_or]

theorem mem_fieldNames_extended (field : Field) (h : name ∈ schema.fieldNames) :
    name ∈ (schema.extended field).fieldNames := by
  obtain ⟨found, hfound⟩ := exists_field?_iff.mpr h
  exact exists_field?_iff.mp ⟨found, field?_extended field hfound⟩

end Schema

/-! ## Keys -/

variable {request : KeyRequest} {value : Schema} {key : KeyColumns}

theorem KeyColumns.IsField.extended {schema : Schema} {name : String} {column : Column}
    (field : Field) (h : IsField schema name column) :
    IsField (schema.extended field) name column := by
  obtain ⟨found, hfound, hcolumn⟩ := h
  exact ⟨found, Schema.field?_extended field hfound, hcolumn⟩

/-- The chosen fields are still there. -/
theorem KeyColumns.OfFields.extended {schema : Schema} {names : List String} (field : Field)
    (h : OfFields schema names key) : OfFields (schema.extended field) names key where
  columns := h.columns.imp fun _ _ hfield => hfield.extended field
  plain := h.plain

/-- The headers name the same fields as before. -/
theorem Flatten.NamedByValue.extended (field : Field) (h : NamedByValue request value key) :
    NamedByValue (request.withValue (some (value.extended field))) (value.extended field) key := by
  obtain ⟨⟨names, hnames, hcolumns⟩, hsourced⟩ := h
  exact ⟨⟨names, hnames, hcolumns.imp fun _ _ hfield => hfield.extended field⟩, hsourced⟩

/-- A new field of the record's value leaves the key alone, unless that takes all fields. -/
theorem Key.derive_extended {mode : KeyMode} (field : Field) (hvalue : request.value = some value)
    (hconfigured : mode = .recordValue → request.configured ≠ [])
    (h : Key.derive mode request = .ok key) :
    Key.derive mode (request.withValue (some (value.extended field))) = .ok key := by
  have hvalue' : (request.withValue (some (value.extended field))).value =
      some (value.extended field) := rfl
  cases mode with
  | none => exact h
  | kafka =>
    have hsame : coordinates (request.withValue (some (value.extended field))) =
        coordinates request := coordinates_congr rfl rfl
    exact hsame.trans h
  | recordKey =>
    have hsame : ofKey (request.withValue (some (value.extended field))) = ofKey request :=
      ofKey_congr rfl rfl rfl
    exact hsame.trans h
  -- All fields would be taken if no names were configured, the new one among them.
  | recordValue =>
    obtain ⟨_, hfound, hdeclared, hcolumns⟩ := ofValue_eq_ok_iff.mp h
    obtain rfl := Option.some.inj (hvalue.symm.trans hfound)
    have hchosen : ∀ schema, KeyColumns.chosen request.configured schema = request.configured :=
      fun _ => if_neg (hconfigured rfl)
    rw [hchosen] at hcolumns
    refine ofValue_eq_ok_iff.mpr ⟨_, hvalue', ?_, ?_⟩
    · exact fun name hname => Schema.mem_fieldNames_extended field (hdeclared name hname)
    · exact (hchosen _).symm ▸ hcolumns.extended field
  -- Headers find the fields that they found before, and more fields do no harm.
  | flatten =>
    rw [Flatten.derive_eq_ok_iff_namedByValue hvalue] at h
    rw [Flatten.derive_eq_ok_iff_namedByValue hvalue']
    exact ⟨h.1, h.2.extended field⟩

/-! ## Layouts -/

namespace Resolve

variable {given : Datum} {mode : KeyMode} {whitelist : List String} {layout : Layout}
  {field : Field}

/-- The new field comes last of the remaining columns, if it passes. -/
theorem remaining_extended (hvalue : request.value = some value) (hother : field.name ∉ key.names) :
    remaining mode whitelist (request.withValue (some (value.extended field))) key =
      remaining mode whitelist request key ++
        if Passes mode whitelist field.name then [⟨field.name, field.schema, false⟩] else [] := by
  show List.map _ (List.filter _ (value.fields ++ [field])) = _
  rw [remaining, hvalue, List.filter_append, List.map_append]
  refine congrArg _ ?_
  by_cases hpasses : Passes mode whitelist field.name
  · simp [hother, hpasses]
  · simp [hpasses]

/-- A key leads to a layout with the new field too, for no other column has its name. -/
theorem LeadsTo.extended (h : LeadsTo mode whitelist request key layout)
    (hvalue : request.value = some value) (hnew : field.name ∉ value.fieldNames)
    (hother : field.name ∉ key.names)
    (hconfigured : mode = .recordValue → request.configured ≠ []) :
    ∃ layout',
      LeadsTo mode whitelist (request.withValue (some (value.extended field))) key layout' := by
  have hremaining := @remaining_extended _ _ _ mode whitelist _ hvalue hother
  have hfresh : field.name ∉ allNames key (remaining mode whitelist request key) := by
    rw [allNames, List.mem_append, mem_names_remaining_iff]
    -- A column with the name of the new field would be one of the key, or a field that was there.
    rintro (hname | ⟨⟨_, hfound, hname⟩, -⟩)
    · exact hother hname
    · obtain rfl := Option.some.inj (hvalue.symm.trans hfound)
      exact hnew hname
  refine exists_leadsTo (Key.derive_extended field hvalue hconfigured h.derives) ?_ ?_ ?_
  · rintro _ ⟨⟩
    exact h.struct value hvalue
  · rw [hremaining, ← List.append_assoc]
    exact List.append_ne_nil_of_left_ne_nil h.nonempty _
  · rw [hremaining, allNames, List.map_append, ← List.append_assoc]
    split
    · have happended := (List.nodup_concat _ _).mpr ⟨hfresh, h.distinct⟩
      rw [List.concat_eq_append] at happended
      exact happended
    · rw [List.map_nil, List.append_nil]
      exact h.distinct

/-- A new field of the record's value, of a name that neither a field nor a key column has, leaves
the key as it is. It comes last of the other columns, unless a whitelist keeps it out. -/
theorem new_field_leaves_key (h : (resolve given whitelist request).outcome = .ok layout)
    (hvalue : request.value = some value) (hnew : field.name ∉ value.fieldNames)
    (hother : field.name ∉ layout.keyNames)
    (hconfigured : given = .text KeyMode.recordValue.text → request.configured ≠ []) :
    ∃ mode layout', given = .text mode.text ∧
      (resolve given whitelist (request.withValue (some (value.extended field)))).outcome =
        .ok layout' ∧
      layout'.keyColumns = layout.keyColumns ∧ layout'.keySourced = layout.keySourced ∧
      layout'.otherColumns = layout.otherColumns ++
        if Passes mode whitelist field.name then [⟨field.name, field.schema, false⟩] else [] := by
  obtain ⟨mode, key, rfl, hleads⟩ := outcome_eq_ok_iff_leadsTo.mp h
  have hjoins := hleads.joins
  rw [hjoins.keyNames] at hother
  obtain ⟨layout', hleads'⟩ := hleads.extended hvalue hnew hother fun hmode =>
    hconfigured (congrArg (fun mode => Datum.text mode.text) hmode)
  have hjoins' := hleads'.joins
  refine ⟨mode, layout', rfl, outcome_text_eq_ok_iff.mpr ⟨key, hleads'⟩, ?_, ?_, ?_⟩
  · rw [hjoins'.keyColumns_eq, hjoins.keyColumns_eq]
  · rw [hjoins'.keySourced, hjoins.keySourced]
  · rw [hjoins'.otherColumns_eq, hjoins.otherColumns_eq, remaining_extended hvalue hother]

/-- A struct of two fields. -/
def keyedValue : Schema :=
  { Schema.ofType .struct false with
    fields := Schema.numbered [("id", .ofType .int32 false), ("note", .ofType .string true)] }

/-- A record with the first of them as its key. -/
def keyedRequest : KeyRequest where
  table := "orders"
  value := some keyedValue
  configured := ["id"]

/-- A field that the record does not have. -/
def addedField : Field :=
  ⟨"at", 2, .ofType .int64 true⟩

theorem keyedRequest_extended :
    addedField.name ∉ keyedValue.fieldNames ∧ keyedRequest.configured ≠ [] ∧
      ∃ layout layout', (resolve (.text "record_value") [] keyedRequest).outcome = .ok layout ∧
        addedField.name ∉ layout.keyNames ∧
        (resolve (.text "record_value") []
          (keyedRequest.withValue (some (keyedValue.extended addedField)))).outcome = .ok layout' ∧
        layout'.keyColumns = layout.keyColumns ∧
        layout'.otherColumns.map Column.name = ["note", "at"] := by
  have hnew : addedField.name ∉ keyedValue.fieldNames := by decide
  have hconfigured : keyedRequest.configured ≠ [] := List.cons_ne_nil _ _
  obtain ⟨layout, hlayout, hkeyNames, hothers⟩ :
      ∃ layout, (resolve (.text "record_value") [] keyedRequest).outcome = .ok layout ∧
        layout.keyNames = ["id"] ∧ layout.otherColumns.map Column.name = ["note"] :=
    ⟨_, rfl, rfl, rfl⟩
  have hother : addedField.name ∉ layout.keyNames := by
    rw [hkeyNames]
    decide
  obtain ⟨mode, layout', -, hlayout', hkey, -, hcolumns⟩ :=
    new_field_leaves_key hlayout rfl hnew hother fun _ => hconfigured
  have hpasses : Passes mode [] addedField.name := .inr (.inl rfl)
  rw [if_pos hpasses] at hcolumns
  refine ⟨hnew, hconfigured, layout, layout', hlayout, hother, hlayout', hkey, ?_⟩
  rw [hcolumns, List.map_append, hothers]
  rfl

end Resolve

end TableLayout
