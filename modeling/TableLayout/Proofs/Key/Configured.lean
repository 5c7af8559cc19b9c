import TableLayout.Proofs.Key.Struct
import TableLayout.Proofs.Schema.Lawful

/-!
# How the derivation of a key from configured names ends

Two modes take the columns of a key from the fields of a struct, one from the record's key and one
from its value. The configured names choose among the fields, and all of them make up the key if no
name is configured.

- `Field.keyColumn`: a field as a column of the key. `KeyRequest.lacking`: the rejection for a
  configured name that no field has.
- `KeyColumns.FieldsOutcome`: how a key of configured fields comes out, and
  `KeyColumns.ofStruct_eq_iff`: it comes out so and in no other way.
- `Key.RecordKeyOutcome`: how the key from the record's key comes out, which may also be a single
  value.
- `Key.derive_recordKey_iff`: a key is derived from the record's key exactly if the configured names
  fit it, and the derivation ends as described.
-/

namespace TableLayout

/-- A field as a column of the key. -/
def Field.keyColumn (field : Field) : Column :=
  ⟨field.name, field.schema, true⟩

/-- The rejection of a record for a configured name that no field of a struct has. -/
def KeyRequest.lacking (request : KeyRequest) (mode : KeyMode) (payload : Payload)
    (schema : Schema) (name : String) : Rejection :=
  ⟨request.table,
    .missingField mode payload name (Text.listed request.configured) schema.fieldNames⟩

namespace KeyColumns

/-- How a key of the configured fields of a struct comes out. -/
inductive FieldsOutcome (request : KeyRequest) (mode : KeyMode) (payload : Payload)
    (schema : Schema) : Except Failure KeyColumns → Prop where
  /-- A configured name is that of no field, and it is the earliest one. -/
  | missing {before after : List String} {name : String}
      (hsplit : request.configured = before ++ name :: after)
      (hbefore : ∀ earlier ∈ before, earlier ∈ schema.fieldNames)
      (hnot : name ∉ schema.fieldNames) :
      FieldsOutcome request mode payload schema
        (.error (.rejected (request.lacking mode payload schema name)))
  /-- No name is configured, and the key holds all fields in declared order. -/
  | all (hnone : request.configured = []) :
      FieldsOutcome request mode payload schema (.ok ⟨schema.fields.map Field.keyColumn, none⟩)
  /-- The configured names are those of fields, each of which has its column where it is first
  named. -/
  | chosen {columns : List Column} (hsome : request.configured ≠ [])
      (hdeclared : ∀ name ∈ request.configured, name ∈ schema.fieldNames)
      (hnames : columns.map Column.name = request.configured.eraseDups)
      (hfields : ∀ column ∈ columns, ∃ field ∈ schema.fields, column = field.keyColumn) :
      FieldsOutcome request mode payload schema (.ok ⟨columns, none⟩)

variable {request : KeyRequest} {mode : KeyMode} {payload : Payload} {schema : Schema}
  {names : List String} {columns : List Column} {failure : Failure}

/-! ## Columns of fields -/

/-- Columns hold the fields of given names exactly if these are their names and each of them holds
the field of its own name. -/
theorem forall₂_isField_iff :
    List.Forall₂ (IsField schema) names columns ↔
      columns.map Column.name = names ∧
        ∀ column ∈ columns, IsField schema column.name column := by
  constructor
  · intro h
    refine ⟨names_of_isField h, ?_⟩
    induction h with
    | nil => exact fun column hcolumn => absurd hcolumn List.not_mem_nil
    | cons hfield _ ih =>
      obtain ⟨field, hfound, rfl⟩ := hfield
      exact List.forall_mem_cons.mpr ⟨⟨field, hfound, rfl⟩, ih⟩
  · rintro ⟨rfl, h⟩
    induction columns with
    | nil => exact .nil
    | cons column columns ih =>
      obtain ⟨hcolumn, hrest⟩ := List.forall_mem_cons.mp h
      exact .cons hcolumn (ih hrest)

section Distinct

variable (hdistinct : schema.fieldNames.Nodup)
include hdistinct

/-- Where no two fields have one name, a column holds the field of its own name exactly if it is
made from a field. -/
theorem isField_name_iff {column : Column} :
    IsField schema column.name column ↔ ∃ field ∈ schema.fields, column = field.keyColumn := by
  constructor
  · rintro ⟨field, hfound, hcolumn⟩
    obtain ⟨hfield, hname⟩ := (Schema.field?_eq_some_iff hdistinct).mp hfound
    refine ⟨field, hfield, ?_⟩
    rw [hcolumn, Field.keyColumn, hname]
  · rintro ⟨field, hfield, rfl⟩
    exact ⟨field, (Schema.field?_eq_some_iff hdistinct).mpr ⟨hfield, rfl⟩, rfl⟩

/-- Columns hold the fields of given names exactly if they have these names, each once, and are made
from fields. -/
theorem ofFields_iff :
    OfFields schema names ⟨columns, none⟩ ↔
      columns.map Column.name = names.eraseDups ∧
        ∀ column ∈ columns, ∃ field ∈ schema.fields, column = field.keyColumn := by
  have hcolumns : List.Forall₂ (IsField schema) names.eraseDups columns ↔
      columns.map Column.name = names.eraseDups ∧
        ∀ column ∈ columns, ∃ field ∈ schema.fields, column = field.keyColumn := by
    rw [forall₂_isField_iff]
    simp only [isField_name_iff hdistinct]
  rw [← hcolumns]
  exact ⟨fun h => h.columns, fun h => ⟨h, rfl⟩⟩

/-- All fields, in declared order, are those of the declared names. -/
theorem ofFields_fieldNames :
    OfFields schema schema.fieldNames ⟨schema.fields.map Field.keyColumn, none⟩ := by
  refine (ofFields_iff hdistinct).mpr ⟨?_, fun column hcolumn => ?_⟩
  · rw [eraseDups_of_nodup hdistinct, List.map_map]
    rfl
  · obtain ⟨field, hfield, rfl⟩ := List.mem_map.mp hcolumn
    exact ⟨field, hfield, rfl⟩

end Distinct

/-! ## Keys of configured fields -/

/-- The earliest configured name that no field has is the one that is said to be missing. -/
theorem requireFields_eq_error_iff :
    requireFields request mode payload schema request.configured = .error failure ↔
      ∃ before name after, request.configured = before ++ name :: after ∧
        (∀ earlier ∈ before, earlier ∈ schema.fieldNames) ∧ name ∉ schema.fieldNames ∧
        failure = .rejected (request.lacking mode payload schema name) := by
  have hsearch : ∀ name,
      request.configured.find? (fun name => (schema.field? name).isNone) = some name ↔
        name ∉ schema.fieldNames ∧ ∃ before after, request.configured = before ++ name :: after ∧
          ∀ earlier ∈ before, earlier ∈ schema.fieldNames := by
    intro name
    rw [List.find?_eq_some_iff_append]
    simp [← Schema.field?_isSome_iff]
  unfold requireFields
  constructor
  · intro h
    split at h
    · next name hfound =>
      obtain ⟨hnot, before, after, hsplit, hbefore⟩ := (hsearch name).mp hfound
      exact ⟨before, name, after, hsplit, hbefore, hnot, (Except.error.inj h).symm⟩
    · cases h
  · rintro ⟨before, name, after, hsplit, hbefore, hnot, rfl⟩
    rw [(hsearch name).mpr ⟨hnot, before, after, hsplit, hbefore⟩]
    rfl

/-- Only a missing field stands in the way of a key. -/
theorem ofStruct_eq_error_iff :
    ofStruct request mode payload schema = .error failure ↔
      ∃ before name after, request.configured = before ++ name :: after ∧
        (∀ earlier ∈ before, earlier ∈ schema.fieldNames) ∧ name ∉ schema.fieldNames ∧
        failure = .rejected (request.lacking mode payload schema name) := by
  unfold ofStruct
  by_cases hnone : request.configured = []
  · rw [if_pos (List.isEmpty_iff.mpr hnone)]
    have hall : ∀ name ∈ schema.fieldNames, name ∈ schema.fieldNames := fun _ hname => hname
    obtain ⟨key, hkey⟩ := exists_make_ofNames hall
    rw [hkey, hnone]
    simp
  · rw [if_neg (mt List.isEmpty_iff.mp hnone), bind_eq_error_iff, requireFields_eq_error_iff]
    constructor
    · rintro (hmissing | ⟨_, hrequired, hmake⟩)
      · exact hmissing
      · obtain ⟨key, hkey⟩ := exists_make_ofNames (requireFields_eq_ok_iff.mp hrequired)
        cases hkey.symm.trans hmake
    · exact .inl

/-- A key of configured fields comes out as described, and in no other way. -/
theorem ofStruct_eq_iff (hdistinct : schema.fieldNames.Nodup)
    {outcome : Except Failure KeyColumns} :
    ofStruct request mode payload schema = outcome ↔
      FieldsOutcome request mode payload schema outcome := by
  -- Without configured names there is one outcome: all fields, in declared order.
  have hall : request.configured = [] →
      ofStruct request mode payload schema = .ok ⟨schema.fields.map Field.keyColumn, none⟩ := by
    intro hnone
    refine ofStruct_eq_ok_iff.mpr ⟨?_, ?_⟩
    · rw [hnone]
      exact fun name hname => absurd hname List.not_mem_nil
    · rw [chosen, if_pos hnone]
      exact ofFields_fieldNames hdistinct
  constructor
  -- Whether it is a key or a rejection, what is known of it is turned into a case.
  · intro h
    cases outcome with
    | ok key =>
      by_cases hnone : request.configured = []
      · obtain rfl := Except.ok.inj ((hall hnone).symm.trans h)
        exact .all hnone
      · obtain ⟨hdeclared, hkey⟩ := ofStruct_eq_ok_iff.mp h
        rw [chosen, if_neg hnone] at hkey
        obtain ⟨columns, sourced⟩ := key
        obtain rfl : sourced = none := hkey.plain
        obtain ⟨hnames, hfields⟩ := (ofFields_iff hdistinct).mp hkey
        exact .chosen hnone hdeclared hnames hfields
    | error failure =>
      obtain ⟨before, name, after, hsplit, hbefore, hnot, rfl⟩ := ofStruct_eq_error_iff.mp h
      exact .missing hsplit hbefore hnot
  · intro h
    cases h with
    | missing hsplit hbefore hnot =>
      exact ofStruct_eq_error_iff.mpr ⟨_, _, _, hsplit, hbefore, hnot, rfl⟩
    | all hnone => exact hall hnone
    | chosen hsome hdeclared hnames hfields =>
      refine ofStruct_eq_ok_iff.mpr ⟨hdeclared, ?_⟩
      rw [chosen, if_neg hsome]
      exact (ofFields_iff hdistinct).mpr ⟨hnames, hfields⟩

end KeyColumns

/-! ## The key from the record's key -/

namespace Key

open KeyColumns (FieldsOutcome)

/-- How the key from the record's key comes out. -/
inductive RecordKeyOutcome (request : KeyRequest) : Except Failure KeyColumns → Prop where
  /-- The record has no key. -/
  | absent (hkey : request.key = none) :
      RecordKeyOutcome request
        (.error (.rejected ⟨request.table, .missingPayload .recordKey .key⟩))
  /-- The key is a list or a map. -/
  | shape {key : Schema} (hkey : request.key = some key)
      (hshape : key.type = .array ∨ key.type = .map) :
      RecordKeyOutcome request (.error (.rejected ⟨request.table, .keyShape .recordKey key.type⟩))
  /-- The key is a single value, but there is not one configured name. -/
  | count {key : Schema} (hkey : request.key = some key) (hprimitive : key.type.isPrimitive = true)
      (hcount : request.configured.length ≠ 1) :
      RecordKeyOutcome request
        (.error (.rejected ⟨request.table, .keyColumnCount key.type request.configured⟩))
  /-- The key is a single value, in the column of the only configured name. -/
  | single {key : Schema} {name : String} (hkey : request.key = some key)
      (hprimitive : key.type.isPrimitive = true) (hconfigured : request.configured = [name]) :
      RecordKeyOutcome request (.ok ⟨[⟨name, key, true⟩], none⟩)
  /-- The key is a struct, and the configured names choose among its fields. -/
  | fields {key : Schema} {outcome : Except Failure KeyColumns} (hkey : request.key = some key)
      (hstruct : key.type = .struct)
      (houtcome : FieldsOutcome request .recordKey .key key outcome) :
      RecordKeyOutcome request outcome

/-- The configured names are such that the record's key can have its columns under them. -/
def NamesFit (configured : List String) (key : Schema) : Prop :=
  key.type.isPrimitive = true ∧ configured.length = 1 ∨
    key.type = .struct ∧ ∀ name ∈ configured, name ∈ key.fieldNames

variable {request : KeyRequest}

section Shapes

variable {key : Schema} (hkey : request.key = some key)
include hkey

/-- A list or a map is rejected by its type. -/
theorem ofKey_eq_of_shape (hshape : key.type = .array ∨ key.type = .map) :
    ofKey request = request.reject (.keyShape .recordKey key.type) := by
  rw [ofKey, hkey]
  rcases hshape with h | h <;> simp [h, ValueType.isPrimitive, Schema.isStruct]

/-- A single value is rejected for any number of names but one. -/
theorem ofKey_eq_of_count (hprimitive : key.type.isPrimitive = true)
    (hcount : request.configured.length ≠ 1) :
    ofKey request = request.reject (.keyColumnCount key.type request.configured) := by
  rw [ofKey, hkey]
  simp only [hprimitive, if_true]
  split
  · next name hconfigured => exact absurd (by rw [hconfigured]; rfl) hcount
  · rfl

theorem recordKeyOutcome_of_primitive (hprimitive : key.type.isPrimitive = true) :
    RecordKeyOutcome request (ofKey request) := by
  by_cases hcount : request.configured.length = 1
  · obtain ⟨name, hconfigured⟩ := List.length_eq_one_iff.mp hcount
    rw [(ofKey_eq_ok_iff_of_primitive hkey hprimitive).mpr ⟨name, hconfigured, rfl⟩]
    exact .single hkey hprimitive hconfigured
  · rw [ofKey_eq_of_count hkey hprimitive hcount]
    exact .count hkey hprimitive hcount

end Shapes

section Derivation

variable (hchecked : ∀ key, request.key = some key → key.check = .ok key)
include hchecked

theorem fieldNames_nodup {key : Schema} (hkey : request.key = some key) : key.fieldNames.Nodup :=
  (Schema.check_eq_ok_iff.mp (hchecked key hkey)).2

/-- The key from the record's key comes out as described. -/
theorem recordKeyOutcome_ofKey : RecordKeyOutcome request (ofKey request) := by
  cases hkey : request.key with
  | none =>
    rw [ofKey, hkey]
    exact .absent hkey
  | some key =>
    -- The types fall into structs, the two shapes that make up no key, and single values.
    have hshape : key.type = .array ∨ key.type = .map →
        RecordKeyOutcome request (ofKey request) := by
      intro h
      rw [ofKey_eq_of_shape hkey h]
      exact .shape hkey h
    cases htype : key.type with
    | struct =>
      rw [ofKey_eq_ofStruct hkey htype]
      exact .fields hkey htype
        ((KeyColumns.ofStruct_eq_iff (fieldNames_nodup hchecked hkey)).mp rfl)
    | array => exact hshape (.inl htype)
    | map => exact hshape (.inr htype)
    | _ => exact recordKeyOutcome_of_primitive hkey (by rw [htype]; rfl)

/-- It comes out in no other way, for each case determines the key or the rejection. -/
theorem ofKey_eq_iff {outcome : Except Failure KeyColumns} :
    ofKey request = outcome ↔ RecordKeyOutcome request outcome := by
  constructor
  · rintro rfl
    exact recordKeyOutcome_ofKey hchecked
  · intro h
    cases h with
    | absent hkey =>
      rw [ofKey, hkey]
      rfl
    | shape hkey hshape => exact ofKey_eq_of_shape hkey hshape
    | count hkey hprimitive hcount => exact ofKey_eq_of_count hkey hprimitive hcount
    | single hkey hprimitive hconfigured =>
      exact (ofKey_eq_ok_iff_of_primitive hkey hprimitive).mpr ⟨_, hconfigured, rfl⟩
    | fields hkey hstruct houtcome =>
      rw [ofKey_eq_ofStruct hkey hstruct]
      exact (KeyColumns.ofStruct_eq_iff (fieldNames_nodup hchecked hkey)).mpr houtcome

end Derivation

/-- There is a key exactly if the configured names fit the record's key. -/
theorem exists_ofKey_iff :
    (∃ columns, ofKey request = .ok columns) ↔
      ∃ key, request.key = some key ∧ NamesFit request.configured key := by
  simp only [ofKey_eq_ok_iff]
  constructor
  · rintro ⟨columns, key, hkey, htaken⟩
    refine ⟨key, hkey, ?_⟩
    cases htaken with
    | single hprimitive hconfigured => exact .inl ⟨hprimitive, by rw [hconfigured]; rfl⟩
    | fields hstruct hconfigured _ => exact .inr ⟨hstruct, hconfigured⟩
  · rintro ⟨key, hkey, ⟨hprimitive, hcount⟩ | ⟨hstruct, hdeclared⟩⟩
    · obtain ⟨name, hconfigured⟩ := List.length_eq_one_iff.mp hcount
      exact ⟨_, key, hkey, .single hprimitive hconfigured⟩
    · have hchosen : ∀ name ∈ KeyColumns.chosen request.configured key, name ∈ key.fieldNames := by
        intro name hname
        unfold KeyColumns.chosen at hname
        split at hname
        · exact hname
        · exact hdeclared name hname
      obtain ⟨columns, hcolumns⟩ := KeyColumns.exists_ofNames hchosen
      exact ⟨⟨columns, none⟩, key, hkey, .fields hstruct hdeclared ⟨hcolumns, rfl⟩⟩

/-- A key is derived from the record's key exactly if the record has one that the configured names
fit: a single value and one name, or a struct and names of its fields. Which key that is, or else
which rejection, is as described, for every schema of a key that passes its check. -/
theorem derive_recordKey_iff (request : KeyRequest)
    (hchecked : ∀ key, request.key = some key → key.check = .ok key) :
    ((∃ columns, derive .recordKey request = .ok columns) ↔
      ∃ key, request.key = some key ∧ NamesFit request.configured key) ∧
    ∀ outcome, derive .recordKey request = outcome ↔ RecordKeyOutcome request outcome :=
  ⟨exists_ofKey_iff, fun _ => ofKey_eq_iff hchecked⟩

/-- A struct with three fields. -/
def visitSchema : Schema :=
  { Schema.ofType .struct false with
    fields := Schema.numbered
      [("day", .ofType .int32 false), ("site", .ofType .string true),
        ("at", .ofType .int64 false)] }

/-- A record whose key is that struct, of which two fields are configured, one of them twice. -/
def visitRequest : KeyRequest where
  table := "visits"
  key := some visitSchema
  configured := ["site", "day", "site"]

theorem visitRequest_derive :
    visitSchema.check = .ok visitSchema ∧
      ∃ columns, RecordKeyOutcome visitRequest (.ok columns) ∧ columns.names = ["site", "day"] ∧
        columns.columns.map (·.schema.type) = [.string, .int32] := by
  have hcheck : visitSchema.check = .ok visitSchema := rfl
  have hchecked : ∀ key, visitRequest.key = some key → key.check = .ok key := by
    rintro _ ⟨⟩
    exact hcheck
  have houtcome := (derive_recordKey_iff visitRequest hchecked).2
  refine ⟨hcheck, _, (houtcome _).mp rfl, ?_⟩
  decide

end Key

end TableLayout
