import TableLayout.Proofs.Key.Flatten

/-!
# Columns named by headers, read from the record's key

A record without value, if it may delete or be written by its key, has all its key columns from the
record's key. Their names are those that the same headers give to fields of a value: in both cases
they are what the headers stand for, each in its first place.

- `Flatten.StandFor`: the names that headers stand for, without repeats.
- `Flatten.NamedByKey`: the key columns that all headers name.
- `Flatten.HeadersFit`: the number or the keys of headers fit the record's key.
- `Flatten.fromKey_eq_ok_iff`, `Flatten.exists_namedByKey_iff`: which key is derived, and for which
  headers there is one, where their values can be written.
- `Flatten.NamedByKey.standFor`, `Flatten.NamedByValue.standFor`: the names of the columns.
- `Flatten.NamedByKey.keySourced_eq`, `Flatten.NamedByValue.keySourced_eq`: all columns are read
  from the record's key; where the record has a value, if every header refers to the key.
-/

namespace TableLayout.Flatten

variable {request : KeyRequest} {value : Schema} {columns : KeyColumns}

/-! ## Names -/

/-- The names that headers stand for, each in the place of the first header that does. -/
def StandFor (headers : List Header) (names : List String) : Prop :=
  ∃ texts, List.Forall₂ Header.Renders headers texts ∧ names = texts.eraseDups

/-- Headers stand for one list of names at most. -/
theorem StandFor.unique {headers : List Header} {names names' : List String}
    (h : StandFor headers names) (h' : StandFor headers names') : names = names' := by
  obtain ⟨texts, htexts, rfl⟩ := h
  obtain ⟨texts', htexts', rfl⟩ := h'
  rw [rightUnique_renders htexts htexts']

/-- Names run out only with the headers. -/
theorem StandFor.eq_nil_iff {headers : List Header} {names : List String}
    (h : StandFor headers names) : names = [] ↔ headers = [] := by
  obtain ⟨texts, htexts, rfl⟩ := h
  cases htexts with
  | nil => simp
  | cons => simp [List.eraseDups_cons]

/-- A key from a record's value has the names that the headers stand for. -/
theorem NamedByValue.standFor (h : NamedByValue request value columns) :
    StandFor request.headers columns.names := by
  obtain ⟨texts, htexts, hcolumns⟩ := h.columns
  exact ⟨texts, htexts, KeyColumns.names_of_isField hcolumns⟩

/-- Where every header refers to the record's key, all columns are read from it. -/
theorem NamedByValue.keySourced_eq (h : NamedByValue request value columns)
    (hrefers : ∀ header ∈ request.headers, RefersToKey request header) :
    columns.keySourced = some columns.names := by
  obtain ⟨texts, hsourced, htexts⟩ := h.keySourced
  -- No header is left out, so the names are those of all columns.
  have hall : request.headers.filter (RefersToKey request) = request.headers :=
    List.filter_eq_self.mpr fun header hheader => decide_eq_true (hrefers header hheader)
  rw [hall] at htexts
  rw [hsourced, h.standFor.unique ⟨texts, htexts, rfl⟩]

/-! ## One header -/

/-- A header names a field by its key, and by its value the column that holds it. -/
def NamesKeyField (key : Schema) (header : Header) (column : Column) : Prop :=
  ∃ field, key.field? header.key = some field ∧
    ∃ name, header.Renders name ∧ column = ⟨name, field.schema, true⟩

/-- A header has a column in the record's key if its value can be written and it names a field
there. -/
theorem keyColumn_eq_ok_iff {key : Schema} {header : Header} {column : Column} :
    keyColumn request key header = .ok column ↔
      header.value.Prints request.digits ∧ NamesKeyField key header column := by
  unfold keyColumn NamesKeyField
  cases hfield : key.field? header.key with
  | none =>
    refine iff_of_false (fun h => ?_) fun ⟨_, _, h, _⟩ => nomatch h
    -- The message of the rejection may fail to be written, but there is no column in either case.
    obtain ⟨_, -, h⟩ := bind_eq_ok_iff.mp h
    cases h
  | some field =>
    constructor
    · intro h
      obtain ⟨name, hname, hcolumn⟩ := bind_eq_ok_iff.mp h
      obtain ⟨hprints, hname⟩ := columnName_eq_ok_iff.mp hname
      exact ⟨hprints, field, rfl, name, hname, (Except.ok.inj hcolumn).symm⟩
    · rintro ⟨hprints, _, ⟨⟩, name, hname, rfl⟩
      exact bind_eq_ok_iff.mpr ⟨name, columnName_eq_ok_iff.mpr ⟨hprints, hname⟩, rfl⟩

theorem exists_namesKeyField_iff {key : Schema} {header : Header} :
    (∃ column, NamesKeyField key header column) ↔
      header.key ∈ key.fieldNames ∧ ∃ name, header.Renders name := by
  rw [← Schema.exists_field?_iff]
  constructor
  · rintro ⟨_, field, hfield, name, hname, -⟩
    exact ⟨⟨field, hfield⟩, name, hname⟩
  · rintro ⟨⟨field, hfield⟩, name, hname⟩
    exact ⟨_, field, hfield, name, hname, rfl⟩

/-- Every header names a column exactly if all their keys are those of fields, and all their values
stand for texts. -/
theorem exists_forall₂_namesKeyField_iff {key : Schema} {headers : List Header} :
    (∃ columns, List.Forall₂ (NamesKeyField key) headers columns) ↔
      (∀ header ∈ headers, header.key ∈ key.fieldNames) ∧
        ∀ header ∈ headers, ∃ name, header.Renders name := by
  rw [exists_forall₂_iff, ← forall₂_and]
  exact forall₂_congr fun header _ => exists_namesKeyField_iff

/-! ## All headers -/

/-- The key columns of the columns that headers name. All are read from the record's key. -/
def ofKeyFields (columns : List Column) : KeyColumns where
  columns := Column.firstByName columns
  keySourced := some ((Column.firstByName columns).map Column.name)

/-- The key columns that the headers of a record name, read from the record's key. -/
inductive NamedByKey (request : KeyRequest) (key : Schema) : KeyColumns → Prop where
  /-- The record's key is a single value, and the only header names its column. -/
  | single {header : Header} {name : String} (hprimitive : key.type.isPrimitive = true)
      (hheaders : request.headers = [header]) (hname : header.Renders name) :
      NamedByKey request key ⟨[⟨name, key, true⟩], some [name]⟩
  /-- The record's key is a struct. Of two headers for one column the first says which field the
  column holds. -/
  | fields {columns : List Column} (hstruct : key.type = .struct)
      (hcolumns : List.Forall₂ (NamesKeyField key) request.headers columns) :
      NamedByKey request key (ofKeyFields columns)

/-- Headers fit the key of a record: there is one for a single value, and for a struct each has the
name of a field as its key. -/
def HeadersFit (headers : List Header) (key : Schema) : Prop :=
  key.type.isPrimitive = true ∧ headers.length = 1 ∨
    key.type = .struct ∧ ∀ header ∈ headers, header.key ∈ key.fieldNames

theorem NamedByKey.keySourced_eq {key : Schema} (h : NamedByKey request key columns) :
    columns.keySourced = some columns.names := by
  cases h <;> rfl

/-- A key from a record's key has the names that the headers stand for, too. -/
theorem NamedByKey.standFor {key : Schema} (h : NamedByKey request key columns) :
    StandFor request.headers columns.names := by
  cases h with
  | @single header name _ hheaders hname =>
    rw [hheaders]
    exact ⟨[name], .cons hname .nil, rfl⟩
  | @fields columns _ hcolumns =>
    refine ⟨columns.map Column.name, ?_, Column.names_firstByName columns⟩
    refine List.forall₂_map_right_iff.mpr (hcolumns.imp ?_)
    rintro header _ ⟨_, -, name, hname, rfl⟩
    exact hname

/-- Headers that stand for texts name key columns exactly if they fit the record's key. -/
theorem exists_namedByKey_iff {key : Schema} :
    (∃ columns, NamedByKey request key columns) ↔
      HeadersFit request.headers key ∧ ∀ header ∈ request.headers, ∃ name, header.Renders name := by
  constructor
  · rintro ⟨_, h⟩
    cases h with
    | single hprimitive hheaders hname =>
      rw [HeadersFit, hheaders]
      exact ⟨.inl ⟨hprimitive, rfl⟩, by simpa using ⟨_, hname⟩⟩
    | @fields columns hstruct hcolumns =>
      obtain ⟨hmem, htexts⟩ := exists_forall₂_namesKeyField_iff.mp ⟨columns, hcolumns⟩
      exact ⟨.inr ⟨hstruct, hmem⟩, htexts⟩
  · rintro ⟨⟨hprimitive, hlength⟩ | ⟨hstruct, hmem⟩, htexts⟩
    · obtain ⟨header, hheaders⟩ := List.length_eq_one_iff.mp hlength
      obtain ⟨name, hname⟩ := htexts header (hheaders ▸ List.mem_singleton_self header)
      exact ⟨_, .single hprimitive hheaders hname⟩
    · obtain ⟨columns, hcolumns⟩ := exists_forall₂_namesKeyField_iff.mpr ⟨hmem, htexts⟩
      exact ⟨_, .fields hstruct hcolumns⟩

/-! ## The derivation -/

/-- The values of all headers of a request with one header can be written exactly if that of this
one can. -/
theorem prints_iff_of_headers {header : Header} (hheaders : request.headers = [header]) :
    request.Prints ↔ header.value.Prints request.digits := by
  rw [KeyRequest.Prints, hheaders, List.forall_mem_singleton]

/-- Columns are found for all headers exactly if their values can be written and name columns. -/
theorem mapM_keyColumn_eq_ok_iff {key : Schema} {found : List Column} :
    request.headers.mapM (keyColumn request key) = .ok found ↔
      request.Prints ∧ List.Forall₂ (NamesKeyField key) request.headers found := by
  rw [mapM_eq_ok_iff, KeyRequest.Prints, ← List.forall₂_and_left]
  simp only [keyColumn_eq_ok_iff]

section Shapes

variable {key : Schema} (hkey : request.key = some key)
include hkey

/-- A single value needs one header, and that gives the name of its column. -/
theorem fromKey_eq_ok_iff_of_primitive (hprimitive : key.type.isPrimitive = true) :
    fromKey request = .ok columns ↔ ∃ header name, request.headers = [header] ∧
      header.value.Prints request.digits ∧ header.Renders name ∧
        columns = ⟨[⟨name, key, true⟩], some [name]⟩ := by
  rw [fromKey, hkey]
  simp only [hprimitive, if_true]
  split
  · next header hheaders =>
    rw [bind_eq_ok_iff]
    constructor
    · rintro ⟨name, hname, hcolumns⟩
      obtain ⟨hprints, hname⟩ := columnName_eq_ok_iff.mp hname
      exact ⟨header, name, hheaders, hprints, hname, (Except.ok.inj hcolumns).symm⟩
    · rintro ⟨header', name, hheaders', hprints, hname, rfl⟩
      obtain rfl := List.singleton_inj.mp (hheaders.symm.trans hheaders')
      exact ⟨name, columnName_eq_ok_iff.mpr ⟨hprints, hname⟩, rfl⟩
  · next hmany =>
    refine iff_of_false (fun h => ?_) fun ⟨header, _, hheaders, _⟩ => hmany header hheaders
    obtain ⟨_, -, h⟩ := bind_eq_ok_iff.mp h
    cases h

/-- For a struct nothing fails after the loop over the headers. -/
theorem fromKey_eq_bind_of_struct (hstruct : key.type = .struct) :
    fromKey request = request.headers.mapM (keyColumn request key) >>= fun columns =>
      .ok (ofKeyFields columns) := by
  rw [fromKey, hkey]
  simp only [Schema.isStruct, hstruct]
  refine bind_congr fun columns => ?_
  exact KeyColumns.make_of_nodup (Column.nodup_names_firstByName columns)

/-- A list or a map makes up no key, whatever the headers are. -/
theorem fromKey_ne_ok (hprimitive : key.type.isPrimitive = false) (hstruct : key.type ≠ .struct) :
    fromKey request ≠ .ok columns := by
  rw [fromKey, hkey]
  simp [Schema.isStruct, hprimitive, hstruct, KeyRequest.reject]

/-- The key is the one that the headers name by the record's key. -/
theorem fromKey_eq_ok_iff_of_key :
    fromKey request = .ok columns ↔ request.Prints ∧ NamedByKey request key columns := by
  -- The three shapes of a key: a struct, a single value, and what is neither.
  by_cases hstruct : key.type = .struct
  · rw [fromKey_eq_bind_of_struct hkey hstruct, bind_eq_ok_iff]
    constructor
    · rintro ⟨found, hfound, hcolumns⟩
      obtain rfl := Except.ok.inj hcolumns
      obtain ⟨hprints, hfound⟩ := mapM_keyColumn_eq_ok_iff.mp hfound
      exact ⟨hprints, .fields hstruct hfound⟩
    · rintro ⟨hprints, h⟩
      cases h with
      | single hprimitive => rw [hstruct] at hprimitive; cases hprimitive
      | @fields found _ hfound =>
        exact ⟨found, mapM_keyColumn_eq_ok_iff.mpr ⟨hprints, hfound⟩, rfl⟩
  cases hprimitive : key.type.isPrimitive with
  | true =>
    rw [fromKey_eq_ok_iff_of_primitive hkey hprimitive]
    constructor
    · rintro ⟨header, name, hheaders, hprints, hname, rfl⟩
      exact ⟨(prints_iff_of_headers hheaders).mpr hprints, .single hprimitive hheaders hname⟩
    · rintro ⟨hprints, h⟩
      cases h with
      | @single header name _ hheaders hname =>
        exact ⟨header, name, hheaders, (prints_iff_of_headers hheaders).mp hprints, hname, rfl⟩
      | fields h => exact absurd h hstruct
  | false =>
    refine iff_of_false (fromKey_ne_ok hkey hprimitive hstruct) fun ⟨_, h⟩ => ?_
    cases h with
    | single h => rw [hprimitive] at h; cases h
    | fields h => exact hstruct h

end Shapes

/-- The key of a record without value is the one that its headers name, if their values can be
written. -/
theorem fromKey_eq_ok_iff :
    fromKey request = .ok columns ↔
      request.Prints ∧ ∃ key, request.key = some key ∧ NamedByKey request key columns := by
  cases hkey : request.key with
  | none =>
    rw [fromKey, hkey]
    exact ⟨nofun, fun ⟨_, _, h, _⟩ => nomatch h⟩
  | some key =>
    rw [fromKey_eq_ok_iff_of_key hkey]
    simp

/-! ## The branch -/

/-- Without a value, a record that deletes or is written by its key has its columns from there. -/
theorem derive_eq_fromKey (hvalue : request.value = none)
    (hdeletes : request.deleteEnabled = true ∨ request.insertMode = .upsert) :
    Key.derive .flatten request = fromKey request := by
  have hkeySourced : branch request.value.isSome request.deleteEnabled request.insertMode =
      .keySourced := branch_eq_keySourced_iff.mpr ⟨by rw [hvalue]; rfl, hdeletes⟩
  show Flatten.derive request = fromKey request
  rw [Flatten.derive, hkeySourced]

end TableLayout.Flatten
