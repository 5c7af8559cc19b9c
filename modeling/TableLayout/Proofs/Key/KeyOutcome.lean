import TableLayout.Proofs.Key.KeySourced

/-!
# How the derivation of a key from the record's key ends

A record without value, if it may delete or be written by its key, has its columns from its key.
What the headers have to be like depends on the shape of the key, and so does what is wrong with
them if they are not.

- `Flatten.Misses`: a header names no field of the record's key, for one of two reasons.
- `Flatten.HoldsFirst`: a column holds the field that the first header of its name gives to it.
- `Flatten.NamedByFields`: the key columns that all headers name by fields of the record's key.
- `Flatten.KeyOutcome`: how the derivation of the key ends where the values of headers can be
  written.
- `Flatten.derive_keySourced_iff`: a key is derived exactly if the headers fit the record's key and
  stand for texts, and the derivation ends as described.
-/

namespace TableLayout.Flatten

/-- A header is rejected where it should name a field of the record's key. -/
inductive Misses (request : KeyRequest) (key : Schema) (header : Header) : Rejection → Prop where
  /-- Its key is that of no field, whatever its value stands for. -/
  | unknownField (hnot : header.key ∉ key.fieldNames) :
      Misses request key header ⟨request.table,
        .missingField .flatten .key header.key (Header.shownAll request.headers) key.fieldNames⟩
  /-- Its key is that of a field, but its value stands for no text. -/
  | undecodable {fault : Text.Utf8.Fault} (hmem : header.key ∈ key.fieldNames)
      (hnone : ∀ name, ¬header.Renders name) (hfault : header.text = .error fault) :
      Misses request key header ⟨request.table, .undecodableHeader header.key fault⟩

/-- A column holds the field that the first of the headers for its name gives to it. -/
def HoldsFirst (key : Schema) (headers : List Header) (column : Column) : Prop :=
  ∃ before header after, headers = before ++ header :: after ∧
    (∀ earlier ∈ before, ¬earlier.Renders column.name) ∧ NamesKeyField key header column

/-- The key columns that the headers of a record name by fields of its key. -/
structure NamedByFields (request : KeyRequest) (key : Schema) (columns : KeyColumns) : Prop where
  /-- Their names are what the headers stand for, each in its first place. -/
  names : StandFor request.headers columns.names
  fields : ∀ column ∈ columns.columns, HoldsFirst key request.headers column
  /-- All of them are read from the record's key. -/
  keySourced : columns.keySourced = some columns.names

/-- How the key columns of a record come out that are read from its key. -/
inductive KeyOutcome (request : KeyRequest) : Except Failure KeyColumns → Prop where
  /-- The record has no key. -/
  | absent (hkey : request.key = none) :
      KeyOutcome request (.error (.rejected ⟨request.table, .missingPayload .flatten .key⟩))
  /-- The key is a list or a map. -/
  | shape {key : Schema} (hkey : request.key = some key)
      (hshape : key.type = .array ∨ key.type = .map) :
      KeyOutcome request (.error (.rejected ⟨request.table, .keyShape .flatten key.type⟩))
  /-- The key is a single value, but there is not one header. -/
  | count {key : Schema} (hkey : request.key = some key) (hprimitive : key.type.isPrimitive = true)
      (hcount : request.headers.length ≠ 1) :
      KeyOutcome request (.error (.rejected
        ⟨request.table, .keyHeaderCount key.type (Header.shownAll request.headers)⟩))
  /-- The key is a single value, but the only header stands for no text. -/
  | undecodable {key : Schema} {header : Header} {fault : Text.Utf8.Fault}
      (hkey : request.key = some key) (hprimitive : key.type.isPrimitive = true)
      (hheaders : request.headers = [header]) (hnone : ∀ name, ¬header.Renders name)
      (hfault : header.text = .error fault) :
      KeyOutcome request
        (.error (.rejected ⟨request.table, .undecodableHeader header.key fault⟩))
  /-- The key is a single value, in the column that the only header names. -/
  | single {key : Schema} {header : Header} {name : String} (hkey : request.key = some key)
      (hprimitive : key.type.isPrimitive = true) (hheaders : request.headers = [header])
      (hname : header.Renders name) : KeyOutcome request (.ok ⟨[⟨name, key, true⟩], some [name]⟩)
  /-- The key is a struct, but a header names no field of it, and it is the earliest one. -/
  | misses {key : Schema} {before after : List Header} {header : Header} {rejection : Rejection}
      (hkey : request.key = some key) (hstruct : key.type = .struct)
      (hsplit : request.headers = before ++ header :: after)
      (hbefore : ∀ earlier ∈ before,
        earlier.key ∈ key.fieldNames ∧ ∃ name, earlier.Renders name)
      (hmisses : Misses request key header rejection) :
      KeyOutcome request (.error (.rejected rejection))
  /-- The key is a struct, and all headers name fields of it. -/
  | fields {key : Schema} {columns : KeyColumns} (hkey : request.key = some key)
      (hstruct : key.type = .struct)
      (hheaders : ∀ header ∈ request.headers,
        header.key ∈ key.fieldNames ∧ ∃ name, header.Renders name)
      (hcolumns : NamedByFields request key columns) : KeyOutcome request (.ok columns)

variable {request : KeyRequest} {key : Schema} {header : Header} {columns : KeyColumns}

/-! ## Headers -/

/-- A header has a column if its value can be written and stands for a text, and its key is that of
a field. -/
theorem exists_keyColumn_iff :
    (∃ column, keyColumn request key header = .ok column) ↔ header.value.Prints request.digits ∧
      header.key ∈ key.fieldNames ∧ ∃ name, header.Renders name := by
  simp only [keyColumn_eq_ok_iff, exists_and_left, exists_namesKeyField_iff]

section Printing

variable (hprints : request.Prints)
include hprints

/-- A header of a request that prints is rejected for not naming a field, and only for that. -/
theorem keyColumn_eq_error_iff (hheader : header ∈ request.headers) {failure : Failure} :
    keyColumn request key header = .error failure ↔
      ∃ rejection, Misses request key header rejection ∧ failure = .rejected rejection := by
  have hvalue : header.value.Prints request.digits := hprints header hheader
  unfold keyColumn
  rw [KeyRequest.shownHeaders_eq hprints]
  constructor
  · intro h
    split at h
    · next hfield =>
      have hnot : header.key ∉ key.fieldNames := Schema.field?_eq_none_iff.mp hfield
      exact ⟨_, .unknownField hnot, (Except.error.inj h).symm⟩
    · next field hfield =>
      have hmem : header.key ∈ key.fieldNames := Schema.exists_field?_iff.mp ⟨field, hfield⟩
      rcases bind_eq_error_iff.mp h with hname | ⟨_, -, h⟩
      · obtain ⟨fault, hfault, rfl⟩ := (columnName_eq_error_iff hvalue).mp hname
        have hnone := Header.exists_text_eq_error_iff.mp ⟨fault, hfault⟩
        exact ⟨_, .undecodable hmem hnone hfault, rfl⟩
      · cases h
  · rintro ⟨rejection, hmisses, rfl⟩
    cases hmisses with
    | unknownField hnot =>
      rw [Schema.field?_eq_none_iff.mpr hnot]
      rfl
    | undecodable hmem hnone hfault =>
      obtain ⟨field, hfield⟩ := Schema.exists_field?_iff.mpr hmem
      rw [hfield]
      exact bind_eq_error_iff.mpr (.inl ((columnName_eq_error_iff hvalue).mpr ⟨_, hfault, rfl⟩))

/-- The earliest header that names no field is the one that the loop over the headers rejects. -/
theorem mapM_keyColumn_eq_error_iff {failure : Failure} :
    request.headers.mapM (keyColumn request key) = .error failure ↔
      ∃ before header after rejection, request.headers = before ++ header :: after ∧
        (∀ earlier ∈ before, earlier.key ∈ key.fieldNames ∧ ∃ name, earlier.Renders name) ∧
        Misses request key header rejection ∧ failure = .rejected rejection := by
  rw [mapM_eq_error_iff]
  constructor
  · rintro ⟨before, header, after, hsplit, hbefore, hheader⟩
    have hmem : header ∈ request.headers := hsplit ▸ List.mem_append_cons_self
    obtain ⟨rejection, hmisses, rfl⟩ := (keyColumn_eq_error_iff hprints hmem).mp hheader
    exact ⟨before, header, after, rejection, hsplit,
      fun earlier hearlier => (exists_keyColumn_iff.mp (hbefore earlier hearlier)).2, hmisses, rfl⟩
  · rintro ⟨before, header, after, rejection, hsplit, hbefore, hmisses, rfl⟩
    have hmem : header ∈ request.headers := hsplit ▸ List.mem_append_cons_self
    refine ⟨before, header, after, hsplit, fun earlier hearlier => ?_,
      (keyColumn_eq_error_iff hprints hmem).mpr ⟨rejection, hmisses, rfl⟩⟩
    have hearlier' : earlier ∈ request.headers := hsplit ▸ List.mem_append_left _ hearlier
    exact exists_keyColumn_iff.mpr ⟨hprints earlier hearlier', hbefore earlier hearlier⟩

end Printing

/-- The first column of a name is the one that the first header for this name gives. -/
theorem holdsFirst_of_mem {headers : List Header} {found : List Column} {column : Column}
    (hfound : List.Forall₂ (NamesKeyField key) headers found)
    (hmem : column ∈ Column.firstByName found) : HoldsFirst key headers column := by
  obtain ⟨before, after, rfl, hother⟩ := Column.first_of_mem_firstByName hmem
  obtain ⟨before', header, after', rfl, hbefore, hheader⟩ := split_of_forall₂ hfound
  refine ⟨before', header, after', rfl, fun earlier hearlier hname => ?_, hheader⟩
  obtain ⟨other, hmem, _, -, name, hrenders, rfl⟩ := exists_of_forall₂ hbefore earlier hearlier
  -- An earlier header for the same name would have put its column first.
  exact hother _ hmem (hrenders.unique hname)

theorem namedByFields_ofKeyFields {found : List Column}
    (hfound : List.Forall₂ (NamesKeyField key) request.headers found)
    (hstruct : key.type = .struct) : NamedByFields request key (ofKeyFields found) where
  names := (NamedByKey.fields hstruct hfound).standFor
  fields _ hmem := holdsFirst_of_mem hfound hmem
  keySourced := rfl

/-- Only one header is the first for a name, and it names one field. -/
theorem HoldsFirst.unique {headers : List Header} {column column' : Column}
    (h : HoldsFirst key headers column) (h' : HoldsFirst key headers column')
    (hname : column.name = column'.name) : column = column' := by
  classical
  obtain ⟨before, header, after, hsplit, hbefore, field, hfield, name, hrenders, rfl⟩ := h
  obtain ⟨before', header', after', hsplit', hbefore', field', hfield', name', hrenders', rfl⟩ := h'
  obtain rfl : name = name' := hname
  -- Both are the first header in the list that stands for the name.
  have hfirst : headers.find? (fun header => header.Renders name) = some header :=
    List.find?_eq_some_iff_append.mpr
      ⟨decide_eq_true hrenders, before, after, hsplit, by simpa using hbefore⟩
  have hfirst' : headers.find? (fun header => header.Renders name) = some header' :=
    List.find?_eq_some_iff_append.mpr
      ⟨decide_eq_true hrenders', before', after', hsplit', by simpa using hbefore'⟩
  obtain rfl := Option.some.inj (hfirst.symm.trans hfirst')
  obtain rfl := Option.some.inj (hfield.symm.trans hfield')
  rfl

/-- Names and fields of the columns are determined, and so is the key. -/
theorem NamedByFields.unique {columns' : KeyColumns} (h : NamedByFields request key columns)
    (h' : NamedByFields request key columns') : columns = columns' := by
  have hnames : columns.names = columns'.names := h.names.unique h'.names
  have hcolumns : columns.columns = columns'.columns := by
    refine eq_of_map_eq hnames fun column hmem column' hmem' hname => ?_
    exact (h.fields column hmem).unique (h'.fields column' hmem') hname
  have hsourced : columns.keySourced = columns'.keySourced := by
    rw [h.keySourced, h'.keySourced, hnames]
  cases columns
  cases columns'
  exact congrArg₂ KeyColumns.mk hcolumns hsourced

/-! ## Shapes of the key -/

section Shapes

variable (hkey : request.key = some key)
include hkey

/-- A list or a map is rejected by its type. -/
theorem fromKey_eq_of_shape (hshape : key.type = .array ∨ key.type = .map) :
    fromKey request = request.reject (.keyShape .flatten key.type) := by
  rw [fromKey, hkey]
  rcases hshape with h | h <;> simp [h, ValueType.isPrimitive, Schema.isStruct]

/-- A single value is rejected for any number of headers but one. -/
theorem fromKey_eq_of_count (hprints : request.Prints) (hprimitive : key.type.isPrimitive = true)
    (hcount : request.headers.length ≠ 1) :
    fromKey request =
      request.reject (.keyHeaderCount key.type (Header.shownAll request.headers)) := by
  rw [fromKey, hkey, KeyRequest.shownHeaders_eq hprints]
  simp only [hprimitive, if_true]
  split
  · next header hheaders => exact absurd (by rw [hheaders]; rfl) hcount
  · rfl

theorem fromKey_eq_bind_of_header (hprimitive : key.type.isPrimitive = true)
    (hheaders : request.headers = [header]) :
    fromKey request =
      columnName request header >>= fun name => .ok ⟨[⟨name, key, true⟩], some [name]⟩ := by
  rw [fromKey, hkey]
  simp only [hprimitive, if_true, hheaders]
  exact bind_congr fun name => KeyColumns.make_of_nodup (List.nodup_singleton name)

/-- How it ends for a single value: it is a matter of the number of headers and of the text of the
only one. -/
theorem keyOutcome_of_primitive (hprints : request.Prints)
    (hprimitive : key.type.isPrimitive = true) : KeyOutcome request (fromKey request) := by
  by_cases hcount : request.headers.length = 1
  · obtain ⟨header, hheaders⟩ := List.length_eq_one_iff.mp hcount
    have hvalue := (prints_iff_of_headers hheaders).mp hprints
    rw [fromKey_eq_bind_of_header hkey hprimitive hheaders]
    cases hname : columnName request header with
    | ok name => exact .single hkey hprimitive hheaders (columnName_eq_ok_iff.mp hname).2
    | error failure =>
      obtain ⟨fault, hfault, rfl⟩ := (columnName_eq_error_iff hvalue).mp hname
      have hnone := Header.exists_text_eq_error_iff.mp ⟨fault, hfault⟩
      exact .undecodable hkey hprimitive hheaders hnone hfault
  · rw [fromKey_eq_of_count hkey hprints hprimitive hcount]
    exact .count hkey hprimitive hcount

/-- How it ends for a struct: the earliest header that names no field decides, if there is one. -/
theorem keyOutcome_of_struct (hprints : request.Prints) (hstruct : key.type = .struct) :
    KeyOutcome request (fromKey request) := by
  rw [fromKey_eq_bind_of_struct hkey hstruct]
  cases hfound : request.headers.mapM (keyColumn request key) with
  | ok found =>
    have hnamed := (mapM_keyColumn_eq_ok_iff.mp hfound).2
    exact .fields hkey hstruct
      (fun header hheader => exists_namesKeyField_iff.mp
        ((exists_of_forall₂ hnamed header hheader).imp fun _ h => h.2))
      (namedByFields_ofKeyFields hnamed hstruct)
  | error failure =>
    obtain ⟨before, header, after, rejection, hsplit, hbefore, hmisses, rfl⟩ :=
      (mapM_keyColumn_eq_error_iff hprints).mp hfound
    exact .misses hkey hstruct hsplit hbefore hmisses

end Shapes

/-! ## The derivation -/

/-- The derivation ends as described. -/
theorem keyOutcome_fromKey (hprints : request.Prints) :
    KeyOutcome request (fromKey request) := by
  cases hkey : request.key with
  | none =>
    rw [fromKey, hkey]
    exact .absent hkey
  | some key =>
    have hshape : key.type = .array ∨ key.type = .map → KeyOutcome request (fromKey request) := by
      intro h
      rw [fromKey_eq_of_shape hkey h]
      exact .shape hkey h
    cases htype : key.type with
    | struct => exact keyOutcome_of_struct hkey hprints htype
    | array => exact hshape (.inl htype)
    | map => exact hshape (.inr htype)
    | _ => exact keyOutcome_of_primitive hkey hprints (by rw [htype]; rfl)

/-- It ends in no other way, for each case determines the key or the rejection. -/
theorem fromKey_eq_of_keyOutcome (hprints : request.Prints) {outcome : Except Failure KeyColumns}
    (h : KeyOutcome request outcome) : fromKey request = outcome := by
  cases h with
  | absent hkey =>
    rw [fromKey, hkey]
    rfl
  | shape hkey hshape => exact fromKey_eq_of_shape hkey hshape
  | count hkey hprimitive hcount => exact fromKey_eq_of_count hkey hprints hprimitive hcount
  | undecodable hkey hprimitive hheaders hnone hfault =>
    have hvalue := (prints_iff_of_headers hheaders).mp hprints
    rw [fromKey_eq_bind_of_header hkey hprimitive hheaders]
    exact bind_eq_error_iff.mpr (.inl ((columnName_eq_error_iff hvalue).mpr ⟨_, hfault, rfl⟩))
  | single hkey hprimitive hheaders hname =>
    have hvalue := (prints_iff_of_headers hheaders).mp hprints
    rw [fromKey_eq_bind_of_header hkey hprimitive hheaders]
    exact bind_eq_ok_iff.mpr ⟨_, columnName_eq_ok_iff.mpr ⟨hvalue, hname⟩, rfl⟩
  | misses hkey hstruct hsplit hbefore hmisses =>
    rw [fromKey_eq_bind_of_struct hkey hstruct]
    exact bind_eq_error_iff.mpr (.inl ((mapM_keyColumn_eq_error_iff hprints).mpr
      ⟨_, _, _, _, hsplit, hbefore, hmisses, rfl⟩))
  | @fields key columns hkey hstruct hheaders hcolumns =>
    -- The columns that the loop finds are described in the same way, so they are these.
    obtain ⟨found, hnamed⟩ := exists_forall₂_iff.mpr fun header hheader =>
      exists_namesKeyField_iff.mpr (hheaders header hheader)
    rw [hcolumns.unique (namedByFields_ofKeyFields hnamed hstruct)]
    exact (fromKey_eq_ok_iff_of_key hkey).mpr ⟨hprints, .fields hstruct hnamed⟩

theorem fromKey_eq_iff (hprints : request.Prints) {outcome : Except Failure KeyColumns} :
    fromKey request = outcome ↔ KeyOutcome request outcome :=
  ⟨fun h => h ▸ keyOutcome_fromKey hprints, fromKey_eq_of_keyOutcome hprints⟩

/-- A record without value that may delete or be written by its key gets a key exactly if it has a
key that its headers fit, and all headers stand for texts. Which key that is, or else which
rejection, is as described, and all its columns are read from the record's key. It is taken for
granted that the values of headers can be written. -/
theorem derive_keySourced_iff (request : KeyRequest) (hprints : request.Prints)
    (hvalue : request.value = none)
    (hbranch : request.deleteEnabled = true ∨ request.insertMode = .upsert) :
    ((∃ columns, Key.derive .flatten request = .ok columns) ↔
      ∃ key, request.key = some key ∧ HeadersFit request.headers key ∧
        ∀ header ∈ request.headers, ∃ name, header.Renders name) ∧
    (∀ outcome, Key.derive .flatten request = outcome ↔ KeyOutcome request outcome) ∧
    ∀ columns, Key.derive .flatten request = .ok columns →
      columns.keySourced = some columns.names := by
  rw [derive_eq_fromKey hvalue hbranch]
  refine ⟨?_, fun outcome => fromKey_eq_iff hprints, fun columns hcolumns => ?_⟩
  · constructor
    · rintro ⟨columns, hcolumns⟩
      obtain ⟨-, key, hkey, hnamed⟩ := fromKey_eq_ok_iff.mp hcolumns
      exact ⟨key, hkey, exists_namedByKey_iff.mp ⟨columns, hnamed⟩⟩
    · rintro ⟨key, hkey, hheaders⟩
      obtain ⟨columns, hnamed⟩ := exists_namedByKey_iff.mpr hheaders
      exact ⟨columns, fromKey_eq_ok_iff.mpr ⟨hprints, key, hkey, hnamed⟩⟩
  · obtain ⟨-, key, -, hnamed⟩ := fromKey_eq_ok_iff.mp hcolumns
    exact hnamed.keySourced_eq

/-- A record without value whose headers name the column `x` twice, for two fields, and put the
field `at` into two columns. -/
def doubledRequest : KeyRequest where
  table := "orders"
  key := some { Schema.ofType .struct false with
    fields := Schema.numbered [("id", .ofType .int32 true), ("at", .ofType .int64 false)] }
  headers := [⟨"at", .text "y"⟩, ⟨"id", .bytes [120]⟩, ⟨"at", .text "x"⟩, ⟨"id", .buffer [121]⟩]
  insertMode := .upsert

theorem doubledRequest_derive :
    doubledRequest.Prints ∧ doubledRequest.value = none ∧ doubledRequest.insertMode = .upsert ∧
      ∃ columns, KeyOutcome doubledRequest (.ok columns) ∧ columns.names = ["y", "x"] ∧
        columns.columns.map (·.schema.type) = [.int64, .int32] ∧
        columns.keySourced = some ["y", "x"] := by
  have hprints : doubledRequest.Prints := KeyRequest.prints_of_unlimited rfl
  have hvalue : doubledRequest.value = none := rfl
  have hbranch : doubledRequest.insertMode = .upsert := rfl
  have houtcome := (derive_keySourced_iff doubledRequest hprints hvalue (.inr hbranch)).2.1
  refine ⟨hprints, hvalue, hbranch, _, (houtcome _).mp rfl, ?_⟩
  decide

end TableLayout.Flatten
