import Mathlib.Data.List.Forall2
import TableLayout.Proofs.Header
import TableLayout.Proofs.Key.Lawful

/-!
# Columns named by headers, read from the record's value

The headers of a record with a value name columns, of which some are also read from the record's
key. Two lists without repeats come of this, and their orders need not agree: a column stands in the
key where a header first names it, and among those read from the record's key where a header that
refers to the record's key first names it.

- `Flatten.RefersToKey`: a header refers to the record's key.
- `Flatten.NamesField`: the value of a header stands for the name of a field.
- `Flatten.Offends`: a header names no field, for one of two reasons.
- `Flatten.NamedByValue`: the key columns that all headers name.
- `Flatten.derive_eq_ok_iff_namedByValue`: these are the key of a record with a value, if the values
  of its headers can be written.
- `Flatten.ValueOutcome`: how the derivation of the key ends where they can.
- `Flatten.derive_valueSourced_iff`: a key is derived exactly if every header names a field, and the
  derivation ends as described.
-/

namespace TableLayout.Flatten

/-- A header refers to the record's key: its key is a field there or, if the record's key is no
struct, ends in `.key`. -/
def RefersToKey (request : KeyRequest) (header : Header) : Prop :=
  ∃ key, request.key = some key ∧
    (key.type = .struct ∧ header.key ∈ key.fieldNames ∨
      key.type ≠ .struct ∧ ∃ stem, header.key = stem ++ ".key")

/-- A key refers to the record's key by the name of a field if that is a struct, and otherwise by
its end. -/
theorem refersToKey_iff {key : Schema} {headerKey : String} :
    refersToKey key headerKey = true ↔
      key.type = .struct ∧ headerKey ∈ key.fieldNames ∨
        key.type ≠ .struct ∧ ∃ stem, headerKey = stem ++ ".key" := by
  unfold refersToKey
  by_cases hstruct : key.type = .struct
  · rw [if_pos (by simpa [Schema.isStruct] using hstruct), Schema.field?_isSome_iff]
    simp [hstruct]
  · rw [if_neg (by simpa [Schema.isStruct] using hstruct), List.isSuffixOf_iff_suffix]
    constructor
    · rintro ⟨stem, hstem⟩
      refine .inr ⟨hstruct, String.ofList stem, String.toList_inj.mp ?_⟩
      rw [← hstem, String.toList_append, String.toList_ofList]
      rfl
    · rintro (⟨h, -⟩ | ⟨-, stem, rfl⟩)
      · exact absurd h hstruct
      · exact ⟨stem.toList, String.toList_append.symm⟩

theorem any_refersToKey_iff {request : KeyRequest} {header : Header} :
    request.key.any (refersToKey · header.key) = true ↔ RefersToKey request header := by
  cases hkey : request.key with
  | none => simp [RefersToKey, hkey]
  | some key =>
    rw [Option.any_some, refersToKey_iff]
    simp [RefersToKey, hkey]

instance (request : KeyRequest) : DecidablePred (RefersToKey request) := fun _ =>
  decidable_of_iff _ any_refersToKey_iff

/-- The value of a header stands for the name of a field. -/
def NamesField (value : Schema) (header : Header) : Prop :=
  ∃ name, header.Renders name ∧ name ∈ value.fieldNames

/-- A header is rejected where it should name a field of the record's value. -/
inductive Offends (request : KeyRequest) (value : Schema) (header : Header) : Rejection → Prop where
  /-- Its value stands for no text. -/
  | undecodable {fault : Text.Utf8.Fault} (hnone : ∀ name, ¬header.Renders name)
      (hfault : header.text = .error fault) :
      Offends request value header ⟨request.table, .undecodableHeader header.key fault⟩
  /-- Its value stands for a name that no field has. -/
  | missing {name : String} (hname : header.Renders name) (hnot : name ∉ value.fieldNames) :
      Offends request value header
        ⟨request.table, .missingField .flatten .value name name value.fieldNames⟩

/-- The key columns that the headers of a record name by fields of its value. -/
structure NamedByValue (request : KeyRequest) (value : Schema) (key : KeyColumns) : Prop where
  /-- The columns are the fields that the headers name, each in the place of the first header. -/
  columns : ∃ names, List.Forall₂ Header.Renders request.headers names ∧
    List.Forall₂ (KeyColumns.IsField value) names.eraseDups key.columns
  /-- Read from the record's key are those that a header names which refers to it, each in the place
  of the first such header. -/
  keySourced : ∃ names, key.keySourced = some names.eraseDups ∧
    List.Forall₂ Header.Renders (request.headers.filter (RefersToKey request)) names

/-- How the key columns of a record come out that are named by fields of its value. -/
inductive ValueOutcome (request : KeyRequest) : Except Failure KeyColumns → Prop where
  /-- The record has no value. -/
  | absent (hvalue : request.value = none) :
      ValueOutcome request (.error (.rejected ⟨request.table, .missingPayload .flatten .value⟩))
  /-- A header names no field, and it is the earliest one. -/
  | offends {value : Schema} {before after : List Header} {header : Header} {rejection : Rejection}
      (hvalue : request.value = some value) (hsplit : request.headers = before ++ header :: after)
      (hbefore : ∀ earlier ∈ before, NamesField value earlier)
      (hoffends : Offends request value header rejection) :
      ValueOutcome request (.error (.rejected rejection))
  /-- All headers name fields. -/
  | named {value : Schema} {key : KeyColumns} (hvalue : request.value = some value)
      (hkey : NamedByValue request value key) : ValueOutcome request (.ok key)

/-! ## One header -/

variable {request : KeyRequest} {value : Schema} {header : Header}

/-- A value is taken for the name of a column once it is known that it can be written. -/
theorem columnName_eq_ok_iff {name : String} :
    columnName request header = .ok name ↔
      header.value.Prints request.digits ∧ header.Renders name := by
  rw [← Header.text_eq_ok_iff, columnName, bind_eq_ok_iff]
  constructor
  · rintro ⟨⟨⟩, hprints, h⟩
    refine ⟨Datum.requirePrints_eq_ok_iff.mp hprints, ?_⟩
    cases htext : header.text with
    | ok text =>
      rw [htext] at h
      rw [Except.ok.inj h]
    | error fault =>
      rw [htext] at h
      cases h
  · rintro ⟨hprints, htext⟩
    refine ⟨(), Datum.requirePrints_eq_ok_iff.mpr hprints, ?_⟩
    rw [htext]

/-- A value that can be written names no column exactly if it is in bytes that are no text. -/
theorem columnName_eq_error_iff (hprints : header.value.Prints request.digits)
    {failure : Failure} :
    columnName request header = .error failure ↔
      ∃ fault, header.text = .error fault ∧
        failure = .rejected ⟨request.table, .undecodableHeader header.key fault⟩ := by
  have hpasses : header.value.requirePrints request.digits = .ok () :=
    Datum.requirePrints_eq_ok_iff.mpr hprints
  constructor
  · intro h
    rw [columnName, hpasses] at h
    cases htext : header.text with
    | ok text =>
      rw [htext] at h
      cases h
    | error fault =>
      rw [htext] at h
      exact ⟨fault, rfl, (Except.error.inj h).symm⟩
  · rintro ⟨fault, hfault, rfl⟩
    rw [columnName, hpasses, hfault]
    rfl

/-- The column of a header holds the field that its value names. -/
theorem valueColumn_eq_ok_iff {column : Column} {sourced : Bool} :
    valueColumn request value header = .ok (column, sourced) ↔
      header.value.Prints request.digits ∧ header.Renders column.name ∧
        KeyColumns.IsField value column.name column ∧
        (sourced = true ↔ RefersToKey request header) := by
  rw [valueColumn, bind_eq_ok_iff, ← any_refersToKey_iff, ← Bool.eq_iff_iff]
  constructor
  · rintro ⟨name, hname, h⟩
    obtain ⟨hprints, hname⟩ := columnName_eq_ok_iff.mp hname
    cases hfield : value.field? name with
    | none =>
      rw [hfield] at h
      cases h
    | some field =>
      rw [hfield] at h
      obtain ⟨rfl, rfl⟩ := Prod.mk.inj (Except.ok.inj h)
      exact ⟨hprints, hname, ⟨field, hfield, rfl⟩, rfl⟩
  · rintro ⟨hprints, hname, ⟨field, hfield, hcolumn⟩, rfl⟩
    refine ⟨column.name, columnName_eq_ok_iff.mpr ⟨hprints, hname⟩, ?_⟩
    rw [hfield]
    exact congrArg (fun column => Except.ok (column, _)) hcolumn.symm

/-- A header whose value can be written is rejected for not naming a field, and only for that. -/
theorem valueColumn_eq_error_iff (hprints : header.value.Prints request.digits)
    {failure : Failure} :
    valueColumn request value header = .error failure ↔
      ∃ rejection, Offends request value header rejection ∧ failure = .rejected rejection := by
  rw [valueColumn, bind_eq_error_iff, columnName_eq_error_iff hprints]
  constructor
  · rintro (⟨fault, hfault, rfl⟩ | ⟨name, hname, h⟩)
    · have hnone := Header.exists_text_eq_error_iff.mp ⟨fault, hfault⟩
      exact ⟨_, .undecodable hnone hfault, rfl⟩
    · have hname : header.Renders name := (columnName_eq_ok_iff.mp hname).2
      cases hfield : value.field? name with
      | none =>
        rw [hfield] at h
        have hnot : name ∉ value.fieldNames := Schema.field?_eq_none_iff.mp hfield
        exact ⟨_, .missing hname hnot, (Except.error.inj h).symm⟩
      | some field =>
        rw [hfield] at h
        cases h
  · rintro ⟨rejection, hoffends, rfl⟩
    cases hoffends with
    | undecodable hnone hfault => exact .inl ⟨_, hfault, rfl⟩
    | @missing name hname hnot =>
      refine .inr ⟨name, columnName_eq_ok_iff.mpr ⟨hprints, hname⟩, ?_⟩
      have hfield : value.field? name = none := Schema.field?_eq_none_iff.mpr hnot
      rw [hfield]
      rfl

/-- A header has a column if its value can be written and names a field. -/
theorem exists_valueColumn_iff :
    (∃ entry, valueColumn request value header = .ok entry) ↔
      header.value.Prints request.digits ∧ NamesField value header := by
  constructor
  · rintro ⟨⟨column, sourced⟩, h⟩
    obtain ⟨hprints, hname, hfield, -⟩ := valueColumn_eq_ok_iff.mp h
    exact ⟨hprints, column.name, hname, KeyColumns.exists_isField_iff.mp ⟨column, hfield⟩⟩
  · rintro ⟨hprints, name, hname, hmem⟩
    obtain ⟨field, hfield⟩ := Schema.exists_field?_iff.mpr hmem
    exact ⟨(⟨name, field.schema, true⟩, request.key.any (refersToKey · header.key)),
      valueColumn_eq_ok_iff.mpr ⟨hprints, hname, ⟨field, hfield, rfl⟩, any_refersToKey_iff⟩⟩

/-! ## All headers -/

/-- The key columns of the columns that headers name, with those that are read from the record's
key marked. -/
def ofFound (found : List (Column × Bool)) : KeyColumns where
  columns := Column.firstByName (found.map Prod.fst)
  keySourced := some ((found.filter Prod.snd).map fun entry => entry.1.name).eraseDups

/-- Nothing fails after the loop over the headers, since its columns have distinct names. -/
theorem fromValue_eq_bind (hvalue : request.value = some value) :
    fromValue request =
      request.headers.mapM (valueColumn request value) >>= fun found => .ok (ofFound found) := by
  rw [fromValue, hvalue]
  refine bind_congr fun found => ?_
  exact KeyColumns.make_of_nodup (Column.nodup_names_firstByName _)

/-- There is a key exactly if every header has a column. -/
theorem exists_fromValue_iff (hvalue : request.value = some value) :
    (∃ key, fromValue request = .ok key) ↔
      request.Prints ∧ ∀ header ∈ request.headers, NamesField value header := by
  rw [fromValue_eq_bind hvalue, KeyRequest.Prints, ← forall₂_and]
  constructor
  · rintro ⟨key, h⟩ header hheader
    obtain ⟨found, hfound, -⟩ := bind_eq_ok_iff.mp h
    exact exists_valueColumn_iff.mp (exists_mapM_eq_ok_iff.mp ⟨found, hfound⟩ header hheader)
  · intro h
    obtain ⟨found, hfound⟩ := exists_mapM_eq_ok_iff.mpr fun header hheader =>
      exists_valueColumn_iff.mpr (h header hheader)
    exact ⟨ofFound found, bind_eq_ok_iff.mpr ⟨found, hfound, rfl⟩⟩

/-- The columns of the key are those that the headers name, and those that are read from the
record's key are named by headers that refer to it. -/
theorem namedByValue_of_fromValue (hvalue : request.value = some value) {key : KeyColumns}
    (h : fromValue request = .ok key) : NamedByValue request value key := by
  rw [fromValue_eq_bind hvalue] at h
  obtain ⟨found, hfound, hkey⟩ := bind_eq_ok_iff.mp h
  obtain rfl := Except.ok.inj hkey
  -- Column by column: its name, its field and its mark are those of one header.
  have hentries : List.Forall₂ (fun header (entry : Column × Bool) =>
      header.Renders entry.1.name ∧ KeyColumns.IsField value entry.1.name entry.1 ∧
        (entry.2 = true ↔ RefersToKey request header)) request.headers found :=
    (mapM_eq_ok_iff.mp hfound).imp fun header entry h => (valueColumn_eq_ok_iff.mp h).2
  constructor
  case columns =>
    refine ⟨found.map fun entry => entry.1.name, ?_, ?_⟩
    · exact List.forall₂_map_right_iff.mpr (hentries.imp fun _ _ hentry => hentry.1)
    · have hnames : (Column.firstByName (found.map Prod.fst)).map Column.name =
          (found.map fun entry => entry.1.name).eraseDups := by
        rw [Column.names_firstByName, List.map_map]
        rfl
      rw [← hnames, List.forall₂_map_left_iff]
      refine List.forall₂_same.mpr ?_
      intro column hcolumn
      obtain ⟨entry, hentry, rfl⟩ := List.mem_map.mp (Column.mem_of_mem_firstByName hcolumn)
      exact forall_of_forall₂ (hentries.imp fun _ _ hentry => hentry.2.1) entry hentry
  case keySourced =>
    refine ⟨_, rfl, List.forall₂_map_right_iff.mpr ?_⟩
    -- Marked entries belong to headers that refer to the key, so both filters keep the same places.
    have hkept := List.rel_filter
      (fun header entry hentry => decide_eq_true_iff.trans hentry.2.2.symm) hentries
    exact hkept.imp fun _ _ hentry => hentry.1

/-- Headers stand for at most one list of texts. -/
theorem rightUnique_renders : Relator.RightUnique (List.Forall₂ Header.Renders) :=
  Relator.RightUnique.forall₂ fun _ _ _ => Header.Renders.unique

/-- The headers and the value determine the key. -/
theorem NamedByValue.unique {key key' : KeyColumns} (h : NamedByValue request value key)
    (h' : NamedByValue request value key') : key = key' := by
  have hfields : Relator.RightUnique (List.Forall₂ (KeyColumns.IsField value)) := by
    refine Relator.RightUnique.forall₂ ?_
    rintro name _ _ ⟨field, hfield, rfl⟩ ⟨field', hfield', rfl⟩
    rw [hfield] at hfield'
    rw [Option.some.inj hfield']
  -- What the headers stand for is determined, and so are the fields of these names.
  obtain ⟨⟨names, hnames, hcolumns⟩, ⟨sourced, hsourced, hrefer⟩⟩ := h
  obtain ⟨⟨names', hnames', hcolumns'⟩, ⟨sourced', hsourced', hrefer'⟩⟩ := h'
  obtain rfl := rightUnique_renders hnames hnames'
  obtain rfl := rightUnique_renders hrefer hrefer'
  have heq := hfields hcolumns hcolumns'
  cases key
  cases key'
  simp_all

/-- Where the headers name a key, each of them names a field. -/
theorem NamedByValue.namesField {key : KeyColumns} (h : NamedByValue request value key) :
    ∀ header ∈ request.headers, NamesField value header := by
  obtain ⟨⟨names, hnames, hcolumns⟩, -⟩ := h
  have hfields : ∀ name ∈ names, name ∈ value.fieldNames := by
    intro name hname
    obtain ⟨column, -, hfield⟩ :=
      exists_of_forall₂ hcolumns name (List.mem_eraseDups.mpr hname)
    exact KeyColumns.exists_isField_iff.mp ⟨column, hfield⟩
  intro header hheader
  obtain ⟨name, hname, hrenders⟩ := exists_of_forall₂ hnames header hheader
  exact ⟨name, hrenders, hfields name hname⟩

/-- The key is the one that the headers name, if their values can be written. -/
theorem fromValue_eq_ok_iff (hvalue : request.value = some value) {key : KeyColumns} :
    fromValue request = .ok key ↔ request.Prints ∧ NamedByValue request value key := by
  constructor
  · intro h
    exact ⟨((exists_fromValue_iff hvalue).mp ⟨key, h⟩).1, namedByValue_of_fromValue hvalue h⟩
  · rintro ⟨hprints, h⟩
    obtain ⟨key', hkey'⟩ := (exists_fromValue_iff hvalue).mpr ⟨hprints, h.namesField⟩
    rw [hkey', (namedByValue_of_fromValue hvalue hkey').unique h]

section Printing

variable (hprints : request.Prints)
include hprints

/-- The earliest header that names no field is the one that the derivation rejects. -/
theorem fromValue_eq_error_iff (hvalue : request.value = some value) {failure : Failure} :
    fromValue request = .error failure ↔
      ∃ before header after rejection, request.headers = before ++ header :: after ∧
        (∀ earlier ∈ before, NamesField value earlier) ∧
        Offends request value header rejection ∧ failure = .rejected rejection := by
  rw [fromValue_eq_bind hvalue, bind_eq_error_iff]
  constructor
  · rintro (h | ⟨found, -, h⟩)
    · obtain ⟨before, header, after, hsplit, hbefore, hheader⟩ := mapM_eq_error_iff.mp h
      have hprints' := hprints header (hsplit ▸ List.mem_append_cons_self)
      obtain ⟨rejection, hoffends, hfailure⟩ := (valueColumn_eq_error_iff hprints').mp hheader
      exact ⟨before, header, after, rejection, hsplit,
        fun earlier hearlier => (exists_valueColumn_iff.mp (hbefore earlier hearlier)).2,
        hoffends, hfailure⟩
    · cases h
  · rintro ⟨before, header, after, rejection, hsplit, hbefore, hoffends, hfailure⟩
    have hprints' := hprints header (hsplit ▸ List.mem_append_cons_self)
    -- The headers before the one at fault have to name fields, else one of them would be reported.
    have hearlier : ∀ earlier ∈ before, ∃ entry, valueColumn request value earlier = .ok entry := by
      intro earlier hmem
      have hheader : earlier ∈ request.headers := hsplit ▸ List.mem_append_left _ hmem
      exact exists_valueColumn_iff.mpr ⟨hprints earlier hheader, hbefore earlier hmem⟩
    exact .inl (mapM_eq_error_iff.mpr ⟨before, header, after, hsplit, hearlier,
      (valueColumn_eq_error_iff hprints').mpr ⟨rejection, hoffends, hfailure⟩⟩)

/-- The derivation ends as described, and in no other way. -/
theorem fromValue_eq_iff {outcome : Except Failure KeyColumns} :
    fromValue request = outcome ↔ ValueOutcome request outcome := by
  constructor
  · rintro rfl
    cases hvalue : request.value with
    | none =>
      rw [fromValue, hvalue]
      exact .absent hvalue
    | some value =>
      -- With a value there, only a header can be in the way.
      cases h : fromValue request with
      | ok key => exact .named hvalue ((fromValue_eq_ok_iff hvalue).mp h).2
      | error failure =>
        obtain ⟨before, header, after, rejection, hsplit, hbefore, hoffends, rfl⟩ :=
          (fromValue_eq_error_iff hprints hvalue).mp h
        exact .offends hvalue hsplit hbefore hoffends
  · intro h
    cases h with
    | absent hvalue =>
      rw [fromValue, hvalue]
      rfl
    | offends hvalue hsplit hbefore hoffends =>
      exact (fromValue_eq_error_iff hprints hvalue).mpr
        ⟨_, _, _, _, hsplit, hbefore, hoffends, rfl⟩
    | named hvalue hkey => exact (fromValue_eq_ok_iff hvalue).mpr ⟨hprints, hkey⟩

end Printing

/-! ## The branch -/

/-- The columns come from the value unless it is absent and the record deletes or is written by its
key. -/
theorem derive_eq_fromValue (hbranch : request.value.isSome = true ∨
    request.deleteEnabled = false ∧ request.insertMode ≠ .upsert) :
    Key.derive .flatten request = fromValue request := by
  have hvalueSourced : branch request.value.isSome request.deleteEnabled request.insertMode ≠
      .keySourced := by
    rw [Ne, branch_eq_keySourced_iff]
    rintro ⟨habsent, hdelete | hupsert⟩
    · simp_all
    · simp_all
  show Flatten.derive request = fromValue request
  unfold Flatten.derive
  split
  · next h => exact absurd h hvalueSourced
  · rfl

/-- The key of a record with a value is the one that its headers name there. -/
theorem derive_eq_ok_iff_namedByValue (hvalue : request.value = some value) {key : KeyColumns} :
    Key.derive .flatten request = .ok key ↔ request.Prints ∧ NamedByValue request value key := by
  have hpresent : request.value.isSome = true := by
    rw [hvalue]
    rfl
  rw [derive_eq_fromValue (.inl hpresent), fromValue_eq_ok_iff hvalue]

/-- A record that has a value, or that may neither delete nor be written by its key, gets a key
exactly if it has a value and every header names a field there. Which key that is, or else which
rejection, is as described. It is taken for granted that the values of headers can be written. -/
theorem derive_valueSourced_iff (request : KeyRequest) (hprints : request.Prints)
    (hbranch : request.value.isSome = true ∨
      request.deleteEnabled = false ∧ request.insertMode ≠ .upsert) :
    ((∃ key, Key.derive .flatten request = .ok key) ↔
      ∃ value, request.value = some value ∧ ∀ header ∈ request.headers, NamesField value header) ∧
    ∀ outcome, Key.derive .flatten request = outcome ↔ ValueOutcome request outcome := by
  rw [derive_eq_fromValue hbranch]
  refine ⟨?_, fun outcome => fromValue_eq_iff hprints⟩
  constructor
  · rintro ⟨key, hkey⟩
    cases (fromValue_eq_iff hprints).mp hkey with
    | named hvalue hnamed => exact ⟨_, hvalue, hnamed.namesField⟩
  · rintro ⟨value, hvalue, hnames⟩
    exact (exists_fromValue_iff hvalue).mpr ⟨hprints, hnames⟩

/-- A record whose headers name the column `b` first. The column `a`, named twice, comes first among
those read from the record's key, to which only the later header of `b` refers. -/
def crossedRequest : KeyRequest where
  table := "orders"
  key := some { Schema.ofType .struct false with
    fields := Schema.numbered [("id", .ofType .int32 false), ("at", .ofType .int64 false)] }
  value := some { Schema.ofType .struct false with
    fields := Schema.numbered [("a", .ofType .string true), ("b", .ofType .int32 false)] }
  headers := [⟨"x", .text "b"⟩, ⟨"id", .bytes [97]⟩, ⟨"y", .text "a"⟩, ⟨"at", .text "b"⟩]

theorem crossedRequest_derive :
    crossedRequest.Prints ∧ crossedRequest.value.isSome = true ∧
      ∃ key, ValueOutcome crossedRequest (.ok key) ∧ key.names = ["b", "a"] ∧
        key.keySourced = some ["a", "b"] := by
  have hprints : crossedRequest.Prints := KeyRequest.prints_of_unlimited rfl
  have hbranch : crossedRequest.value.isSome = true := rfl
  refine ⟨hprints, hbranch, _,
    ((derive_valueSourced_iff crossedRequest hprints (.inl hbranch)).2 _).mp rfl, ?_⟩
  decide

end TableLayout.Flatten
