import TableLayout.Proofs.Header.Notation
import TableLayout.Proofs.Schema.Lawful
import TableLayout.Proofs.Schema.Misuse
import TableLayout.RecordFile

/-!
# What record files describe

A record file whose keys are texts describes a record, or something is wrong with it that is
reported: the first thing in the order in which it is read.

- `Record.SchemaUnder`: the schema under a key.
- `Record.Describes`, `Record.Loads`: the entries of a map and a file describe a record.
- `Record.Faults`, `Record.Fails`: what is wrong with entries and with a file.
- `Record.load_eq_ok_iff`, `Record.load_eq_error_iff`: loading a file.
- `Record.Fails.isMisuse_eq_false`: whatever is wrong with a file is reported.
- `Record.Documented`: a file in a documented form describes a record: it is null or a map.
- `Record.PassesForNull`: a value is in no documented form, and is taken for null.
- `Record.loads_iff_documented`, `Record.Refuses`, `Record.fails_iff_refuses`: what comes of a file,
  said without such values.
- `Record.load_documented`: loading accepts what is documented, and beyond that only the values that
  pass for null. `Record.load_falseValue`: it does accept these.
-/

namespace TableLayout

/-- Where all keys are texts, the keys are the texts among them. -/
theorem Datum.map_fst_of_textKeyed {entries : List (Datum × Datum)}
    (h : (Datum.map entries).TextKeyed) :
    entries.map Prod.fst = (entries.filterMap fun entry => entry.1.text?).map .text := by
  rw [textKeyed_map_iff] at h
  induction entries with
  | nil => rfl
  | cons entry entries ih =>
    obtain ⟨key, value⟩ := entry
    have hrest := ih fun k v hentry => h k v (List.mem_cons_of_mem _ hentry)
    have hkey := (h key value List.mem_cons_self).1
    cases key with
    | text name => simp [text?, hrest]
    | _ => cases hkey

/-- Keys that are texts can all be named, and they are named in sorted order. -/
theorem Datum.keyNames_map_text (names : List String) :
    keyNames (names.map .text) = .ok (Text.sorted names) := by
  unfold keyNames
  have htexts : (names.map Datum.text).filter (fun key => key.text?.isSome) = names.map .text :=
    List.filter_eq_self.mpr (List.forall_mem_map.mpr fun _ _ => rfl)
  have hothers : (names.map Datum.text).filter (fun key => !key.text?.isSome) = [] :=
    List.filter_eq_nil_iff.mpr (List.forall_mem_map.mpr fun _ _ => nofun)
  have hnames : (names.map Datum.text).filterMap text? = names := by
    rw [List.filterMap_map]
    exact List.filterMap_some
  rw [List.partition_eq_filter_filter]
  simp only [Function.comp_def, htexts, hothers, hnames]
  rfl

namespace Record

open Datum (get)

variable {entries : List (Datum × Datum)} {name : String} {record : Record} {error : RecordError}
  {digits : Option Nat}

/-! ## Schemas under keys -/

/-- Under a key there is a schema, or null or nothing in its place. -/
inductive SchemaUnder (entries : List (Datum × Datum)) (name : String) : Option Schema → Prop where
  | absent (h : get entries name = .null) : SchemaUnder entries name none
  | described {schema : Schema} (h : Schema.read (get entries name) = .ok schema) :
      SchemaUnder entries name (some schema)

/-- Null under a key is as good as nothing. -/
theorem schemaUnder_of_null (h : get entries name = .null) :
    schemaUnder entries name = .ok none := by
  rw [schemaUnder, h]

/-- Anything but null has to describe a schema. -/
theorem schemaUnder_of_ne_null (h : get entries name ≠ .null) :
    schemaUnder entries name =
      (some <$> Schema.read (get entries name)).mapError RecordError.schema := by
  unfold schemaUnder
  split
  · next hnull => exact absurd hnull h
  · cases Schema.read (get entries name) <;> rfl

/-- Null describes no schema, so that the cases of `SchemaUnder` exclude each other. -/
theorem read_null (schema : Schema) : Schema.read .null ≠ .ok schema := by
  rw [Schema.read] <;> simp

/-- What is read under a key is a schema that stands there, or none where there is none. -/
theorem schemaUnder_eq_ok_iff {schema? : Option Schema} :
    schemaUnder entries name = .ok schema? ↔ SchemaUnder entries name schema? := by
  -- Null never comes to the reader of schemas, which would refuse it.
  by_cases hnull : get entries name = .null
  · rw [schemaUnder_of_null hnull]
    constructor
    · intro h
      obtain rfl := Except.ok.inj h
      exact .absent hnull
    · intro h
      cases h with
      | absent => rfl
      | described hread => exact absurd (hnull ▸ hread) (read_null _)
  · rw [schemaUnder_of_ne_null hnull, mapError_eq_ok_iff, map_eq_ok_iff]
    constructor
    · rintro ⟨schema, hread, rfl⟩
      exact .described hread
    · intro h
      cases h with
      | absent h => exact absurd h hnull
      | described hread => exact ⟨_, hread, rfl⟩

/-- Reading under a key fails as the reader of schemas does. -/
theorem schemaUnder_eq_error_iff :
    schemaUnder entries name = .error error ↔
      get entries name ≠ .null ∧
        ∃ fault, Schema.read (get entries name) = .error fault ∧ error = .schema fault := by
  by_cases hnull : get entries name = .null
  · rw [schemaUnder_of_null hnull]
    exact ⟨nofun, fun h => absurd hnull h.1⟩
  · rw [schemaUnder_of_ne_null hnull]
    rw [mapError_eq_error_iff, and_iff_right hnull]
    exact exists_congr fun fault => and_congr map_eq_error_iff eq_comm

/-! ## Entries -/

/-- The texts among the keys of a record file that are no keys of a record. -/
def surplusNames (entries : List (Datum × Datum)) : List String :=
  (entries.filterMap fun entry => entry.1.text?).filter (· ∉ keys)

/-- The entries of a map describe a record, where keys of headers are written with whole numbers of
`digits` digits at most. -/
structure Describes (digits : Option Nat) (entries : List (Datum × Datum)) (record : Record) :
    Prop where
  noSurplus : surplusNames entries = []
  key : SchemaUnder entries "key_schema" record.key
  value : SchemaUnder entries "value_schema" record.value
  headers : Header.readAll (get entries "headers") digits = .ok record.headers

/-- What is wrong with the entries of a map, where nothing is that is read before. -/
inductive Faults (digits : Option Nat) (entries : List (Datum × Datum)) : RecordError → Prop where
  | surplusKeys (hkeys : surplusNames entries ≠ []) :
      Faults digits entries (.surplusKeys (Text.sorted (surplusNames entries)))
  | key {fault : SchemaError} (hkeys : surplusNames entries = [])
      (hgiven : get entries "key_schema" ≠ .null)
      (hread : Schema.read (get entries "key_schema") = .error fault) :
      Faults digits entries (.schema fault)
  | value {key : Option Schema} {fault : SchemaError} (hkeys : surplusNames entries = [])
      (hkey : SchemaUnder entries "key_schema" key) (hgiven : get entries "value_schema" ≠ .null)
      (hread : Schema.read (get entries "value_schema") = .error fault) :
      Faults digits entries (.schema fault)
  | headers {key value : Option Schema} {fault : HeaderError} (hkeys : surplusNames entries = [])
      (hkey : SchemaUnder entries "key_schema" key)
      (hvalue : SchemaUnder entries "value_schema" value)
      (hread : Header.readAll (get entries "headers") digits = .error fault) :
      Faults digits entries (.headers fault)

section Entries

variable (hentries : (Datum.map entries).TextKeyed)
include hentries

/-- The keys that no record has are the texts among them that name no part of one. -/
theorem surplusKeys_eq : Datum.surplusKeys keys entries = (surplusNames entries).map .text := by
  unfold Datum.surplusKeys surplusNames
  rw [Datum.map_fst_of_textKeyed hentries, List.filter_map]
  refine congrArg (List.map _) (List.filter_congr fun name _ => ?_)
  simp [List.any_eq]

/-- Surplus keys are reported by name, in sorted order. -/
theorem checkKeys_eq : checkKeys entries =
    if surplusNames entries = [] then .ok ()
    else .error (.surplusKeys (Text.sorted (surplusNames entries))) := by
  unfold checkKeys
  rw [surplusKeys_eq hentries]
  cases hnames : surplusNames entries with
  | nil => rfl
  | cons name names =>
    have hsorted := Datum.keyNames_map_text (name :: names)
    rw [List.map_cons] at hsorted ⊢
    simp only [hsorted]
    rfl

/-- The entries of a map are read as the record that they describe. -/
theorem readEntries_eq_ok_iff :
    readEntries entries digits = .ok record ↔ Describes digits entries record := by
  rw [readEntries, checkKeys_eq hentries]
  constructor
  · intro h
    obtain ⟨⟨⟩, hkeys, h⟩ := bind_eq_ok_iff.mp h
    obtain ⟨key, hkey, h⟩ := bind_eq_ok_iff.mp h
    obtain ⟨value, hvalue, h⟩ := bind_eq_ok_iff.mp h
    obtain ⟨headers, hheaders, h⟩ := bind_eq_ok_iff.mp h
    obtain rfl := Except.ok.inj h
    have hnone : surplusNames entries = [] := by
      by_contra hsurplus
      rw [if_neg hsurplus] at hkeys
      cases hkeys
    exact ⟨hnone, schemaUnder_eq_ok_iff.mp hkey, schemaUnder_eq_ok_iff.mp hvalue,
      mapError_eq_ok_iff.mp hheaders⟩
  · intro h
    rw [if_pos h.noSurplus, schemaUnder_eq_ok_iff.mpr h.key, schemaUnder_eq_ok_iff.mpr h.value,
      h.headers]
    rfl

/-- The first fault in the order of reading is the one that is reported. -/
theorem readEntries_eq_error_iff :
    readEntries entries digits = .error error ↔ Faults digits entries error := by
  rw [readEntries, checkKeys_eq hentries]
  constructor
  · intro h
    -- The steps in turn: the check of the keys, both schemas, and the headers.
    by_cases hkeys : surplusNames entries = []
    · rw [if_pos hkeys] at h
      rcases bind_eq_error_iff.mp h with h | ⟨⟨⟩, -, h⟩
      · cases h
      rcases bind_eq_error_iff.mp h with hkey | ⟨key, hkey, h⟩
      · obtain ⟨hgiven, fault, hread, rfl⟩ := schemaUnder_eq_error_iff.mp hkey
        exact .key hkeys hgiven hread
      have hkey := schemaUnder_eq_ok_iff.mp hkey
      rcases bind_eq_error_iff.mp h with hvalue | ⟨value, hvalue, h⟩
      · obtain ⟨hgiven, fault, hread, rfl⟩ := schemaUnder_eq_error_iff.mp hvalue
        exact .value hkeys hkey hgiven hread
      have hvalue := schemaUnder_eq_ok_iff.mp hvalue
      rcases bind_eq_error_iff.mp h with hheaders | ⟨headers, -, h⟩
      · obtain ⟨fault, hread, rfl⟩ := mapError_eq_error_iff.mp hheaders
        exact .headers hkeys hkey hvalue hread
      · cases h
    · rw [if_neg hkeys] at h
      obtain rfl := Except.error.inj h
      exact .surplusKeys hkeys
  · intro h
    cases h with
    | surplusKeys hkeys =>
      rw [if_neg hkeys]
      rfl
    | key hkeys hgiven hread =>
      rw [if_pos hkeys, schemaUnder_eq_error_iff.mpr ⟨hgiven, _, hread, rfl⟩]
      rfl
    | value hkeys hkey hgiven hread =>
      rw [if_pos hkeys, schemaUnder_eq_ok_iff.mpr hkey,
        schemaUnder_eq_error_iff.mpr ⟨hgiven, _, hread, rfl⟩]
      rfl
    | headers hkeys hkey hvalue hread =>
      rw [if_pos hkeys, schemaUnder_eq_ok_iff.mpr hkey, schemaUnder_eq_ok_iff.mpr hvalue, hread]
      rfl

/-- With texts as keys, whatever is wrong with the entries is reported. -/
theorem Faults.isMisuse_eq_false (h : Faults digits entries error) : error.isMisuse = false := by
  cases h with
  | surplusKeys => rfl
  | key _ _ hread => exact Schema.reports_read (hentries.get _) _ hread
  | value _ _ _ hread => exact Schema.reports_read (hentries.get _) _ hread
  | headers _ _ _ hread => exact Header.reports_readAll hread

end Entries

/-! ## Files -/

/-- The entries that the value of a record file holds: those of a map, or none where the value
counts as false. -/
def entriesOf? : Datum → Option (List (Datum × Datum))
  | .map entries => some entries
  | value => if value.isTrue then none else some []

/-- A record file describes a record. -/
def Loads (digits : Option Nat) (contents : Option Datum) (record : Record) : Prop :=
  ∃ value entries, contents = some value ∧ entriesOf? value = some entries ∧
    Describes digits entries record

/-- What is wrong with a record file, which is missing or holds a value. -/
inductive Fails (digits : Option Nat) (path : String) : Option Datum → RecordError → Prop where
  | missing : Fails digits path none (.missing path)
  | notAMap {value : Datum} (hvalue : entriesOf? value = none) :
      Fails digits path (some value) (.notAMap value.kind)
  | faults {value : Datum} {entries : List (Datum × Datum)} {error : RecordError}
      (hvalue : entriesOf? value = some entries) (herror : Faults digits entries error) :
      Fails digits path (some value) error

variable {path : String} {value : Datum} {contents : Option Datum}

/-- A value is read by its entries, if it holds any, and refused by its kind otherwise. -/
theorem read_eq (value : Datum) (digits : Option Nat) : read value digits =
    match entriesOf? value with
    | some entries => readEntries entries digits
    | none => .error (.notAMap value.kind) := by
  cases value with
  | map entries => cases entries <;> rfl
  | _ =>
    simp only [read, entriesOf?]
    split_ifs <;> rfl

theorem textKeyed_of_entriesOf? (hvalue : value.TextKeyed) (h : entriesOf? value = some entries) :
    (Datum.map entries).TextKeyed := by
  unfold entriesOf? at h
  split at h
  · obtain rfl := Option.some.inj h
    exact hvalue
  · split at h
    · cases h
    · obtain rfl := Option.some.inj h
      trivial

section Files

variable (hcontents : ∀ value ∈ contents, value.TextKeyed)
include hcontents

/-- A file is loaded as the record that it describes. -/
theorem load_eq_ok_iff : load path contents digits = .ok record ↔ Loads digits contents record := by
  unfold Loads
  cases contents with
  | none => exact ⟨nofun, fun ⟨_, _, h, _⟩ => nomatch h⟩
  | some value =>
    rw [load, read_eq]
    cases hvalue : entriesOf? value with
    | none => simp [hvalue]
    | some entries =>
      have hentries := textKeyed_of_entriesOf? (hcontents value rfl) hvalue
      simp [hvalue, readEntries_eq_ok_iff hentries]

/-- A file fails to load for the reasons of `Fails`, and for no other. -/
theorem load_eq_error_iff :
    load path contents digits = .error error ↔ Fails digits path contents error := by
  cases contents with
  | none =>
    constructor
    · rintro ⟨⟩
      exact .missing
    · rintro ⟨⟩
      rfl
  | some value =>
    rw [load, read_eq]
    -- A value with entries and a value without them are told apart in the file and in `Fails`
    -- alike.
    cases hvalue : entriesOf? value with
    | none =>
      constructor
      · rintro ⟨⟩
        exact .notAMap hvalue
      · intro h
        cases h with
        | notAMap => rfl
        | faults h => cases hvalue.symm.trans h
    | some entries =>
      have hentries := textKeyed_of_entriesOf? (hcontents value rfl) hvalue
      refine (readEntries_eq_error_iff hentries).trans ⟨.faults hvalue, fun h => ?_⟩
      cases h with
      | notAMap h => cases hvalue.symm.trans h
      | faults h herror =>
        obtain rfl := Option.some.inj (hvalue.symm.trans h)
        exact herror

theorem Fails.isMisuse_eq_false (h : Fails digits path contents error) :
    error.isMisuse = false := by
  cases h with
  | missing => rfl
  | notAMap => rfl
  | faults hvalue herror =>
    exact herror.isMisuse_eq_false (textKeyed_of_entriesOf? (hcontents _ rfl) hvalue)

end Files

/-! ## Documented files -/

/-- The record that nothing is said of. -/
def empty : Record :=
  ⟨none, none, []⟩

/-- A file in a documented form: null, for the record that nothing is said of, or a map whose
entries describe a record. -/
inductive Documented (digits : Option Nat) : Datum → Record → Prop where
  | null : Documented digits .null empty
  | map {entries : List (Datum × Datum)} {record : Record} (h : Describes digits entries record) :
      Documented digits (.map entries) record

/-- A value that is neither null nor a map, and yet counts as false. -/
structure PassesForNull (value : Datum) : Prop where
  notNull : value ≠ .null
  notMap : ∀ entries, value ≠ .map entries
  isTrue_eq : value.isTrue = false

/-- An error that reports on what a file holds. -/
structure ReportsContents (error : RecordError) : Prop where
  isMisuse_eq : error.isMisuse = false
  found : ∀ path, error ≠ .missing path

/-- No entries describe the empty record, and only that. -/
theorem describes_nil_iff : Describes digits [] record ↔ record = empty := by
  have hkeys : (Datum.map []).TextKeyed := trivial
  have hread : readEntries [] digits = .ok empty := rfl
  rw [← readEntries_eq_ok_iff hkeys, hread]
  exact ⟨fun h => (Except.ok.inj h).symm, fun h => h ▸ rfl⟩

theorem entriesOf?_of_passesForNull (h : PassesForNull value) : entriesOf? value = some [] := by
  unfold entriesOf?
  split
  · next entries => exact absurd rfl (h.notMap entries)
  · rw [h.isTrue_eq]
    rfl

/-- A value that counts as true holds no entries unless it is a map. -/
theorem entriesOf?_of_isTrue (hmap : ∀ entries, value ≠ .map entries)
    (htrue : value.isTrue = true) :
    entriesOf? value = none := by
  unfold entriesOf?
  split
  · next entries => exact absurd rfl (hmap entries)
  · rw [htrue]
    rfl

/-- The records that come of a value: those of the documented forms, and the empty one where a value
passes for null. -/
theorem loads_some_iff : Loads digits (some value) record ↔
    Documented digits value record ∨ PassesForNull value ∧ record = empty := by
  constructor
  · rintro ⟨_, entries, ⟨⟩, hentries, hdescribes⟩
    -- Three shapes: a map, a value that counts as true, and one that counts as false.
    by_cases hmap : ∃ entries, value = .map entries
    · obtain ⟨entries', rfl⟩ := hmap
      obtain rfl := Option.some.inj hentries
      exact .inl (.map hdescribes)
    have hmap : ∀ entries, value ≠ .map entries := fun entries h => hmap ⟨entries, h⟩
    cases htrue : value.isTrue with
    | true =>
      rw [entriesOf?_of_isTrue hmap htrue] at hentries
      cases hentries
    | false =>
      by_cases hnull : value = .null
      · subst hnull
        obtain rfl := Option.some.inj hentries
        obtain rfl := describes_nil_iff.mp hdescribes
        exact .inl .null
      · have hpasses : PassesForNull value := ⟨hnull, hmap, htrue⟩
        rw [entriesOf?_of_passesForNull hpasses] at hentries
        obtain rfl := Option.some.inj hentries
        exact .inr ⟨hpasses, describes_nil_iff.mp hdescribes⟩
  · rintro (h | ⟨h, rfl⟩)
    · cases h with
      | null => exact ⟨_, [], rfl, rfl, describes_nil_iff.mpr rfl⟩
      | map hdescribes => exact ⟨_, _, rfl, rfl, hdescribes⟩
    · exact ⟨_, [], rfl, entriesOf?_of_passesForNull h, describes_nil_iff.mpr rfl⟩

/-- Why a file is refused that is missing or in no documented form. Of a value that passes for null
nothing is said. -/
inductive Refuses (digits : Option Nat) (path : String) : Option Datum → RecordError → Prop where
  | missing : Refuses digits path none (.missing path)
  | notAMap {value : Datum} (hnull : value ≠ .null) (hmap : ∀ entries, value ≠ .map entries) :
      Refuses digits path (some value) (.notAMap value.kind)
  | faults {entries : List (Datum × Datum)} {error : RecordError}
      (herror : Faults digits entries error) :
      Refuses digits path (some (.map entries)) error

/-- Nothing is wrong with no entries. -/
theorem not_faults_nil : ¬Faults digits [] error := by
  intro h
  have hkeys : (Datum.map []).TextKeyed := trivial
  have herror := (readEntries_eq_error_iff hkeys).mpr h
  cases herror

/-- Apart from values that pass for null, files fail for exactly these reasons. -/
theorem fails_iff_refuses (hnull : ∀ value ∈ contents, ¬PassesForNull value) :
    Fails digits path contents error ↔ Refuses digits path contents error := by
  constructor
  · intro h
    cases h with
    | missing => exact .missing
    | @notAMap value hvalue =>
      refine .notAMap ?_ ?_
      · rintro rfl
        cases hvalue
      · rintro entries rfl
        cases hvalue
    | @faults value entries _ hvalue herror =>
      by_cases hmap : ∃ entries, value = .map entries
      · obtain ⟨_, rfl⟩ := hmap
        obtain rfl := Option.some.inj hvalue
        exact .faults herror
      -- What is no map and has entries counts as false, and has none of them.
      · have hmap : ∀ entries, value ≠ .map entries := fun entries h => hmap ⟨entries, h⟩
        have hfalse : value.isTrue = false := by
          by_contra htrue
          rw [entriesOf?_of_isTrue hmap ((Bool.not_eq_false _).mp htrue)] at hvalue
          cases hvalue
        by_cases hisNull : value = .null
        · subst hisNull
          obtain rfl := Option.some.inj hvalue
          exact absurd herror not_faults_nil
        · exact absurd ⟨hisNull, hmap, hfalse⟩ (hnull value rfl)
  · intro h
    cases h with
    | missing => exact .missing
    | @notAMap value hisNull hmap =>
      refine .notAMap (entriesOf?_of_isTrue hmap ?_)
      by_contra hfalse
      exact hnull value rfl ⟨hisNull, hmap, Bool.eq_false_iff.mpr hfalse⟩
    | faults herror => exact .faults rfl herror

/-- Apart from values that pass for null, records come of documented files alone. -/
theorem loads_iff_documented (hnull : ∀ value ∈ contents, ¬PassesForNull value) :
    Loads digits contents record ↔ ∃ value ∈ contents, Documented digits value record := by
  cases contents with
  | none =>
    constructor
    · rintro ⟨_, _, ⟨⟩, _⟩
    · rintro ⟨_, ⟨⟩, _⟩
  | some value =>
    rw [loads_some_iff, or_iff_left fun h => hnull value rfl h.1]
    constructor
    · exact fun h => ⟨value, rfl, h⟩
    · rintro ⟨_, ⟨⟩, h⟩
      exact h

/-- What is wrong with a file that is there is reported, and it is not that the file is missing. -/
theorem Fails.reportsContents (hvalue : value.TextKeyed)
    (h : Fails digits path (some value) error) :
    ReportsContents error := by
  refine ⟨h.isMisuse_eq_false (by rintro _ ⟨⟩; exact hvalue), fun path' => ?_⟩
  cases h with
  | notAMap => exact nofun
  | faults _ herror => cases herror <;> exact nofun

/-- Of the values that a file with texts as keys may hold, the documented ones are loaded as the
records that they describe, and so are those that pass for null, as the empty record. All others are
refused with a report; a value that is no map, and counts as true, by its kind. -/
theorem load_documented (digits : Option Nat) (path : String) {value : Datum}
    (hvalue : value.TextKeyed) :
    (∀ record, load path (some value) digits = .ok record ↔
      Documented digits value record ∨ PassesForNull value ∧ record = empty) ∧
    ((∀ record, ¬Documented digits value record) → ¬PassesForNull value →
      ∃ error, load path (some value) digits = .error error ∧ ReportsContents error) ∧
    ((∀ entries, value ≠ .map entries) → value.isTrue = true →
      load path (some value) digits = .error (.notAMap value.kind)) := by
  have hcontents : ∀ value' ∈ some value, value'.TextKeyed := by
    rintro _ ⟨⟩
    exact hvalue
  -- What is accepted decides on the rest, for loading ends in a record or in an error.
  have haccepts : ∀ record, load path (some value) digits = .ok record ↔
      Documented digits value record ∨ PassesForNull value ∧ record = empty :=
    fun record => (load_eq_ok_iff hcontents).trans loads_some_iff
  refine ⟨haccepts, fun hdocumented hpasses => ?_, fun hmap htrue => ?_⟩
  · cases hload : load path (some value) digits with
    | ok record =>
      rcases (haccepts record).mp hload with h | ⟨h, -⟩
      · exact absurd h (hdocumented record)
      · exact absurd h hpasses
    | error error =>
      exact ⟨error, rfl, Fails.reportsContents hvalue ((load_eq_error_iff hcontents).mp hload)⟩
  · exact (load_eq_error_iff hcontents).mpr (.notAMap (entriesOf?_of_isTrue hmap htrue))

/-- A file with a schema of the record's key, null in place of its value's, and two headers. -/
def keyedFile : Datum :=
  .map [(.text "headers", .list [.list [.text "pk", .text "id"], .list [.int 1, .null]]),
    (.text "key_schema", .text "int64"), (.text "value_schema", .null)]

/-- The record that it describes. -/
def keyedRecord : Record where
  key := some (.ofType .int64 false)
  value := none
  headers := [⟨"pk", .text "id"⟩, ⟨"1", .null⟩]

theorem load_keyedFile : keyedFile.TextKeyed ∧ Documented (some 4300) keyedFile keyedRecord ∧
    load "record.yaml" (some keyedFile) (some 4300) = .ok keyedRecord := by
  have hkeys : keyedFile.TextKeyed := by
    simp [keyedFile, Datum.TextKeyed, Datum.EntriesTextKeyed, Datum.ItemsTextKeyed, Datum.text?]
  have hkey : Schema.read (.text "int64") = .ok (.ofType .int64 false) :=
    Schema.read_eq_ok_iff.mpr (.inl ⟨_, _, _, rfl, rfl, rfl⟩)
  have hdocumented : Documented (some 4300) keyedFile keyedRecord :=
    .map ⟨by decide, .described hkey, .absent rfl, rfl⟩
  exact ⟨hkeys, hdocumented, ((load_documented _ "record.yaml" hkeys).1 _).mpr (.inl hdocumented)⟩

/-- A file that holds false is loaded, though it is neither null nor a map. -/
theorem load_falseValue : ¬ ∀ digits path value record, value.TextKeyed →
    load path (some value) digits = .ok record → Documented digits value record := by
  intro h
  cases h (some 4300) "record.yaml" (.bool false) empty trivial rfl

end Record

end TableLayout
