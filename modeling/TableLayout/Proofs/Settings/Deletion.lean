import TableLayout.CommandLine.Run
import TableLayout.Proofs.Resolve.Diagnosis
import TableLayout.Proofs.Settings.Reader

/-!
# Deletions under validated settings

Settings that are checked allow for deletions under two modes only, and under both of them a record
without value has its columns from its key. Neither the check nor the two derivations say so alone.

- `Settings.request`: what settings and a record give a resolution to read.
- `Rejection.missedIn?`: the part of a record in which a rejection misses something.
- `Key.source_eq_key`: under a mode that allows for deletions a record without value that may delete
  has its columns from its key.
- `Layout.KeyOnly`: a layout has no columns but those of the key.
- `Settings.deletion_needs_no_value`: under settings with deletions a record without value is never
  rejected for its value, and its layout has no columns but those of the key.
-/

namespace TableLayout

/-- What settings and a record give a resolution to read. -/
def Settings.request (settings : Settings) (table : String) (record : Record)
    (digits : Option Nat) : KeyRequest where
  table := table
  key := record.key
  value := record.value
  configured := settings.keyNames
  headers := record.headers
  deleteEnabled := settings.deleteEnabled
  insertMode := settings.insertMode
  digits := digits

/-- The layout under settings is that of the request that they make. -/
theorem Settings.resolve_eq (settings : Settings) (table : String) (record : Record)
    (digits : Option Nat) :
    settings.resolve table record digits =
      TableLayout.resolve (.text settings.keyMode.text) settings.whitelist
        (settings.request table record digits) :=
  rfl

/-! ## What is missed -/

/-- The part of a record that a rejection misses, or in which it misses a field. -/
def Rejection.missedIn? (rejection : Rejection) : Option Payload :=
  match rejection.cause with
  | .missingPayload _ payload | .missingField _ payload .. => some payload
  | _ => none

variable {request : KeyRequest} {mode : KeyMode} {payload : Payload} {rejection : Rejection}

/-- Something is missed only in the part of the record that the columns come from. -/
theorem Key.source_eq_of_missedIn? (hcause : Key.Arises request mode rejection.cause)
    (hmissed : rejection.missedIn? = some payload) : Key.source request mode = some payload := by
  obtain ⟨table, cause⟩ := rejection
  cases hcause with
  | missingPayload hsource | missingField hsource =>
    obtain rfl := Option.some.inj hmissed
    exact hsource
  | _ => cases hmissed

/-- The same for a whole resolution: apart from the derivation of the key, nothing is said to be
missed. -/
theorem Resolve.source_eq_of_missedIn? {whitelist : List String}
    (hcause : Resolve.Arises (.text mode.text) whitelist request rejection.cause)
    (hmissed : rejection.missedIn? = some payload) : Key.source request mode = some payload := by
  obtain ⟨table, cause⟩ := rejection
  cases hcause with
  | key hgiven hcause =>
    obtain rfl := Resolve.eq_of_text_eq hgiven
    exact Key.source_eq_of_missedIn? hcause hmissed
  | unknownMode | valueShape | noColumns => cases hmissed

/-- Under a mode that allows for deletions a record without value that may delete has its columns
from its key. -/
theorem Key.source_eq_key (hmode : Settings.canDelete mode = true) (hvalue : request.value = none)
    (hdeletes : request.deleteEnabled = true) : Key.source request mode = some .key := by
  cases mode with
  | recordKey => rfl
  | flatten =>
    -- Without a value, deletions make the headers' columns come from the key.
    have hbranch : Flatten.branch request.value.isSome request.deleteEnabled request.insertMode =
        .keySourced :=
      Flatten.branch_eq_keySourced_iff.mpr ⟨by rw [hvalue]; rfl, .inl hdeletes⟩
    rw [Key.source, Key.branchSource, hbranch]
  | none | kafka | recordValue => cases hmode

/-! ## Layouts of the key alone -/

/-- A layout has no columns but those of the key, and where headers name them, all of them are read
from the record's key. -/
structure Layout.KeyOnly (mode : KeyMode) (layout : Layout) : Prop where
  noOthers : layout.otherNames = []
  names : layout.columns.names = layout.keyNames
  isKey : ∀ name column, (name, column) ∈ layout.columns.entries → column.isKey = true
  sourced : mode = .flatten → layout.keySourced = some layout.keyNames

/-- A layout that joins no other columns to a key is one of the key alone. -/
theorem Layout.Joins.keyOnly {key : KeyColumns} {layout : Layout} (h : layout.Joins key [])
    (hkey : ∀ column ∈ key.columns, column.isKey = true)
    (hsourced : mode = .flatten → key.keySourced = some key.names) : layout.KeyOnly mode := by
  have hothers : layout.otherNames = [] := h.otherNames
  constructor
  case noOthers => exact hothers
  case names => rw [h.names_eq, hothers, List.append_nil]
  case isKey =>
    intro name column hentry
    rcases (h.mem_entries_iff.mp hentry).2 with hcolumn | hcolumn
    · exact hkey column hcolumn
    · exact absurd hcolumn List.not_mem_nil
  case sourced =>
    intro hmode
    rw [h.keySourced, h.keyNames]
    exact hsourced hmode

/-- Where headers name the columns, a record without value that may delete has all of them read from
its key. -/
theorem Flatten.keySourced_eq_names (hvalue : request.value = none)
    (hdeletes : request.deleteEnabled = true) {key : KeyColumns}
    (h : Key.derive .flatten request = .ok key) : key.keySourced = some key.names := by
  rw [Flatten.derive_eq_fromKey hvalue (.inl hdeletes)] at h
  obtain ⟨-, schema, -, hnamed⟩ := Flatten.fromKey_eq_ok_iff.mp h
  exact hnamed.keySourced_eq

/-- A record without value that may delete has a layout of its key alone, if it has one. -/
theorem Resolve.keyOnly_of_resolve {whitelist : List String} {layout : Layout}
    (hvalue : request.value = none) (hdeletes : request.deleteEnabled = true)
    (h : (resolve (.text mode.text) whitelist request).outcome = .ok layout) :
    layout.KeyOnly mode := by
  obtain ⟨key, hkey, hjoins⟩ := Resolve.exists_joins_of_resolve h
  -- The other columns are fields of the value, which is not there.
  have hremaining : Resolve.remaining mode whitelist request key = [] := by
    rw [Resolve.remaining, hvalue]
    rfl
  rw [hremaining] at hjoins
  refine hjoins.keyOnly (Key.lawful_of_derive hkey).isKey ?_
  rintro rfl
  exact Flatten.keySourced_eq_names hvalue hdeletes hkey

/-- Under settings that pass their check and have deletions on, a record without value is never
rejected because its value or a field of its value is missing. Its layout fails by a rejection, or
else because a number in its headers is too long to be written. If it has a layout, that has no
columns but those of the key. -/
theorem Settings.deletion_needs_no_value {description : Datum} {settings : Settings}
    (hsettings : Settings.ofDatum description = .ok settings)
    (hdeletes : settings.deleteEnabled = true) (table : String) (key : Option Schema)
    (headers : List Header) (digits : Option Nat) :
    (∀ failure, (settings.resolve table ⟨key, none, headers⟩ digits).outcome = .error failure →
      (∃ rejection, failure = .rejected rejection ∧ rejection.missedIn? ≠ some .value) ∨
        ∃ most, digits = some most ∧ (∃ header ∈ headers, header.value.fits most = false) ∧
          failure = .defect (.longNumber most)) ∧
    ∀ layout, (settings.resolve table ⟨key, none, headers⟩ digits).outcome = .ok layout →
      layout.KeyOnly settings.keyMode := by
  obtain ⟨entries, -, hread⟩ := Settings.ofDatum_eq_ok_iff.mp hsettings
  have hmode : Settings.canDelete settings.keyMode = true :=
    (Settings.read_eq_ok_iff.mp hread).2 hdeletes
  have hsource : Key.source (settings.request table ⟨key, none, headers⟩ digits)
      settings.keyMode = some .key := Key.source_eq_key hmode rfl hdeletes
  have hvalue : ∀ value ∈ (settings.request table ⟨key, none, headers⟩ digits).value,
      value.check = .ok value := fun _ h => nomatch h
  rw [Settings.resolve_eq]
  constructor
  · rintro (rejection | defect) hfailure
    · obtain ⟨-, hcause⟩ := Resolve.resolve_failsBy hvalue rejection hfailure
      refine .inl ⟨rejection, rfl, fun hmissed => ?_⟩
      -- What is missed would be missed in the key, from which the columns come.
      have hpayload : some Payload.key = some Payload.value :=
        hsource.symm.trans (Resolve.source_eq_of_missedIn? hcause hmissed)
      cases hpayload
    · obtain ⟨most, hlong, rfl⟩ := (Resolve.resolve_settles hvalue).of_defect hfailure
      -- The mode is a text, so that it is a header that holds the long number.
      rcases hlong with ⟨-, hmode⟩ | ⟨hlimit, hlong⟩
      · cases hmode
      · exact .inr ⟨most, hlimit, hlong, rfl⟩
  · intro layout hlayout
    exact Resolve.keyOnly_of_resolve rfl hdeletes hlayout

/-- Settings with deletions on and a mode under which headers name the columns. -/
def deletingDescription : Datum :=
  .map [(.text "pk_mode", .text " FLATTEN"), (.text "delete_enabled", .text "Yes")]

/-- A key with two fields. -/
def deletedKey : Schema :=
  { Schema.ofType .struct false with
    fields := Schema.numbered [("id", .ofType .int32 false), ("at", .ofType .int64 false)] }

theorem deletingDescription_keyOnly :
    ∃ settings layout, Settings.ofDatum deletingDescription = .ok settings ∧
      settings.deleteEnabled = true ∧
      (settings.resolve "orders" ⟨deletedKey, none,
        [⟨"at", .bytes [97]⟩, ⟨"id", .text "b"⟩]⟩ (some 4300)).outcome = .ok layout ∧
      layout.keyNames = ["a", "b"] ∧ layout.KeyOnly .flatten := by
  have hsettings : Settings.ofDatum deletingDescription =
      .ok { keyMode := .flatten, deleteEnabled := true } := by rfl
  have hneeds := Settings.deletion_needs_no_value hsettings rfl "orders" deletedKey
    [⟨"at", .bytes [97]⟩, ⟨"id", .text "b"⟩] (some 4300)
  exact ⟨_, _, hsettings, rfl, rfl, rfl, hneeds.2 _ rfl⟩

end TableLayout
