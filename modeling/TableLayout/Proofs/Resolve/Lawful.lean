import TableLayout.Proofs.Header
import TableLayout.Proofs.Resolve.Steps

/-!
# Lawful layouts

What every resolved layout may be relied on for, and what no resolution ends in.

- `Layout.Lawful`: the names of the key columns and of the others part the columns between them, the
  columns of the key are those marked so, and only where headers name the columns are there names
  that are read from the record's key.
- `Resolve.lawful_of_resolve`: the layout of a resolution is lawful under the mode that was given.
- `Resolve.Exceeds`: the record holds a number that is too long to be written.
- `Resolve.ends_without_defect`: no resolution and no derivation of a key ends in a defect, where
  the record holds no such number.
-/

namespace TableLayout

/-- What holds for a layout under a mode. -/
structure Layout.Lawful (mode : KeyMode) (layout : Layout) : Prop where
  keyDistinct : layout.keyNames.Nodup
  otherDistinct : layout.otherNames.Nodup
  disjoint : ∀ name ∈ layout.keyNames, name ∉ layout.otherNames
  covers : ∀ name, name ∈ layout.columns.names ↔
    name ∈ layout.keyNames ∨ name ∈ layout.otherNames
  nonempty : layout.columns.names ≠ []
  ownName : ∀ name column, (name, column) ∈ layout.columns.entries → column.name = name
  isKey_iff : ∀ name column, (name, column) ∈ layout.columns.entries →
    (column.isKey = true ↔ name ∈ layout.keyNames)
  required : ∀ name column, (name, column) ∈ layout.columns.entries → name ∈ layout.keyNames →
    column.isOptional = false
  plain : mode ≠ .flatten → layout.keySourced = none
  sourced : mode = .flatten →
    ∃ names, layout.keySourced = some names ∧ names.Nodup ∧ ∀ name ∈ names, name ∈ layout.keyNames

/-- A lawful key makes a lawful layout with other columns that lie outside the key. -/
theorem Layout.Joins.lawful {mode : KeyMode} {key : KeyColumns} {others : List Column}
    {layout : Layout} (h : layout.Joins key others) (hkey : key.Lawful mode)
    (hothers : ∀ column ∈ others, column.name ∉ key.names ∧ column.isKey = false)
    (hdistinct : (Resolve.allNames key others).Nodup) (hnonempty : key.columns ++ others ≠ []) :
    layout.Lawful mode := by
  obtain ⟨hkeyDistinct, hotherDistinct, hdisjoint⟩ := List.nodup_append.mp hdistinct
  have hisKey : ∀ name column, (name, column) ∈ layout.columns.entries →
      (column.isKey = true ↔ name ∈ layout.keyNames) := by
    intro name column hentry
    obtain ⟨rfl, hcolumn⟩ := h.mem_entries_iff.mp hentry
    rw [h.keyNames]
    -- A column of the key has its name there; any other column is neither marked nor named so.
    rcases hcolumn with hcolumn | hcolumn
    · exact iff_of_true (hkey.isKey column hcolumn) (List.mem_map_of_mem hcolumn)
    · obtain ⟨hnot, hfalse⟩ := hothers column hcolumn
      exact iff_of_false (Bool.eq_false_iff.mp hfalse) hnot
  constructor
  case keyDistinct => rwa [h.keyNames]
  case otherDistinct => rwa [h.otherNames]
  case disjoint =>
    rw [h.keyNames, h.otherNames]
    exact fun name hname hother => hdisjoint name hname name hother rfl
  case covers =>
    intro name
    rw [h.names_eq, List.mem_append]
  case nonempty => exact h.names_ne_nil hnonempty
  case ownName => exact fun name column hentry => (h.mem_entries_iff.mp hentry).1
  case isKey_iff => exact hisKey
  case required =>
    intro name column hentry hname
    exact Column.isOptional_of_isKey ((hisKey name column hentry).mpr hname)
  case plain =>
    rw [h.keySourced]
    exact hkey.plain
  case sourced =>
    rw [h.keySourced, h.keyNames]
    exact hkey.sourced

namespace Resolve

variable {given : Datum} {whitelist : List String} {request : KeyRequest}

/-- What is given as the mode, or the value of a header, goes beyond the limit on the digits of
numbers. -/
def Exceeds (given : Datum) (request : KeyRequest) (most : Nat) : Prop :=
  request.digits = some most ∧ given.fits most = false ∨ request.Exceeds most

/-- Nothing goes beyond the limit where all can be written. -/
theorem not_exceeds (hgiven : given.Prints request.digits) (hprints : request.Prints)
    (most : Nat) : ¬Exceeds given request most := by
  rintro (⟨hlimit, hlong⟩ | hlong)
  · exact absurd (hgiven most hlimit) (Bool.eq_false_iff.mp hlong)
  · exact hprints.not_exceeds most hlong

theorem Exceeds.limit {most : Nat} (h : Exceeds given request most) :
    request.digits = some most := by
  rcases h with ⟨hlimit, -⟩ | ⟨hlimit, -⟩ <;> exact hlimit

/-- Looking at the mode settles, unless it has to be shown and cannot be written. -/
theorem modeOf_settles :
    Settles (Exceeds given request) (fun mode => given = .text mode.text)
      (Key.modeOf request.table given request.digits) := by
  cases h : Key.modeOf request.table given request.digits with
  | ok mode => exact .ok (modeOf_eq_ok_iff.mp h)
  | error failure =>
    obtain ⟨-, ⟨-, rfl⟩ | ⟨most, hlong, rfl⟩⟩ := modeOf_eq_error_iff.mp h
    · exact .rejected _
    · exact .longNumber (.inl hlong)

/-- With a proper schema of the record's value every step settles, and so does the chain. -/
theorem resolve_settles (hvalue : ∀ value ∈ request.value, value.check = .ok value) :
    Settles (Exceeds given request) (fun _ => True)
      (resolve given whitelist request).outcome := by
  rw [outcome_resolve]
  refine modeOf_settles.bind fun mode _ => ?_
  have hshape : Settles (Exceeds given request) (fun _ => checkValue mode request = .ok ())
      (checkValue mode request) := by
    refine .of_error fun failure h => ?_
    obtain ⟨value, -, -, rfl⟩ := checkValue_eq_error_iff.mp h
    exact ⟨_, rfl⟩
  have hderive : Settles (Exceeds given request) (KeyColumns.Lawful mode)
      (Key.derive mode request) := (Key.derive_settles request mode).weaken fun _ => .inr
  refine hshape.bind fun _ _ => hderive.bind fun key hkey => ?_
  -- Only here does it matter that no field of the value comes twice.
  have hjoined : Settles (Exceeds given request) _ (joined whitelist request mode key) :=
    .of_error fun failure h => ⟨_, ((joined_eq_error_iff hkey hvalue).mp h).2⟩
  exact hjoined.imp fun _ _ => trivial

/-! ## What may be relied on -/

/-- The layout of a resolution is lawful under the mode that was given. -/
theorem lawful_of_resolve {layout : Layout}
    (h : (resolve given whitelist request).outcome = .ok layout) :
    ∃ mode : KeyMode, given = .text mode.text ∧ layout.Lawful mode := by
  rw [outcome_resolve] at h
  obtain ⟨mode, hmode, h⟩ := bind_eq_ok_iff.mp h
  obtain ⟨-, -, h⟩ := bind_eq_ok_iff.mp h
  obtain ⟨key, hkey, h⟩ := bind_eq_ok_iff.mp h
  -- The last two steps give what a layout has beside its key: a column, and distinct names.
  obtain ⟨hnonempty, hlayout⟩ := joined_eq_ok_iff.mp h
  obtain ⟨hjoins, hdistinct, -⟩ := layout_eq_ok_iff.mp hlayout
  refine ⟨mode, modeOf_eq_ok_iff.mp hmode, ?_⟩
  exact hjoins.lawful (Key.lawful_of_derive hkey) (fun _ => mem_remaining) hdistinct hnonempty

/-- A record whose headers name two of the three fields of its value, one of them twice and one of
them in the record's key. -/
def namedRequest : KeyRequest where
  table := "orders"
  key := some { Schema.ofType .struct false with
    fields := Schema.numbered [("id", .ofType .int32 false)] }
  value := some { Schema.ofType .struct false with
    fields := Schema.numbered [("id", .ofType .int32 false), ("a", .ofType .string true),
      ("b", .ofType .string true)] }
  headers := [⟨"x", .text "b"⟩, ⟨"id", .bytes [97]⟩, ⟨"y", .text "b"⟩]

theorem lawful_namedRequest :
    ∃ layout, (resolve (.text "flatten") ["a"] namedRequest).outcome = .ok layout ∧
      layout.keyNames = ["b", "a"] ∧ layout.otherNames = ["id"] ∧
      layout.keySourced = some ["a"] ∧
      ∃ mode : KeyMode, Datum.text "flatten" = .text mode.text ∧ layout.Lawful mode := by
  have houtcome : (resolve (.text "flatten") ["a"] namedRequest).outcome = .ok _ := rfl
  exact ⟨_, houtcome, rfl, rfl, rfl, lawful_of_resolve houtcome⟩

/-- No resolution of a record whose value is a proper schema ends in a defect, and no derivation of
a key does at all, where the mode that is given and the values of headers can be written. Nor does
the printing of headers in rejections fail: a header that stands for no text is quoted. Where there
is a limit on the digits of numbers, and only there, a value that goes beyond it is the one thing
that may still be in the way. -/
theorem ends_without_defect :
    (∀ given whitelist request, (∀ value ∈ request.value, value.check = .ok value) →
      given.Prints request.digits → request.Prints →
      (∃ layout, (resolve given whitelist request).outcome = .ok layout) ∨
        ∃ rejection, (resolve given whitelist request).outcome = .error (.rejected rejection)) ∧
    (∀ mode request, request.Prints → (∃ key, Key.derive mode request = .ok key) ∨
      ∃ rejection, Key.derive mode request = .error (.rejected rejection)) ∧
    (∀ request : KeyRequest, request.Prints →
      request.shownHeaders = .ok (Header.shownAll request.headers)) ∧
    (∀ header : Header, header.Renders header.shownValue ∨
      (∀ name, ¬header.Renders name) ∧ header.shownValue = header.value.quoted) ∧
    (∀ given whitelist request defect, (∀ value ∈ request.value, value.check = .ok value) →
      (resolve given whitelist request).outcome = .error (.defect defect) →
      ∃ most, request.digits = some most ∧ defect = .longNumber most) ∧
    ∀ mode request defect, Key.derive mode request = .error (.defect defect) →
      ∃ most, request.digits = some most ∧ defect = .longNumber most := by
  refine ⟨fun given whitelist request hvalue hgiven hprints => ?_, fun mode request hprints => ?_,
    fun request hprints => request.shownHeaders_eq hprints, Header.shownValue_spec,
    fun given whitelist request defect hvalue h => ?_, fun mode request defect h => ?_⟩
  -- Everything that is written can be written, so the limit on digits is out of the way.
  · exact (resolve_settles hvalue).ok_or_rejected (not_exceeds hgiven hprints)
  · exact (Key.derive_settles request mode).ok_or_rejected hprints.not_exceeds
  · obtain ⟨most, hlong, hdefect⟩ := (resolve_settles hvalue).of_defect h
    exact ⟨most, hlong.limit, hdefect⟩
  · obtain ⟨most, hlong, hdefect⟩ := (Key.derive_settles request mode).of_defect h
    exact ⟨most, hlong.1, hdefect⟩

/-- A record without value whose key is no struct, with two headers, one of them no text and the
other a number. -/
def undecodableRequest : KeyRequest where
  table := "orders"
  key := some (.ofType .string false)
  headers := [⟨"x", .bytes [255]⟩, ⟨"y", .int 10⟩]
  deleteEnabled := true
  digits := some 4300

theorem rejected_undecodableRequest :
    (∀ value ∈ undecodableRequest.value, value.check = .ok value) ∧
      (Datum.text "flatten").Prints undecodableRequest.digits ∧ undecodableRequest.Prints ∧
        ∃ rejection, (resolve (.text "flatten") [] undecodableRequest).outcome =
          .error (.rejected rejection) := by
  have hvalue : ∀ value ∈ undecodableRequest.value, value.check = .ok value := nofun
  have hgiven : (Datum.text "flatten").Prints undecodableRequest.digits := Datum.prints_text _ _
  have hprints : undecodableRequest.Prints := by
    intro header hheader most hmost
    obtain rfl := Option.some.inj hmost
    rcases List.mem_pair.mp hheader with rfl | rfl <;> rfl
  have hends := ends_without_defect.1 (.text "flatten") [] undecodableRequest hvalue hgiven hprints
  refine ⟨hvalue, hgiven, hprints, ?_⟩
  rcases hends with ⟨layout, h⟩ | h
  · cases h
  · exact h

end Resolve

end TableLayout
