import TableLayout.Proofs.Resolve.Steps

/-!
# Outcomes of a resolution

How a resolution ends, said case by case and not step by step.

- `Resolve.Outcome`: the outcomes that a record, a mode and a whitelist allow for. The cases exclude
  each other, for each takes it that the earlier ones do not apply.
- `Resolve.resolve_eq_iff`: a resolution has the outcome that is allowed for; in a layout the
  columns are those of the key followed by the remaining ones.
-/

namespace TableLayout.Resolve

/-- The outcomes of a resolution. -/
inductive Outcome (given : Datum) (whitelist : List String) (request : KeyRequest) :
    Except Failure Layout → Prop where
  /-- The mode has no known name. -/
  | unknownMode (hgiven : ∀ mode : KeyMode, given ≠ .text mode.text)
      (hprints : given.Prints request.digits) :
      Outcome given whitelist request
        (.error (.rejected ⟨request.table, .unknownMode given⟩))
  /-- The mode is no text at all and holds a number that is too long for a rejection. -/
  | longMode {most : Nat} (hgiven : ∀ text, given ≠ .text text)
      (hlimit : request.digits = some most) (hlong : given.fits most = false) :
      Outcome given whitelist request (.error (.defect (.longNumber most)))
  /-- The record's value is no struct, whatever its key may be. -/
  | valueShape {mode : KeyMode} {value : Schema} (hgiven : given = .text mode.text)
      (hvalue : request.value = some value) (hshape : value.type ≠ .struct) :
      Outcome given whitelist request
        (.error (.rejected ⟨request.table, .valueShape mode value.type⟩))
  /-- There is no key under the mode. -/
  | key {mode : KeyMode} {failure : Failure} (hgiven : given = .text mode.text)
      (hvalue : ∀ value ∈ request.value, value.type = .struct)
      (hkey : Key.derive mode request = .error failure) :
      Outcome given whitelist request (.error failure)
  /-- The key has no columns, and no field of the value remains. -/
  | noColumns {mode : KeyMode} {key : KeyColumns} (hgiven : given = .text mode.text)
      (hvalue : ∀ value ∈ request.value, value.type = .struct)
      (hkey : Key.derive mode request = .ok key) (hcolumns : key.columns = [])
      (hremaining : remaining mode whitelist request key = []) :
      Outcome given whitelist request (.error (.rejected ⟨request.table, .noColumns mode⟩))
  /-- The columns of the key come first, then the remaining ones. -/
  | layout {mode : KeyMode} {key : KeyColumns} {layout : Layout} (hgiven : given = .text mode.text)
      (hvalue : ∀ value ∈ request.value, value.type = .struct)
      (hkey : Key.derive mode request = .ok key)
      (hnonempty : key.columns ++ remaining mode whitelist request key ≠ [])
      (hjoins : layout.Joins key (remaining mode whitelist request key)) :
      Outcome given whitelist request (.ok layout)

variable {given : Datum} {whitelist : List String} {request : KeyRequest}

/-- Of the four steps the first that fails decides, and each failure is one of the cases. -/
theorem outcome_of_resolve (hvalue : ∀ value ∈ request.value, value.check = .ok value) :
    Outcome given whitelist request (resolve given whitelist request).outcome := by
  rw [outcome_resolve]
  rcases hmode : Key.modeOf request.table given request.digits with failure | mode
  · obtain ⟨hgiven, ⟨hprints, rfl⟩ | ⟨most, ⟨hlimit, hlong⟩, rfl⟩⟩ :=
      modeOf_eq_error_iff.mp hmode
    · exact .unknownMode hgiven hprints
    · exact .longMode (Datum.ne_text_of_fits_eq_false hlong) hlimit hlong
  have hgiven := modeOf_eq_ok_iff.mp hmode
  show Outcome _ _ _ (checkValue mode request >>= _)
  rcases hcheck : checkValue mode request with failure | _
  · obtain ⟨value, hpresent, hshape, rfl⟩ := checkValue_eq_error_iff.mp hcheck
    exact .valueShape hgiven hpresent hshape
  have hstruct := checkValue_eq_ok_iff.mp hcheck
  show Outcome _ _ _ (Key.derive mode request >>= _)
  rcases hkey : Key.derive mode request with failure | key
  · exact .key hgiven hstruct hkey
  have hlawful := Key.lawful_of_derive hkey
  show Outcome _ _ _ (joined whitelist request mode key)
  -- A lawful key leaves the lack of columns as the only way in which the last step fails.
  rcases hjoined : joined whitelist request mode key with failure | layout
  · obtain ⟨hempty, rfl⟩ := (joined_eq_error_iff hlawful hvalue).mp hjoined
    obtain ⟨hcolumns, hremaining⟩ := List.append_eq_nil_iff.mp hempty
    exact .noColumns hgiven hstruct hkey hcolumns hremaining
  · obtain ⟨hnonempty, hlayout⟩ := joined_eq_ok_iff.mp hjoined
    exact .layout hgiven hstruct hkey hnonempty (layout_eq_ok_iff.mp hlayout).1

/-- Under a known mode and with a value of the right shape the key comes next. -/
theorem outcome_resolve_of_mode {mode : KeyMode} (hgiven : given = .text mode.text)
    (hstruct : ∀ value ∈ request.value, value.type = .struct) :
    (resolve given whitelist request).outcome =
      Key.derive mode request >>= joined whitelist request mode := by
  rw [outcome_resolve, modeOf_eq_ok_iff.mpr hgiven]
  show checkValue mode request >>= _ = _
  rw [checkValue_eq_ok_iff.mpr hstruct]
  rfl

/-- Each case determines how the resolution ends. -/
theorem resolve_of_outcome (hvalue : ∀ value ∈ request.value, value.check = .ok value)
    {outcome : Except Failure Layout} (h : Outcome given whitelist request outcome) :
    (resolve given whitelist request).outcome = outcome := by
  -- In each case the steps before the one that fails pass.
  cases h with
  | unknownMode hgiven hprints =>
    rw [outcome_resolve, modeOf_eq_error_iff.mpr ⟨hgiven, .inl ⟨hprints, rfl⟩⟩]
    rfl
  | longMode hgiven hlimit hlong =>
    have hunknown : ∀ mode : KeyMode, given ≠ .text mode.text := fun mode => hgiven mode.text
    rw [outcome_resolve, modeOf_eq_error_iff.mpr ⟨hunknown, .inr ⟨_, ⟨hlimit, hlong⟩, rfl⟩⟩]
    rfl
  | valueShape hgiven hpresent hshape =>
    rw [outcome_resolve, modeOf_eq_ok_iff.mpr hgiven]
    show checkValue _ request >>= _ = _
    rw [checkValue_eq_error_iff.mpr ⟨_, hpresent, hshape, rfl⟩]
    rfl
  | key hgiven hstruct hkey =>
    rw [outcome_resolve_of_mode hgiven hstruct, hkey]
    rfl
  | noColumns hgiven hstruct hkey hcolumns hremaining =>
    rw [outcome_resolve_of_mode hgiven hstruct, hkey]
    refine (joined_eq_error_iff (Key.lawful_of_derive hkey) hvalue).mpr ⟨?_, rfl⟩
    rw [hcolumns, hremaining, List.append_nil]
  | layout hgiven hstruct hkey hnonempty hjoins =>
    rw [outcome_resolve_of_mode hgiven hstruct, hkey]
    refine joined_eq_ok_iff.mpr ⟨hnonempty, ?_⟩
    have hlayout : ∃ layout, Resolve.layout _ (remaining _ whitelist request _) = .ok layout :=
      exists_layout_remaining (Key.lawful_of_derive hkey) hvalue
    obtain ⟨layout, hlayout⟩ := hlayout
    rw [hlayout, (layout_eq_ok_iff.mp hlayout).1.eq hjoins]

/-- A resolution has the outcome that is allowed for. In a layout the key columns and those read
from the record's key are the ones that the mode derives, and the remaining columns follow them. -/
theorem resolve_eq_iff (given : Datum) (whitelist : List String) (request : KeyRequest)
    (hvalue : ∀ value ∈ request.value, value.check = .ok value) :
    (∀ outcome, (resolve given whitelist request).outcome = outcome ↔
      Outcome given whitelist request outcome) ∧
    ∀ layout, (resolve given whitelist request).outcome = .ok layout →
      ∃ mode key, given = .text mode.text ∧ Key.derive mode request = .ok key ∧
        layout.keyColumns = key.columns ∧ layout.keySourced = key.keySourced ∧
        layout.otherColumns = remaining mode whitelist request key ∧
        layout.columns.entries = (key.columns ++ remaining mode whitelist request key).map
          fun column => (column.name, column) := by
  have hiff : ∀ outcome, (resolve given whitelist request).outcome = outcome ↔
      Outcome given whitelist request outcome := by
    intro outcome
    constructor
    · rintro rfl
      exact outcome_of_resolve hvalue
    · exact resolve_of_outcome hvalue
  refine ⟨hiff, fun layout hlayout => ?_⟩
  cases (hiff _).mp hlayout with
  | layout hgiven _ hkey _ hjoins =>
    exact ⟨_, _, hgiven, hkey, hjoins.keyColumns_eq, hjoins.keySourced, hjoins.otherColumns_eq,
      hjoins.entries⟩

/-- A record whose key and value both have a field `id`, of different types. -/
def overlappingRequest : KeyRequest where
  table := "orders"
  key := some { Schema.ofType .struct false with
    fields := Schema.numbered [("id", .ofType .int64 false), ("at", .ofType .int32 false)] }
  value := some { Schema.ofType .struct false with
    fields := Schema.numbered [("note", .ofType .string true), ("id", .ofType .string false),
      ("name", .ofType .string true)] }

theorem overlappingRequest_outcome :
    (∀ value ∈ overlappingRequest.value, value.check = .ok value) ∧
      ∃ layout, Outcome (.text "record_key") ["name", "id"] overlappingRequest (.ok layout) ∧
        layout.columns.names = ["id", "at", "name"] ∧
        layout.columns.entries.map (·.2.schema.type) = [.int64, .int32, .string] := by
  have hvalue : ∀ value ∈ overlappingRequest.value, value.check = .ok value := by
    rintro _ ⟨⟩
    rfl
  have hresolve := resolve_eq_iff (.text "record_key") ["name", "id"] overlappingRequest hvalue
  exact ⟨hvalue, _, (hresolve.1 _).mp rfl, rfl, rfl⟩

end TableLayout.Resolve
