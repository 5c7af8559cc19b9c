import TableLayout.Proofs.Resolve.Join

/-!
# The steps of a resolution

A resolution looks at the mode, at the record's value, derives the key and joins its columns with
the remaining ones.

- `Resolve.outcome_resolve`: a resolution ends as the first of these steps that fails, or with the
  layout.
- `Resolve.modeOf_eq_ok_iff`, `Resolve.checkValue_eq_ok_iff`, `Resolve.joined_eq_ok_iff`, and the
  same with `error`: when a step passes, and how it fails.
- `Resolve.split_eq_ok_iff`, `Resolve.outcome_eq_ok_iff`: the parts that a layout is made of.
- `Resolve.LeadsTo`, `Resolve.outcome_eq_ok_iff_leadsTo`, `Resolve.outcome_text_eq_ok_iff`: the key
  that a layout is made of, and what it takes to be made.
- `Resolve.resolve_eq_of_split`: records with the same parts have the same outcome and events.
-/

namespace TableLayout.Resolve

/-! ## The mode -/

section Mode

variable {given : Datum} {table : String} {limit : Option Nat} {mode : KeyMode} {failure : Failure}

/-- A value names a mode exactly if it is the word for it. -/
theorem ofDatum?_eq_some_iff : KeyMode.ofDatum? given = some mode ↔ given = .text mode.text := by
  constructor
  · intro h
    cases given with
    | text s =>
      have hmode : KeyMode.ofText? s = some mode := h
      rw [KeyMode.eq_text_of_ofText? hmode]
    | _ => cases h
  · rintro rfl
    exact KeyMode.ofText?_text mode

/-- A value that names no mode is shown in the rejection, if it can be written. -/
theorem modeOf_of_unknown (h : ∀ mode : KeyMode, given ≠ .text mode.text) :
    Key.modeOf table given limit =
      given.requirePrints limit >>= fun _ => .error (.rejected ⟨table, .unknownMode given⟩) := by
  have hnone : KeyMode.ofDatum? given = none := by
    rw [Option.eq_none_iff_forall_ne_some]
    exact fun mode => mt ofDatum?_eq_some_iff.mp (h mode)
  rw [Key.modeOf, hnone]

theorem modeOf_eq_ok_iff : Key.modeOf table given limit = .ok mode ↔ given = .text mode.text := by
  constructor
  · intro h
    -- A value that names no mode ends in a failure, with or without a message.
    by_contra hgiven
    have hunknown : ∀ mode : KeyMode, given ≠ .text mode.text := by
      rintro mode' rfl
      rw [Key.modeOf, ofDatum?_eq_some_iff.mpr rfl] at h
      exact hgiven (by rw [Except.ok.inj h])
    rw [modeOf_of_unknown hunknown] at h
    obtain ⟨_, -, h⟩ := bind_eq_ok_iff.mp h
    cases h
  · rintro rfl
    rw [Key.modeOf, ofDatum?_eq_some_iff.mpr rfl]

/-- No two modes have one word. -/
theorem eq_of_text_eq {mode' : KeyMode} (h : Datum.text mode.text = .text mode'.text) :
    mode = mode' :=
  Option.some.inj ((ofDatum?_eq_some_iff.mpr rfl).symm.trans (ofDatum?_eq_some_iff.mpr h))

theorem modeOf_eq_error_iff :
    Key.modeOf table given limit = .error failure ↔
      (∀ mode : KeyMode, given ≠ .text mode.text) ∧
        (given.Prints limit ∧ failure = .rejected ⟨table, .unknownMode given⟩ ∨
          ∃ most, (limit = some most ∧ given.fits most = false) ∧
            failure = .defect (.longNumber most)) := by
  by_cases hgiven : ∃ mode : KeyMode, given = .text mode.text
  · obtain ⟨mode, hmode⟩ := hgiven
    rw [modeOf_eq_ok_iff.mpr hmode]
    exact iff_of_false nofun fun h => h.1 mode hmode
  · have hunknown : ∀ mode : KeyMode, given ≠ .text mode.text := fun mode h => hgiven ⟨mode, h⟩
    rw [modeOf_of_unknown hunknown, and_iff_right hunknown, bind_eq_error_iff,
      Datum.requirePrints_eq_error_iff, or_comm]
    refine or_congr_left ?_
    constructor
    · rintro ⟨⟨⟩, hprints, h⟩
      exact ⟨Datum.requirePrints_eq_ok_iff.mp hprints, (Except.error.inj h).symm⟩
    · rintro ⟨hprints, rfl⟩
      exact ⟨(), Datum.requirePrints_eq_ok_iff.mpr hprints, rfl⟩

end Mode

/-! ## The record's value -/

variable {given : Datum} {whitelist : List String} {request : KeyRequest} {mode : KeyMode}
  {key : KeyColumns} {layout : Layout} {failure : Failure}

theorem checkValue_eq_ok_iff :
    checkValue mode request = .ok () ↔ ∀ value ∈ request.value, value.type = .struct := by
  unfold checkValue
  cases request.value with
  | none => simp
  | some value =>
    by_cases hstruct : value.type = .struct <;> simp [Schema.isStruct, KeyRequest.reject, hstruct]

/-- A value that is no struct is rejected by its type. -/
theorem checkValue_eq_error_iff :
    checkValue mode request = .error failure ↔
      ∃ value, request.value = some value ∧ value.type ≠ .struct ∧
        failure = .rejected ⟨request.table, .valueShape mode value.type⟩ := by
  unfold checkValue
  cases request.value with
  | none => simp
  | some value =>
    by_cases hstruct : value.type = .struct
    · simp [Schema.isStruct, hstruct]
    · show (if value.isStruct then _ else _) = _ ↔ _
      rw [if_neg (by simpa [Schema.isStruct] using hstruct)]
      constructor
      · intro h
        exact ⟨value, rfl, hstruct, (Except.error.inj h).symm⟩
      · rintro ⟨_, ⟨⟩, -, rfl⟩
        rfl

/-! ## All columns -/

/-- The key columns first, then the remaining ones; without any column the record is rejected. -/
def joined (whitelist : List String) (request : KeyRequest) (mode : KeyMode) (key : KeyColumns) :
    Except Failure Layout :=
  if key.columns ++ remaining mode whitelist request key = [] then request.reject (.noColumns mode)
  else Resolve.layout key (remaining mode whitelist request key)

theorem joined_eq_ok_iff :
    joined whitelist request mode key = .ok layout ↔
      key.columns ++ remaining mode whitelist request key ≠ [] ∧
        Resolve.layout key (remaining mode whitelist request key) = .ok layout := by
  unfold joined
  by_cases hempty : key.columns ++ remaining mode whitelist request key = []
  · rw [if_pos hempty]
    exact ⟨nofun, fun h => absurd hempty h.1⟩
  · rw [if_neg hempty]
    exact ⟨fun h => ⟨hempty, h⟩, fun h => h.2⟩

/-- With a lawful key and a value in which no name comes twice only the lack of columns fails. -/
theorem joined_eq_error_iff (hkey : key.Lawful mode)
    (hvalue : ∀ value ∈ request.value, value.check = .ok value) :
    joined whitelist request mode key = .error failure ↔
      key.columns ++ remaining mode whitelist request key = [] ∧
        failure = .rejected ⟨request.table, .noColumns mode⟩ := by
  have hlayout : ∃ layout, Resolve.layout key (remaining mode whitelist request key) = .ok layout :=
    exists_layout_remaining hkey hvalue
  obtain ⟨layout, hlayout⟩ := hlayout
  unfold joined
  by_cases hempty : key.columns ++ remaining mode whitelist request key = []
  · rw [if_pos hempty]
    exact ⟨fun h => ⟨hempty, (Except.error.inj h).symm⟩, fun h => h.2 ▸ rfl⟩
  · rw [if_neg hempty, hlayout]
    exact ⟨nofun, fun h => absurd h.1 hempty⟩

/-! ## The chain -/

/-- The parts of a layout come out of the same steps, up to the last one. -/
theorem split_eq_bind : split given whitelist request =
    Key.modeOf request.table given request.digits >>= fun mode =>
      checkValue mode request >>= fun _ => Key.derive mode request >>= fun key =>
        if key.columns ++ remaining mode whitelist request key = [] then
          request.reject (.noColumns mode)
        else .ok (mode, key, remaining mode whitelist request key) := by
  rw [split, Resolve.mode]
  simp only [bind_assoc, pure_bind]
  refine bind_congr fun mode => bind_congr fun _ => bind_congr fun key => ?_
  rw [otherColumns_eq_remaining]
  by_cases hempty : key.columns ++ remaining mode whitelist request key = []
  · rw [if_pos hempty, if_pos (List.isEmpty_iff.mpr hempty)]
  · rw [if_neg hempty, if_neg (mt List.isEmpty_iff.mp hempty)]
    rfl

theorem split_eq_ok_iff {others : List Column} :
    split given whitelist request = .ok (mode, key, others) ↔
      given = .text mode.text ∧ (∀ value ∈ request.value, value.type = .struct) ∧
        Key.derive mode request = .ok key ∧ others = remaining mode whitelist request key ∧
        key.columns ++ others ≠ [] := by
  rw [split_eq_bind, bind_eq_ok_iff]
  constructor
  · rintro ⟨mode', hmode, h⟩
    obtain ⟨_, hshape, h⟩ := bind_eq_ok_iff.mp h
    obtain ⟨key', hkey, h⟩ := bind_eq_ok_iff.mp h
    -- The lack of columns is the last thing that can be in the way.
    by_cases hempty : key'.columns ++ remaining mode' whitelist request key' = []
    · rw [if_pos hempty] at h
      cases h
    · rw [if_neg hempty] at h
      cases h
      exact ⟨modeOf_eq_ok_iff.mp hmode, checkValue_eq_ok_iff.mp hshape, hkey, rfl, hempty⟩
  · rintro ⟨hmode, hstruct, hkey, rfl, hnonempty⟩
    refine ⟨mode, modeOf_eq_ok_iff.mpr hmode, ?_⟩
    refine bind_eq_ok_iff.mpr ⟨(), checkValue_eq_ok_iff.mpr hstruct, ?_⟩
    exact bind_eq_ok_iff.mpr ⟨key, hkey, if_neg hnonempty⟩

theorem outcome_eq_split_bind : (resolve given whitelist request).outcome =
    split given whitelist request >>= fun parts => Resolve.layout parts.2.1 parts.2.2 := by
  unfold resolve
  -- Failures are only turned into events, which do not belong to the outcome.
  cases split given whitelist request with
  | error failure => cases failure <;> rfl
  | ok parts =>
    obtain ⟨mode, key, others⟩ := parts
    rcases hlayout : Resolve.layout key others with failure | layout
    · simp only [hlayout]
      exact hlayout.symm
    · simp only [hlayout]
      exact hlayout.symm

/-- A record has a layout exactly if it comes out in parts that a layout can be made of. -/
theorem outcome_eq_ok_iff : (resolve given whitelist request).outcome = .ok layout ↔
    ∃ mode key others, split given whitelist request = .ok (mode, key, others) ∧
      Resolve.layout key others = .ok layout := by
  rw [outcome_eq_split_bind, bind_eq_ok_iff]
  constructor
  · rintro ⟨⟨mode, key, others⟩, hsplit, hlayout⟩
    exact ⟨mode, key, others, hsplit, hlayout⟩
  · rintro ⟨mode, key, others, hsplit, hlayout⟩
    exact ⟨(mode, key, others), hsplit, hlayout⟩

/-- The key of a record leads to a layout: the mode derives it, there is a column, no two columns
have one name, and the layout joins the key columns with the remaining ones. -/
structure LeadsTo (mode : KeyMode) (whitelist : List String) (request : KeyRequest)
    (key : KeyColumns) (layout : Layout) : Prop where
  struct : ∀ value ∈ request.value, value.type = .struct
  derives : Key.derive mode request = .ok key
  nonempty : key.columns ++ remaining mode whitelist request key ≠ []
  distinct : (allNames key (remaining mode whitelist request key)).Nodup
  joins : layout.Joins key (remaining mode whitelist request key)

/-- A record has a layout exactly if its key leads to that under a known mode. -/
theorem outcome_eq_ok_iff_leadsTo : (resolve given whitelist request).outcome = .ok layout ↔
    ∃ mode key, given = .text mode.text ∧ LeadsTo mode whitelist request key layout := by
  rw [outcome_eq_ok_iff]
  constructor
  · rintro ⟨mode, key, others, hsplit, hlayout⟩
    obtain ⟨hmode, hstruct, hkey, rfl, hnonempty⟩ := split_eq_ok_iff.mp hsplit
    obtain ⟨hjoins, hdistinct, -⟩ := layout_eq_ok_iff.mp hlayout
    exact ⟨mode, key, hmode, hstruct, hkey, hnonempty, hdistinct, hjoins⟩
  · rintro ⟨mode, key, hmode, hstruct, hkey, hnonempty, hdistinct, hjoins⟩
    -- What is read from the record's key is no matter here, for a key that was derived is lawful.
    have hsourced : ∀ name ∈ key.keySourced.getD [], name ∈ key.names :=
      (Key.lawful_of_derive hkey).mem_names
    exact ⟨mode, key, _, split_eq_ok_iff.mpr ⟨hmode, hstruct, hkey, rfl, hnonempty⟩,
      layout_eq_ok_iff.mpr ⟨hjoins, hdistinct, hsourced⟩⟩

theorem outcome_text_eq_ok_iff :
    (resolve (.text mode.text) whitelist request).outcome = .ok layout ↔
      ∃ key, LeadsTo mode whitelist request key layout := by
  rw [outcome_eq_ok_iff_leadsTo]
  constructor
  · rintro ⟨mode', key, hmode, hleads⟩
    obtain rfl := eq_of_text_eq hmode
    exact ⟨key, hleads⟩
  · rintro ⟨key, hleads⟩
    exact ⟨mode, key, rfl, hleads⟩

/-- If there is a column and no two have one name, it takes no more to have a layout. -/
theorem exists_leadsTo (hkey : Key.derive mode request = .ok key)
    (hstruct : ∀ value ∈ request.value, value.type = .struct)
    (hnonempty : key.columns ++ remaining mode whitelist request key ≠ [])
    (hdistinct : (allNames key (remaining mode whitelist request key)).Nodup) :
    ∃ layout, LeadsTo mode whitelist request key layout :=
  ⟨_, hstruct, hkey, hnonempty, hdistinct, joins_of_nodup hdistinct⟩

/-- A layout under a known mode joins the key columns that the mode derives with the remaining
ones. -/
theorem exists_joins_of_resolve
    (h : (resolve (.text mode.text) whitelist request).outcome = .ok layout) :
    ∃ key, Key.derive mode request = .ok key ∧
      layout.Joins key (remaining mode whitelist request key) := by
  obtain ⟨key, hleads⟩ := outcome_text_eq_ok_iff.mp h
  exact ⟨key, hleads.derives, hleads.joins⟩

/-- A layout has a column. -/
theorem names_ne_nil_of_resolve (h : (resolve given whitelist request).outcome = .ok layout) :
    layout.columns.names ≠ [] := by
  obtain ⟨mode, key, -, hleads⟩ := outcome_eq_ok_iff_leadsTo.mp h
  exact hleads.joins.names_ne_nil hleads.nonempty

/-- A record has a layout under a known mode exactly if its value is a struct, the mode derives a
key, and there is any column. -/
theorem exists_resolve_iff (hvalue : ∀ value ∈ request.value, value.check = .ok value) :
    (∃ layout, (resolve (.text mode.text) whitelist request).outcome = .ok layout) ↔
      (∀ value ∈ request.value, value.type = .struct) ∧
        ∃ key, Key.derive mode request = .ok key ∧
          key.columns ++ remaining mode whitelist request key ≠ [] := by
  constructor
  · rintro ⟨layout, h⟩
    obtain ⟨key, hleads⟩ := outcome_text_eq_ok_iff.mp h
    exact ⟨hleads.struct, key, hleads.derives, hleads.nonempty⟩
  -- The names are distinct without any need to check: the key is lawful, and no field of the value
  -- comes twice.
  · rintro ⟨hstruct, key, hkey, hnonempty⟩
    obtain ⟨layout, hlayout⟩ := exists_layout_remaining (Key.lawful_of_derive hkey) hvalue
    exact ⟨layout, outcome_eq_ok_iff.mpr
      ⟨mode, key, _, split_eq_ok_iff.mpr ⟨rfl, hstruct, hkey, rfl, hnonempty⟩, hlayout⟩⟩

/-- Whatever a resolution answers and logs depends on the name of the table and on the parts. -/
theorem resolve_eq_of_split {whitelist' : List String} {request' : KeyRequest}
    (htable : request.table = request'.table)
    (hsplit : split given whitelist request = split given whitelist' request') :
    resolve given whitelist request = resolve given whitelist' request' := by
  rw [resolve, resolve, hsplit, htable]

/-- A resolution ends as the first of its steps that fails, or with the layout. -/
theorem outcome_resolve : (resolve given whitelist request).outcome =
    Key.modeOf request.table given request.digits >>= fun mode =>
      checkValue mode request >>= fun _ =>
        Key.derive mode request >>= joined whitelist request mode := by
  rw [outcome_eq_split_bind, split_eq_bind]
  simp only [bind_assoc]
  refine bind_congr fun mode => bind_congr fun _ => bind_congr fun key => ?_
  rw [joined]
  by_cases hempty : key.columns ++ remaining mode whitelist request key = []
  · rw [if_pos hempty, if_pos hempty]
    rfl
  · rw [if_neg hempty, if_neg hempty]
    rfl

end TableLayout.Resolve
