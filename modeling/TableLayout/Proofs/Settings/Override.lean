import TableLayout.Proofs.Datum.Entries
import TableLayout.Proofs.Settings.Normal

/-!
# Settings with some of them replaced

Settings are dumped to the map of their values, overrides are put over its entries, and the result
is read again. What was not overridden comes back as it was, since settings are in normal form.

- `Settings.Overrides`: entries for some of the settings, each given once.
- `Settings.Replaced`, `Settings.Merges`: one setting, and all of them, with overrides in their
  place.
- `Settings.Refuses`: the value of a setting is refused on its own.
- `Settings.describes_merged_iff`: the merged entries describe the merged settings.
- `Settings.override_changes_what_it_names`: overriding settings gives the merged ones, unless an
  override is refused or the combination has deletions under a mode that does not allow for them.
-/

namespace TableLayout.Settings

open Datum (find? put)

/-- Entries for some of the settings, each of them given once. -/
structure Overrides (overrides : List (Datum × Datum)) : Prop where
  known : ∀ entry ∈ overrides, ∃ name ∈ keys, entry.1 = .text name
  distinct : (overrides.map Prod.fst).Nodup

/-- A setting is what its override reads as or, without an override, what it was. -/
def Replaced {ε α : Type} (overrides : List (Datum × Datum)) (name : String)
    (read : Datum → Except ε α) (old new : α) : Prop :=
  match find? overrides name with
  | some value => read value = .ok new
  | none => new = old

/-- Settings that are those of a base, with overrides in the place of some of them. -/
structure Merges (base : Settings) (overrides : List (Datum × Datum)) (settings : Settings) :
    Prop where
  keyMode : Replaced overrides "pk_mode" readKeyMode base.keyMode settings.keyMode
  keyNames : Replaced overrides "pk_fields" readKeyNames base.keyNames settings.keyNames
  whitelist : Replaced overrides "fields_whitelist" readWhitelist base.whitelist settings.whitelist
  deleteEnabled :
    Replaced overrides "delete_enabled" readSwitch base.deleteEnabled settings.deleteEnabled
  insertMode : Replaced overrides "insert_mode" readInsertMode base.insertMode settings.insertMode

/-- The value of a setting is refused on its own. -/
inductive Refuses : String → Datum → Violation → Prop where
  | keyMode {value : Datum} {violation : Violation} (h : readKeyMode value = .error violation) :
      Refuses "pk_mode" value violation
  | keyNames {value : Datum} {fault : NamesFault} (h : readKeyNames value = .error fault) :
      Refuses "pk_fields" value (.keyNames fault)
  | whitelist {value : Datum} {fault : NamesFault} (h : readWhitelist value = .error fault) :
      Refuses "fields_whitelist" value (.whitelist fault)
  | deleteEnabled {value : Datum} {violation : Violation}
      (h : readSwitch value = .error violation) : Refuses "delete_enabled" value violation
  | insertMode {value : Datum} {violation : Violation}
      (h : readInsertMode value = .error violation) : Refuses "insert_mode" value violation

/-! ## One setting -/

section OneSetting

variable {ε α : Type} {overrides : List (Datum × Datum)} {name : String}
  {read : Datum → Except ε α} {old new : α}

/-- Without overrides a setting is what it was. -/
theorem replaced_nil : Replaced [] name read old new ↔ new = old := .rfl

theorem setting_eq_ok_iff_replaced {read : Datum → Except Violation α} :
    setting overrides name old read = .ok new ↔ Replaced overrides name read old new := by
  unfold setting Replaced
  cases find? overrides name <;> simp [eq_comm]

/-- How a refusal is worded does not matter for what replaces a setting. -/
theorem replaced_mapError_iff {f : ε → Violation} :
    Replaced overrides name (fun value => (read value).mapError f) old new ↔
      Replaced overrides name read old new := by
  unfold Replaced
  cases find? overrides name <;> simp [mapError_eq_ok_iff]

/-- A setting that is read from merged entries is the one that was there, or its override. -/
theorem setting_merged {entries merged : List (Datum × Datum)} {default : α}
    {read : Datum → Except Violation α}
    (hfind : find? merged name = (find? overrides name).or (find? entries name))
    (hold : setting entries name default read = .ok old) :
    setting merged name default read = setting overrides name old read := by
  unfold setting at hold ⊢
  rw [hfind]
  cases find? overrides name with
  | some value => rfl
  | none => exact hold

/-- A setting is replaced, or the value of its override is refused. -/
theorem exists_replaced_or_refused (overrides : List (Datum × Datum)) (name : String)
    (read : Datum → Except ε α) (old : α) :
    (∃ new, Replaced overrides name read old new) ∨
      ∃ value fault, (.text name, value) ∈ overrides ∧ read value = .error fault := by
  unfold Replaced
  cases hfind : find? overrides name with
  | none => exact .inl ⟨old, rfl⟩
  | some value =>
    cases hread : read value with
    | ok new => exact .inl ⟨new, hread⟩
    | error fault => exact .inr ⟨value, fault, Datum.mem_of_find? hfind, hread⟩

/-- There is one way at most to replace a setting. -/
theorem Replaced.unique {new' : α} (h : Replaced overrides name read old new)
    (h' : Replaced overrides name read old new') : new = new' := by
  unfold Replaced at h h'
  cases hfind : find? overrides name with
  | none =>
    rw [hfind] at h h'
    exact Eq.trans h (Eq.symm h')
  | some value =>
    rw [hfind] at h h'
    exact Except.ok.inj (h.symm.trans h')

/-- An override that replaces a setting is not refused. -/
theorem Replaced.read_ne_error {value : Datum} {fault : ε}
    (h : Replaced overrides name read old new) (hdistinct : (overrides.map Prod.fst).Nodup)
    (hmem : (.text name, value) ∈ overrides) : read value ≠ .error fault := by
  have hread : read value = .ok new := by
    rwa [Replaced, Datum.find?_eq_some_of_mem hdistinct hmem] at h
  rw [hread]
  exact nofun

end OneSetting

/-! ## All settings -/

variable {base settings : Settings} {overrides : List (Datum × Datum)}

/-- Without overrides the settings are those of the base. -/
theorem merges_nil_iff : Merges base [] settings ↔ settings = base := by
  constructor
  · rintro ⟨hmode, hnames, hwhitelist, hdelete, hinsert⟩
    cases settings
    cases base
    simp_all [replaced_nil]
  · rintro rfl
    exact ⟨rfl, rfl, rfl, rfl, rfl⟩

/-- There is one way at most to merge settings. -/
theorem Merges.unique {settings' : Settings} (h : Merges base overrides settings)
    (h' : Merges base overrides settings') : settings = settings' := by
  cases settings
  cases settings'
  exact Settings.mk.injEq .. ▸ ⟨h.keyMode.unique h'.keyMode, h.keyNames.unique h'.keyNames,
    h.whitelist.unique h'.whitelist, h.deleteEnabled.unique h'.deleteEnabled,
    h.insertMode.unique h'.insertMode⟩

/-- The settings of a base can be replaced, unless an override is refused. -/
theorem exists_merges_or_refused (base : Settings) (overrides : List (Datum × Datum)) :
    (∃ settings, Merges base overrides settings) ∨
      ∃ name value violation, (.text name, value) ∈ overrides ∧ Refuses name value violation := by
  -- One setting after the other: it is replaced, or its override is the one that is refused.
  rcases exists_replaced_or_refused overrides "pk_mode" readKeyMode base.keyMode with
    ⟨keyMode, hmode⟩ | ⟨value, _, hmem, h⟩
  case inr => exact .inr ⟨_, value, _, hmem, .keyMode h⟩
  rcases exists_replaced_or_refused overrides "pk_fields" readKeyNames base.keyNames with
    ⟨keyNames, hnames⟩ | ⟨value, _, hmem, h⟩
  case inr => exact .inr ⟨_, value, _, hmem, .keyNames h⟩
  rcases exists_replaced_or_refused overrides "fields_whitelist" readWhitelist base.whitelist with
    ⟨whitelist, hwhitelist⟩ | ⟨value, _, hmem, h⟩
  case inr => exact .inr ⟨_, value, _, hmem, .whitelist h⟩
  rcases exists_replaced_or_refused overrides "delete_enabled" readSwitch base.deleteEnabled with
    ⟨deleteEnabled, hdelete⟩ | ⟨value, _, hmem, h⟩
  case inr => exact .inr ⟨_, value, _, hmem, .deleteEnabled h⟩
  rcases exists_replaced_or_refused overrides "insert_mode" readInsertMode base.insertMode with
    ⟨insertMode, hinsert⟩ | ⟨value, _, hmem, h⟩
  case inr => exact .inr ⟨_, value, _, hmem, .insertMode h⟩
  exact .inl ⟨⟨keyMode, keyNames, whitelist, deleteEnabled, insertMode⟩,
    hmode, hnames, hwhitelist, hdelete, hinsert⟩

/-- No override is refused where the settings can be merged. -/
theorem Merges.not_refuses (h : Merges base overrides settings)
    (hdistinct : (overrides.map Prod.fst).Nodup) {name : String} {value : Datum}
    {violation : Violation} (hmem : (.text name, value) ∈ overrides) :
    ¬Refuses name value violation := by
  intro hrefuses
  cases hrefuses with
  | keyMode hread => exact h.keyMode.read_ne_error hdistinct hmem hread
  | keyNames hread => exact h.keyNames.read_ne_error hdistinct hmem hread
  | whitelist hread => exact h.whitelist.read_ne_error hdistinct hmem hread
  | deleteEnabled hread => exact h.deleteEnabled.read_ne_error hdistinct hmem hread
  | insertMode hread => exact h.insertMode.read_ne_error hdistinct hmem hread

/-! ## Merged entries -/

/-- The entries of settings with overrides put over them. -/
def merged (base : Settings) (overrides : List (Datum × Datum)) : List (Datum × Datum) :=
  overrides.foldl (fun es entry => put es entry.1 entry.2) base.dump

/-- There are no surplus settings if every key names a setting. -/
theorem surplus_eq_nil_iff {entries : List (Datum × Datum)} :
    surplus entries = [] ↔ ∀ key ∈ entries.map Prod.fst, ∃ name ∈ keys, key = .text name := by
  unfold surplus
  rw [List.filterMap_eq_nil_iff, List.forall_mem_map]
  refine forall₂_congr fun entry _ => ?_
  obtain ⟨key, value⟩ := entry
  cases key <;> simp

section Merged

variable (hbase : base.Normal) (hoverrides : Overrides overrides)
include hoverrides

/-- A setting is found among the overrides or else in the base. -/
theorem find?_merged (name : String) :
    find? (merged base overrides) name = (find? overrides name).or (find? base.dump name) := by
  refine Datum.find?_foldl_put (fun entry hentry => ?_) hoverrides.distinct base.dump name
  obtain ⟨name, -, hname⟩ := hoverrides.known entry hentry
  exact ⟨name, hname⟩

/-- Merging brings in no surplus settings. -/
theorem surplus_merged : surplus (merged base overrides) = [] := by
  refine surplus_eq_nil_iff.mpr fun key hkey => ?_
  rcases Datum.exists_key_of_mem_foldl_put hkey with hadded | hdump
  · obtain ⟨entry, hentry, rfl⟩ := List.mem_map.mp hadded
    exact hoverrides.known entry hentry
  · have hnone : surplus base.dump = [] := rfl
    exact surplus_eq_nil_iff.mp hnone key hdump

include hbase

/-- What the merged entries describe is the base with the overrides in their place. -/
theorem describes_merged_iff :
    Describes (merged base overrides) settings ↔ Merges base overrides settings := by
  have hdump : Describes base.dump base := describes_dump hbase (.refl _)
  have hfind : ∀ name, find? (merged base overrides) name =
      (find? overrides name).or (find? base.dump name) := find?_merged hoverrides
  -- The base is described by its own entries, so each setting is the one of the base or its
  -- override.
  have hmode := setting_merged (hfind _) hdump.keyMode
  have hnames := setting_merged (hfind _) hdump.keyNames
  have hwhitelist := setting_merged (hfind _) hdump.whitelist
  have hdelete := setting_merged (hfind _) hdump.deleteEnabled
  have hinsert := setting_merged (hfind _) hdump.insertMode
  constructor
  · intro h
    exact {
      keyMode := setting_eq_ok_iff_replaced.mp (hmode ▸ h.keyMode)
      keyNames := replaced_mapError_iff.mp (setting_eq_ok_iff_replaced.mp (hnames ▸ h.keyNames))
      whitelist :=
        replaced_mapError_iff.mp (setting_eq_ok_iff_replaced.mp (hwhitelist ▸ h.whitelist))
      deleteEnabled := setting_eq_ok_iff_replaced.mp (hdelete ▸ h.deleteEnabled)
      insertMode := setting_eq_ok_iff_replaced.mp (hinsert ▸ h.insertMode) }
  · intro h
    exact {
      keyMode := hmode.trans (setting_eq_ok_iff_replaced.mpr h.keyMode)
      keyNames :=
        hnames.trans (setting_eq_ok_iff_replaced.mpr (replaced_mapError_iff.mpr h.keyNames))
      whitelist :=
        hwhitelist.trans (setting_eq_ok_iff_replaced.mpr (replaced_mapError_iff.mpr h.whitelist))
      deleteEnabled := hdelete.trans (setting_eq_ok_iff_replaced.mpr h.deleteEnabled)
      insertMode := hinsert.trans (setting_eq_ok_iff_replaced.mpr h.insertMode)
      noSurplus := surplus_merged hoverrides }

/-- Overriding succeeds with the merged settings, if their deletions go with their mode. -/
theorem override_eq_ok_iff :
    base.override overrides = .ok settings ↔
      Merges base overrides settings ∧
        (settings.deleteEnabled = true → canDelete settings.keyMode = true) := by
  unfold override
  split
  -- Nothing is validated here, so that deletes are allowed comes from the settings themselves.
  · next hempty =>
    obtain rfl := List.isEmpty_iff.mp hempty
    rw [merges_nil_iff]
    constructor
    · intro h
      obtain rfl := Except.ok.inj h
      exact ⟨rfl, fun hon => canDelete_iff.mpr (hbase.deletes hon)⟩
    · rintro ⟨rfl, -⟩
      rfl
  · rw [← describes_merged_iff hbase hoverrides, ← read_eq_ok_iff]
    exact mapError_eq_ok_iff

end Merged

/-- Settings with overrides for some of them: without overrides they are as they were. Overriding
succeeds with the settings that have the overrides, as these read, in the place of the old ones and
are the old ones elsewhere; it fails exactly if an override is refused on its own, or if deletions
come together with a mode that does not allow for them. -/
theorem override_changes_what_it_names {value : Datum} {base : Settings}
    {overrides : List (Datum × Datum)} (hbase : ofDatum value = .ok base)
    (hoverrides : Overrides overrides) :
    base.override [] = .ok base ∧
    (∀ settings, base.override overrides = .ok settings ↔
      Merges base overrides settings ∧ (settings.deleteEnabled = true →
        settings.keyMode = .recordKey ∨ settings.keyMode = .flatten)) ∧
    ((∃ error, base.override overrides = .error error) ↔
      (∃ name value violation, (.text name, value) ∈ overrides ∧ Refuses name value violation) ∨
        ∃ settings, Merges base overrides settings ∧ settings.deleteEnabled = true ∧
          ¬(settings.keyMode = .recordKey ∨ settings.keyMode = .flatten)) := by
  have hnormal : base.Normal := .of_ofDatum hbase
  have hok : ∀ settings, base.override overrides = .ok settings ↔
      Merges base overrides settings ∧ (settings.deleteEnabled = true →
        settings.keyMode = .recordKey ∨ settings.keyMode = .flatten) := by
    intro settings
    rw [override_eq_ok_iff hnormal hoverrides, canDelete_iff]
  refine ⟨rfl, hok, ?_⟩
  constructor
  · rintro ⟨error, herror⟩
    rcases exists_merges_or_refused base overrides with ⟨settings, hmerges⟩ | hrefused
    · refine .inr ⟨settings, hmerges, ?_⟩
      by_contra hdeletes
      have hmode := fun hon => by_contra fun hmode => hdeletes ⟨hon, hmode⟩
      rw [(hok settings).mpr ⟨hmerges, hmode⟩] at herror
      cases herror
    · exact .inl hrefused
  · intro h
    cases houtcome : base.override overrides with
    | error error => exact ⟨error, rfl⟩
    | ok settings =>
      obtain ⟨hmerges, hdeletes⟩ := (hok settings).mp houtcome
      -- A success rules out both reasons to fail, since there is only one way to merge.
      rcases h with ⟨name, value, violation, hmem, hrefuses⟩ | ⟨other, hother, hon, hmode⟩
      · exact absurd hrefuses (hmerges.not_refuses hoverrides.distinct hmem)
      · rw [hmerges.unique hother] at hdeletes
        exact absurd (hdeletes hon) hmode

/-- Settings with a comma and a blank inside of names. -/
def commaDescription : List (Datum × Datum) := [
  (.text "pk_mode", .text "flatten"),
  (.text "pk_fields", .tuple [.text "a,b", .text " c d"]),
  (.text "delete_enabled", .int 1)]

/-- What these settings come to. -/
def commaSettings : Settings where
  keyMode := .flatten
  keyNames := ["a,b", "c d"]
  deleteEnabled := true

/-- Another mode, under which deletions are still allowed for, and another statement. -/
def modeOverrides : List (Datum × Datum) :=
  [(.text "pk_mode", .text " Record_Key "), (.text "insert_mode", .text "UPSERT")]

theorem override_commaSettings :
    ofDatum (.map commaDescription) = .ok commaSettings ∧ Overrides modeOverrides ∧
      commaSettings.override modeOverrides =
        .ok { commaSettings with keyMode := .recordKey, insertMode := .upsert } := by
  have hbase : ofDatum (.map commaDescription) = .ok commaSettings := rfl
  have hoverrides : Overrides modeOverrides :=
    ⟨by simp [modeOverrides, keys], by simp [modeOverrides]⟩
  have hmode : readKeyMode (.text " Record_Key ") = .ok .recordKey := rfl
  have hinsert : readInsertMode (.text "UPSERT") = .ok .upsert := rfl
  have hmerges : Merges commaSettings modeOverrides
      { commaSettings with keyMode := .recordKey, insertMode := .upsert } :=
    ⟨hmode, rfl, rfl, rfl, hinsert⟩
  have hoverride := (override_changes_what_it_names hbase hoverrides).2.1
  exact ⟨hbase, hoverrides, (hoverride _).mpr ⟨hmerges, fun _ => .inl rfl⟩⟩

end TableLayout.Settings
