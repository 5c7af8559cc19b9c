import TableLayout.Proofs.Failure
import TableLayout.Settings.Reader

/-!
# What validated settings are

- `Settings.Describes`: the entries of a map describe settings, each of them on its own.
- `Settings.check_eq_ok_iff`: settings pass the check against each other exactly if deletions are
  off or the mode allows for them.
- `Settings.read_eq_ok_iff`, `Settings.ofDatum_eq_ok_iff`: what a map and what any value describes.
-/

namespace TableLayout.Settings

/-- The entries of a map describe these settings, each of them on its own. -/
structure Describes (entries : List (Datum × Datum)) (settings : Settings) : Prop where
  keyMode : setting entries "pk_mode" .none readKeyMode = .ok settings.keyMode
  keyNames : setting entries "pk_fields" [] (fun value =>
    (readKeyNames value).mapError .keyNames) = .ok settings.keyNames
  whitelist : setting entries "fields_whitelist" [] (fun value =>
    (readWhitelist value).mapError .whitelist) = .ok settings.whitelist
  deleteEnabled : setting entries "delete_enabled" false readSwitch = .ok settings.deleteEnabled
  insertMode : setting entries "insert_mode" .insert readInsertMode = .ok settings.insertMode
  noSurplus : surplus entries = []

variable {entries : List (Datum × Datum)} {settings settings' : Settings}

theorem check_eq_ok_iff :
    check settings = .ok settings' ↔ settings' = settings ∧
      (settings.deleteEnabled = true → canDelete settings.keyMode = true) := by
  unfold check
  cases settings.deleteEnabled <;> cases canDelete settings.keyMode <;> simp [eq_comm]

/-- The entries of a map are read as settings exactly if they describe these, and deletions go with
the mode. -/
theorem read_eq_ok_iff :
    read entries = .ok settings ↔
      Describes entries settings ∧
        (settings.deleteEnabled = true → canDelete settings.keyMode = true) := by
  unfold read
  constructor
  · intro h
    simp only at h
    -- All settings are read before any violation is reported, so the six readings are taken apart
    -- at once.
    split at h
    · next hmode hnames hwhitelist hdelete hinsert hsurplus =>
      obtain ⟨rfl, hdeletes⟩ := check_eq_ok_iff.mp h
      exact ⟨⟨hmode, hnames, hwhitelist, hdelete, hinsert, hsurplus⟩, hdeletes⟩
    · cases h
  · rintro ⟨⟨hmode, hnames, hwhitelist, hdelete, hinsert, hsurplus⟩, hdeletes⟩
    simp only [hmode, hnames, hwhitelist, hdelete, hinsert, hsurplus]
    exact check_eq_ok_iff.mpr ⟨rfl, hdeletes⟩

/-- Settings are read from maps only. -/
theorem ofDatum_eq_ok_iff {value : Datum} :
    ofDatum value = .ok settings ↔
      ∃ entries, value = .map entries ∧ read entries = .ok settings := by
  cases value with
  | map entries =>
    rw [ofDatum, mapError_eq_ok_iff]
    simp
  | _ => exact ⟨nofun, fun ⟨_, h, _⟩ => nomatch h⟩

end TableLayout.Settings
