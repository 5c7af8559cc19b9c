import TableLayout.Proofs.Settings.Names
import TableLayout.Proofs.Settings.Reader

/-!
# Settings in normal form

Settings that were read are in normal form, and settings in normal form are read back from the map
of their values, so that reading them a second time changes nothing.

- `Settings.Normal`: names are clean, key names and members of the whitelist come once, the latter
  in order, and deletions go with a mode that allows for them.
- `Settings.setting_eq_ok_iff`: a setting is read, or takes its default.
- `Settings.Describes.normal`: settings that are described are in normal form.
- `Settings.describes_dump`: settings in normal form are described by the map of their values, in
  whatever order the members of the whitelist stand there.
- `Settings.normal_of_ofDatum`: settings that were read are in normal form and read back.
-/

namespace TableLayout.Settings

open Datum (find?)

/-- Settings in the form that reading leaves them in. -/
structure Normal (settings : Settings) : Prop where
  keyNames : ∀ name ∈ settings.keyNames, Clean name
  distinct : settings.keyNames.Nodup
  whitelist : ∀ name ∈ settings.whitelist, Clean name
  members : settings.whitelist.Nodup
  ordered : settings.whitelist.Pairwise (· ≤ ·)
  deletes : settings.deleteEnabled = true →
    settings.keyMode = .recordKey ∨ settings.keyMode = .flatten

/-- The two modes under which deletions are allowed for. -/
theorem canDelete_iff {mode : KeyMode} :
    canDelete mode = true ↔ mode = .recordKey ∨ mode = .flatten := by
  cases mode <;> simp [canDelete]

/-- A setting that is not given takes its default, and otherwise its value is read. -/
theorem setting_eq_ok_iff {α : Type} {entries : List (Datum × Datum)} {name : String}
    {default a : α} {read : Datum → Except Violation α} :
    setting entries name default read = .ok a ↔
      find? entries name = none ∧ a = default ∨
        ∃ value, find? entries name = some value ∧ read value = .ok a := by
  unfold setting
  cases find? entries name <;> simp [eq_comm]

/-! ## What was read is in normal form -/

/-- The members of a whitelist are names that were read, each once, in order. -/
theorem whitelist_of_read {value : Datum} {members : List String}
    (h : readWhitelist value = .ok members) :
    (∀ name ∈ members, Clean name) ∧ members.Nodup ∧ members.Pairwise (· ≤ ·) := by
  obtain ⟨names, hnames, rfl⟩ := readWhitelist_eq_ok_iff.mp h
  have hperm : (Text.sorted names.eraseDups).Perm names.eraseDups := Text.sorted_perm _
  refine ⟨fun name hname => ?_, hperm.nodup_iff.mpr (nodup_eraseDups names),
    Text.pairwise_sorted _⟩
  exact clean_of_readNames hnames name (List.mem_eraseDups.mp (hperm.mem_iff.mp hname))

/-- Settings that are described, and whose deletions go with their mode, are in normal form. -/
theorem Describes.normal {entries : List (Datum × Datum)} {settings : Settings}
    (h : Describes entries settings)
    (hdeletes : settings.deleteEnabled = true → canDelete settings.keyMode = true) :
    settings.Normal := by
  have hkeyNames : (∀ name ∈ settings.keyNames, Clean name) ∧ settings.keyNames.Nodup := by
    rcases setting_eq_ok_iff.mp h.keyNames with ⟨-, hdefault⟩ | ⟨value, -, hread⟩
    · rw [hdefault]
      exact ⟨nofun, List.nodup_nil⟩
    · obtain ⟨hnames, hdistinct⟩ := readKeyNames_eq_ok_iff.mp (mapError_eq_ok_iff.mp hread)
      exact ⟨clean_of_readNames hnames, hdistinct⟩
  have hwhitelist : (∀ name ∈ settings.whitelist, Clean name) ∧ settings.whitelist.Nodup ∧
      settings.whitelist.Pairwise (· ≤ ·) := by
    rcases setting_eq_ok_iff.mp h.whitelist with ⟨-, hdefault⟩ | ⟨value, -, hread⟩
    · rw [hdefault]
      exact ⟨nofun, List.nodup_nil, .nil⟩
    · exact whitelist_of_read (mapError_eq_ok_iff.mp hread)
  exact ⟨hkeyNames.1, hkeyNames.2, hwhitelist.1, hwhitelist.2.1, hwhitelist.2.2,
    fun hon => canDelete_iff.mp (hdeletes hon)⟩

theorem Normal.of_ofDatum {value : Datum} {settings : Settings} (h : ofDatum value = .ok settings) :
    settings.Normal := by
  obtain ⟨entries, -, hread⟩ := ofDatum_eq_ok_iff.mp h
  obtain ⟨hdescribes, hdeletes⟩ := read_eq_ok_iff.mp hread
  exact hdescribes.normal hdeletes

/-! ## What is in normal form is read back -/

/-- The word for a mode is read as that mode. -/
theorem readKeyMode_text (mode : KeyMode) : readKeyMode (.text mode.text) = .ok mode := by
  cases mode <;> rfl

theorem readInsertMode_text (mode : InsertMode) : readInsertMode (.text mode.text) = .ok mode := by
  cases mode <;> rfl

section ReadBack

variable {settings : Settings} (h : settings.Normal)
include h

/-- Clean names without repetition are read back as they are. -/
theorem Normal.readKeyNames :
    readKeyNames (.tuple (settings.keyNames.map .text)) = .ok settings.keyNames :=
  readKeyNames_eq_ok_iff.mpr ⟨readItems_of_clean h.keyNames 0, h.distinct⟩

/-- The members of a whitelist are read back in order, in whichever order they are listed. -/
theorem Normal.readWhitelist {members : List String} (hperm : members.Perm settings.whitelist) :
    readWhitelist (.set (members.map .text)) = .ok settings.whitelist := by
  have hclean : ∀ name ∈ members, Clean name :=
    fun name hname => h.whitelist name (hperm.mem_iff.mp hname)
  -- The members are sorted again, and a set has but one list that is in order.
  have heach : members.eraseDups = members := eraseDups_of_nodup (hperm.nodup_iff.mpr h.members)
  refine readWhitelist_eq_ok_iff.mpr ⟨members, readItems_of_clean hclean 0, ?_⟩
  rw [heach, Text.sorted_eq_of_perm hperm h.ordered]

/-- The values of settings in normal form describe these settings, and the order in which the
members of the whitelist are listed does not count. -/
theorem describes_dump {members : List String} (hperm : members.Perm settings.whitelist) :
    Describes (dump { settings with whitelist := members }) settings where
  keyMode := setting_eq_ok_iff.mpr (.inr ⟨_, rfl, readKeyMode_text settings.keyMode⟩)
  keyNames := setting_eq_ok_iff.mpr (.inr ⟨_, rfl, mapError_eq_ok_iff.mpr h.readKeyNames⟩)
  whitelist := setting_eq_ok_iff.mpr (.inr ⟨_, rfl, mapError_eq_ok_iff.mpr (h.readWhitelist hperm)⟩)
  deleteEnabled := setting_eq_ok_iff.mpr (.inr ⟨_, rfl, rfl⟩)
  insertMode := setting_eq_ok_iff.mpr (.inr ⟨_, rfl, readInsertMode_text settings.insertMode⟩)
  noSurplus := rfl

/-- Settings in normal form are read back from the map of their values. -/
theorem Normal.ofDatum_dump {members : List String} (hperm : members.Perm settings.whitelist) :
    ofDatum (.map (dump { settings with whitelist := members })) = .ok settings := by
  have hdeletes : settings.deleteEnabled = true → canDelete settings.keyMode = true :=
    fun hon => canDelete_iff.mpr (h.deletes hon)
  exact ofDatum_eq_ok_iff.mpr ⟨_, rfl, read_eq_ok_iff.mpr ⟨describes_dump h hperm, hdeletes⟩⟩

end ReadBack

/-- Settings that were read from any value are in normal form, and reading the map of their values
gives the same settings, in whatever order the members of the whitelist are listed there. -/
theorem normal_of_ofDatum {value : Datum} {settings : Settings} (h : ofDatum value = .ok settings) :
    settings.Normal ∧ ofDatum (.map settings.dump) = .ok settings ∧
      ∀ members, members.Perm settings.whitelist →
        ofDatum (.map (dump { settings with whitelist := members })) = .ok settings := by
  have hnormal : settings.Normal := .of_ofDatum h
  exact ⟨hnormal, hnormal.ofDatum_dump (.refl _), fun members hperm => hnormal.ofDatum_dump hperm⟩

/-- Settings with a comma in a name, blanks of several kinds and a member that is listed twice. -/
def untidyDescription : List (Datum × Datum) := [
  (.text "fields_whitelist", .text "z, a ,z"),
  (.text "pk_fields", .list [.text " a,b ", .text "c\u00a0"]),
  (.text "delete_enabled", .text "Yes"),
  (.text "pk_mode", .text " FLATTEN")]

/-- What these settings come to. -/
def tidySettings : Settings where
  keyMode := .flatten
  keyNames := ["a,b", "c"]
  whitelist := ["a", "z"]
  deleteEnabled := true

theorem describes_untidyDescription : Describes untidyDescription tidySettings where
  keyMode := rfl
  keyNames := rfl
  whitelist := by
    have hsorted : Text.sorted ["z", "a", "z"].eraseDups = ["a", "z"] :=
      Text.sorted_eq_of_perm (by decide) (by decide)
    have hread : readWhitelist (.text "z, a ,z") = .ok ["a", "z"] :=
      readWhitelist_eq_ok_iff.mpr ⟨_, rfl, hsorted⟩
    exact setting_eq_ok_iff.mpr (.inr ⟨_, rfl, mapError_eq_ok_iff.mpr hread⟩)
  deleteEnabled := rfl
  insertMode := rfl
  noSurplus := rfl

theorem normal_tidySettings :
    ofDatum (.map untidyDescription) = .ok tidySettings ∧ tidySettings.Normal ∧
      ofDatum (.map (dump { tidySettings with whitelist := ["z", "a"] })) = .ok tidySettings := by
  have hread : ofDatum (.map untidyDescription) = .ok tidySettings :=
    ofDatum_eq_ok_iff.mpr ⟨_, rfl, read_eq_ok_iff.mpr ⟨describes_untidyDescription, fun _ => rfl⟩⟩
  obtain ⟨hnormal, -, hreadBack⟩ := normal_of_ofDatum hread
  exact ⟨hread, hnormal, hreadBack ["z", "a"] (by decide)⟩

end TableLayout.Settings
