import TableLayout.Proofs.Distinct
import TableLayout.Proofs.Failure
import TableLayout.Settings.Reader

/-!
# Names in settings

Names that were read have no blanks around them, and such names are read back as they are, from a
list in which even a comma belongs to a name.

- `Settings.Clean`: a name that is not empty and has no blanks around it.
- `Settings.readItems_eq_ok_iff`: reading the items of a list.
- `Settings.clean_of_readNames`, `Settings.readItems_of_clean`: what is read is clean, and what is
  clean is read back.
- `Settings.readKeyNames_eq_ok_iff`, `Settings.readWhitelist_eq_ok_iff`: names in the order given,
  and a set of names in order.
-/

namespace TableLayout.Settings

/-- A name that is not empty and has no blanks around it. -/
def Clean (name : String) : Prop :=
  name ≠ "" ∧ Text.strip name = name

/-- Without the blanks around it a name is clean, unless nothing is left. -/
theorem clean_strip {s : String} (h : Text.strip s ≠ "") : Clean (Text.strip s) :=
  ⟨h, Text.strip_strip s⟩

/-- An item of a list gives a name: the item is a text, and the name what is left of it without the
blanks around it. -/
def ItemGives (item : Datum) (name : String) : Prop :=
  ∃ s, item = .text s ∧ Text.strip s = name ∧ name ≠ ""

variable {names : List String}

/-- Items are read one by one, each as the name that it gives. -/
theorem readItems_eq_ok_iff {index : Nat} {items : List Datum} :
    readItems index items = .ok names ↔ List.Forall₂ ItemGives items names := by
  induction items generalizing index names with
  | nil =>
    rw [readItems, List.forall₂_nil_left_iff]
    simp [eq_comm]
  | cons item items ih =>
    rw [List.forall₂_cons_left_iff]
    cases item with
    | text s =>
      rw [readItems]
      constructor
      · intro h
        split at h
        · cases h
        · next hne =>
          obtain ⟨rest, hrest, rfl⟩ := map_eq_ok_iff.mp h
          exact ⟨_, rest, ⟨s, rfl, rfl, hne⟩, ih.mp hrest, rfl⟩
      · rintro ⟨name, rest, ⟨_, ⟨⟩, rfl, hne⟩, hrest, rfl⟩
        rw [if_neg hne, ih.mpr hrest]
        rfl
    -- Only texts are names.
    | _ =>
      rw [readItems]
      · exact ⟨nofun, fun ⟨_, _, ⟨_, h, _⟩, _⟩ => nomatch h⟩
      · exact nofun

/-- Names that were read from items are clean. -/
theorem clean_of_readItems {index : Nat} {items : List Datum}
    (h : readItems index items = .ok names) : ∀ name ∈ names, Clean name := by
  intro name hname
  obtain ⟨item, -, s, rfl, rfl, hne⟩ :=
    exists_of_forall₂ (readItems_eq_ok_iff.mp h).flip name hname
  exact clean_strip hne

/-- So are names that were read from any value, be it a text with commas or a list of any kind. -/
theorem clean_of_readNames {value : Datum} (h : readNames value = .ok names) :
    ∀ name ∈ names, Clean name := by
  unfold readNames at h
  split at h
  · obtain rfl := Except.ok.inj h
    exact nofun
  · split at h
    · obtain rfl := Except.ok.inj h
      exact nofun
    · exact clean_of_readItems h
  · exact clean_of_readItems h
  · exact clean_of_readItems h
  · exact clean_of_readItems h
  · cases h

/-- Clean names are read back from a list of them, whatever commas they hold. -/
theorem readItems_of_clean (h : ∀ name ∈ names, Clean name) (index : Nat) :
    readItems index (names.map .text) = .ok names := by
  rw [readItems_eq_ok_iff, List.forall₂_map_left_iff]
  refine List.forall₂_same.mpr fun name hname => ?_
  exact ⟨name, rfl, (h name hname).2, (h name hname).1⟩

/-- Names of key columns keep their order, and none may come twice. -/
theorem readKeyNames_eq_ok_iff {value : Datum} :
    readKeyNames value = .ok names ↔ readNames value = .ok names ∧ names.Nodup := by
  unfold readKeyNames
  rw [bind_eq_ok_iff]
  constructor
  · rintro ⟨names', hnames, h⟩
    split at h
    · next hdistinct =>
      obtain rfl := Except.ok.inj h
      exact ⟨hnames, hdistinct⟩
    · cases h
  · rintro ⟨hnames, hdistinct⟩
    exact ⟨names, hnames, if_pos hdistinct⟩

/-- Members of the whitelist lose their order and their repetitions. -/
theorem readWhitelist_eq_ok_iff {value : Datum} {members : List String} :
    readWhitelist value = .ok members ↔
      ∃ names, readNames value = .ok names ∧ Text.sorted names.eraseDups = members :=
  map_eq_ok_iff

end TableLayout.Settings
