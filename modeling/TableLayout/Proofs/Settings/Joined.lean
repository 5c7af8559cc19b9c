import Mathlib.Data.List.TakeWhile
import TableLayout.Proofs.Datum.Entries
import TableLayout.Proofs.Settings.Reader

/-!
# Names with commas between them

A text of names with commas between them configures what a list of these names does. The text is
split at its commas first and the blanks around a part are taken away after that, as they are for
the items of a list. There is one exception, a single blank name: the list of it is refused, but a
blank text has no names in it.

- `Text.strip_eq_empty_iff`: nothing is left of a text without the blanks around it exactly if all
  of it is blank.
- `Text.splitCommas_intercalate`: the parts of a text of names are the names.
- `Settings.readNames_joined_iff`: the text and the list are read alike, save for that exception.
- `Settings.ofDatum_replaced`: settings depend on the names that a value lists, not on the value.
- `Settings.joined_names_configure_alike`: the text and the list make the same settings, or the same
  violations.
-/

namespace TableLayout

/-! ## Texts of names -/

namespace Text

theorem trim_eq_nil_iff {cs : List Char} : trim cs = [] ↔ ∀ c ∈ cs, isBlank c = true := by
  rw [trim, trimEnd, List.reverse_eq_nil_iff, List.dropWhile_eq_nil_iff]
  simp only [List.mem_reverse]
  constructor
  · intro h
    -- What is left at the front begins with a character that is not blank, so nothing is left.
    cases hrest : cs.dropWhile isBlank with
    | nil => exact List.dropWhile_eq_nil_iff.mp hrest
    | cons c rest =>
      have hfirst : isBlank c = false := not_blank_of_head?_dropWhile c (by rw [hrest]; rfl)
      have hblank : isBlank c = true := h c (by rw [hrest]; exact List.mem_cons_self)
      rw [hfirst] at hblank
      cases hblank
  · intro h c hc
    exact h c ((List.dropWhile_suffix isBlank).subset hc)

theorem strip_eq_empty_iff {s : String} : strip s = "" ↔ ∀ c ∈ s.toList, isBlank c = true := by
  rw [← trim_eq_nil_iff, ← toList_strip, ← String.toList_inj]
  rfl

variable {names : List String}

theorem splitCommas_intercalate (hcommas : ∀ name ∈ names, ',' ∉ name.toList)
    (hnonempty : names ≠ []) : splitCommas (String.intercalate "," names) = names := by
  have hparts : ∀ part ∈ names.map String.toList, ',' ∉ part := by
    intro part hpart
    obtain ⟨name, hname, rfl⟩ := List.mem_map.mp hpart
    exact hcommas name hname
  have hsplit := List.splitOn_intercalate ',' hparts (mt List.map_eq_nil_iff.mp hnonempty)
  have hcomma : ",".toList = [','] := rfl
  rw [splitCommas, String.toList_intercalate, hcomma, hsplit, List.map_map]
  refine (List.map_congr_left fun name _ => ?_).trans (List.map_id names)
  exact String.ofList_toList

/-- A text of names is blank only if it is a single blank name, for a comma is not blank. -/
theorem strip_intercalate_eq_empty_iff (hnonempty : names ≠ []) :
    strip (String.intercalate "," names) = "" ↔ ∃ name, names = [name] ∧ strip name = "" := by
  match names, hnonempty with
  | [name], _ =>
    have hjoined : String.intercalate "," [name] = name := rfl
    simp [hjoined]
  | first :: second :: rest, _ =>
    refine iff_of_false (fun hblank => ?_) (fun ⟨_, h, _⟩ => nomatch h)
    have hmem : ',' ∈ (String.intercalate "," (first :: second :: rest)).toList := by
      rw [String.intercalate_cons_cons]
      simp
    have hcomma : isBlank ',' = true := strip_eq_empty_iff.mp hblank ',' hmem
    exact absurd hcomma (by decide)

end Text

namespace Settings

open Datum (find?)

variable {names : List String}

/-- Names without commas are read alike from a list of them and from a text in which commas stand
between them, unless there is only one name and it is blank. -/
theorem readNames_joined_iff (hcommas : ∀ name ∈ names, ',' ∉ name.toList) :
    readNames (.text (String.intercalate "," names)) = readNames (.list (names.map .text)) ↔
      ∀ name, names = [name] → Text.strip name ≠ "" := by
  -- A text of blanks only is no names at all, while a list with a blank name is refused.
  by_cases hnonempty : names = []
  · rw [hnonempty]
    exact iff_of_true rfl nofun
  have hblank := Text.strip_intercalate_eq_empty_iff hnonempty
  rw [readNames, readNames]
  by_cases hnone : Text.strip (String.intercalate "," names) = ""
  · obtain ⟨name, rfl, hname⟩ := hblank.mp hnone
    rw [if_pos hnone]
    refine iff_of_false ?_ fun h => h name rfl hname
    rw [List.map_singleton, readItems, if_pos hname]
    exact nofun
  · rw [if_neg hnone, Text.splitCommas_intercalate hcommas hnonempty]
    refine iff_of_true rfl fun name hname hstrip => ?_
    exact hnone (hblank.mpr ⟨name, hname, hstrip⟩)

/-! ## Settings -/

section Replaced

variable {before after : List (Datum × Datum)} {name : String} {value value' : Datum}

/-- Replacing the value of one entry changes no setting that reads both values alike. -/
theorem setting_replaced {α : Type} (other : String) (default : α)
    (read : Datum → Except Violation α) (h : other = name → read value = read value') :
    setting (before ++ (.text name, value) :: after) other default read =
      setting (before ++ (.text name, value') :: after) other default read := by
  unfold setting
  rw [Datum.find?_append, Datum.find?_append, Datum.find?_cons, Datum.find?_cons]
  cases find? before other with
  | some _ => rfl
  | none =>
    by_cases hother : (Datum.text name).isText other
    · rw [if_pos hother, if_pos hother]
      exact h (Datum.text.inj (Datum.isText_iff.mp hother)).symm
    · rw [if_neg hother, if_neg hother]

/-- Surplus settings are found by their names. -/
theorem surplus_replaced :
    surplus (before ++ (.text name, value) :: after) =
      surplus (before ++ (.text name, value') :: after) := by
  unfold surplus
  rw [List.filterMap_append, List.filterMap_append, List.filterMap_cons, List.filterMap_cons]

/-- Values that list the same names, or are refused alike, describe the same settings. -/
theorem ofDatum_replaced (hname : name = "pk_fields" ∨ name = "fields_whitelist")
    (h : readNames value = readNames value') :
    ofDatum (.map (before ++ (.text name, value) :: after)) =
      ofDatum (.map (before ++ (.text name, value') :: after)) := by
  have hother : ∀ {α : Type} {other : String} (read : Datum → Except Violation α),
      other ≠ "pk_fields" → other ≠ "fields_whitelist" → other = name →
      read value = read value' := by
    rintro _ _ _ hkeyNames hwhitelist rfl
    exact absurd hname (not_or.mpr ⟨hkeyNames, hwhitelist⟩)
  have hmode := hother readKeyMode (by decide : "pk_mode" ≠ _) (by decide)
  have hdelete := hother readSwitch (by decide : "delete_enabled" ≠ _) (by decide)
  have hinsert := hother readInsertMode (by decide : "insert_mode" ≠ _) (by decide)
  have hkeyNames : "pk_fields" = name →
      (readKeyNames value).mapError Violation.keyNames = (readKeyNames value').mapError .keyNames :=
    fun _ => by rw [readKeyNames, readKeyNames, h]
  have hwhitelist : "fields_whitelist" = name →
      (readWhitelist value).mapError Violation.whitelist =
        (readWhitelist value').mapError .whitelist :=
    fun _ => by rw [readWhitelist, readWhitelist, h]
  have hsurplus : surplus (before ++ (.text name, value) :: after) =
      surplus (before ++ (.text name, value') :: after) := surplus_replaced
  -- Each of the settings is read alike, and so are the names of surplus ones.
  rw [ofDatum, ofDatum, read, read, setting_replaced "pk_mode" _ _ hmode,
    setting_replaced "pk_fields" _ _ hkeyNames, setting_replaced "fields_whitelist" _ _ hwhitelist,
    setting_replaced "delete_enabled" _ _ hdelete, setting_replaced "insert_mode" _ _ hinsert,
    hsurplus]

end Replaced

/-- For the names of key columns and for the whitelist, a text of names with commas between them
makes the same settings as a list of these names, or the same violations. -/
theorem joined_names_configure_alike {setting : String}
    (hsetting : setting = "pk_fields" ∨ setting = "fields_whitelist")
    (hcommas : ∀ name ∈ names, ',' ∉ name.toList)
    (hsingle : ∀ name, names = [name] → Text.strip name ≠ "")
    (before after : List (Datum × Datum)) :
    ofDatum (.map (before ++ (.text setting, .text (String.intercalate "," names)) :: after)) =
      ofDatum (.map (before ++ (.text setting, .list (names.map .text)) :: after)) :=
  ofDatum_replaced hsetting ((readNames_joined_iff hcommas).mpr hsingle)

/-- The third of three names is blank, and is refused in its place. -/
theorem joined_names_blank :
    ofDatum (.map [(.text "pk_mode", .text "flatten"), (.text "pk_fields", .text "a, b ,\t")]) =
        ofDatum (.map [(.text "pk_mode", .text "flatten"),
          (.text "pk_fields", .list [.text "a", .text " b ", .text "\t"])]) ∧
      ofDatum (.map [(.text "pk_mode", .text "flatten"), (.text "pk_fields", .text "a, b ,\t")]) =
        .error (.invalid [.keyNames (.blank 2)]) := by
  have hcommas : ∀ name ∈ ["a", " b ", "\t"], ',' ∉ name.toList := by decide
  have hsingle : ∀ name, ["a", " b ", "\t"] = [name] → Text.strip name ≠ "" :=
    fun _ h => nomatch (List.cons.inj h).2
  exact ⟨joined_names_configure_alike (.inl rfl) hcommas hsingle
    [(.text "pk_mode", .text "flatten")] [], rfl⟩

end Settings

end TableLayout
