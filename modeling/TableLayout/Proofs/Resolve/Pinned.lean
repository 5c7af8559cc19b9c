import TableLayout.Proofs.Key.Pinned
import TableLayout.Proofs.Resolve.Inputs

/-!
# Pinned layouts

A layout can be written down in the settings: the names of its key columns are configured, and the
names of all its columns make up the whitelist. The record then has the same layout as before, when
its key may have had usual names, all fields or repeated names, and its whitelist may have been
empty or have held names of no columns.

- `Resolve.passes_pin_iff`: the names of a layout's own columns let the same fields pass as the
  whitelist that the layout was found under.
- `Resolve.resolve_pin`: the pinned layout comes out again.
-/

namespace TableLayout.Resolve

variable {given : Datum} {whitelist names : List String} {request : KeyRequest} {mode : KeyMode}
  {key : KeyColumns} {layout : Layout}

/-- Outside the key a field of the value passes by the names of the layout exactly if it has a
column, and so exactly if it passed before. -/
theorem passes_pin_iff (hjoins : layout.Joins key (remaining mode whitelist request key))
    (hnonempty : layout.columns.names ≠ [])
    (hnames : ∀ name, name ∈ names ↔ name ∈ layout.columns.names) {value : Schema}
    (hvalue : value ∈ request.value) {name : String} (hfield : name ∈ value.fieldNames)
    (hother : name ∉ key.names) : Passes mode names name ↔ Passes mode whitelist name := by
  have hcolumn : name ∈ names ↔ Passes mode whitelist name := by
    rw [hnames, hjoins.names_eq, List.mem_append, hjoins.keyNames, hjoins.otherNames,
      or_iff_right hother, mem_names_remaining_iff]
    exact ⟨fun h => h.2.2, fun h => ⟨⟨value, hvalue, hfield⟩, hother, h⟩⟩
  -- An empty whitelist would let everything pass, but this one holds a name.
  have hrestricts : names ≠ [] := by
    obtain ⟨name, hname⟩ := List.exists_mem_of_ne_nil _ hnonempty
    exact List.ne_nil_of_mem ((hnames name).mpr hname)
  rw [Passes, or_iff_right hrestricts, hcolumn]
  exact or_iff_right_of_imp .inl

/-- A layout comes out again, with the same columns in the same order and the same events, if the
names of its key columns are configured and the names of its columns are the whitelist. -/
theorem resolve_pin (h : (resolve given whitelist request).outcome = .ok layout)
    (hnames : ∀ name, name ∈ names ↔ name ∈ layout.columns.names) :
    (resolve given names (request.pin layout.keyNames)).outcome = .ok layout ∧
      (resolve given names (request.pin layout.keyNames)).events =
        (resolve given whitelist request).events := by
  obtain ⟨mode, key, _, hsplit, hlayout⟩ := outcome_eq_ok_iff.mp h
  obtain ⟨hmode, hstruct, hkey, rfl, hany⟩ := split_eq_ok_iff.mp hsplit
  have hjoins := (layout_eq_ok_iff.mp hlayout).1
  -- The names of the layout let the same fields pass as the old whitelist did.
  have hremaining : remaining mode whitelist request key =
      remaining mode names (request.pin layout.keyNames) key :=
    remaining_congr rfl fun _ hvalue _ hfield hother =>
      (passes_pin_iff hjoins (hjoins.names_ne_nil hany) hnames hvalue hfield hother).symm
  -- Deriving from the names of the key gives the key back.
  have hderive : Key.derive mode (request.pin layout.keyNames) = .ok key :=
    hjoins.keyNames ▸ Key.derive_pin hkey
  have hpinned : split given names (request.pin layout.keyNames) =
      .ok (mode, key, remaining mode whitelist request key) :=
    split_eq_ok_iff.mpr ⟨hmode, hstruct, hderive, hremaining, hany⟩
  have hsame : resolve given whitelist request =
      resolve given names (request.pin layout.keyNames) :=
    resolve_eq_of_split rfl (hsplit.trans hpinned.symm)
  exact ⟨hsame ▸ h, by rw [hsame]⟩

/-- A record whose key has more fields than are configured, one of these twice, and whose value
repeats one of them; every field of the value passes. -/
def repeatedRequest : KeyRequest where
  table := "orders"
  key := some { Schema.ofType .struct false with
    fields := Schema.numbered [("id", .ofType .int32 false), ("at", .ofType .int64 false),
      ("by", .ofType .string true)] }
  value := some { Schema.ofType .struct false with
    fields := Schema.numbered [("note", .ofType .string true), ("id", .ofType .int64 true),
      ("by", .ofType .string true)] }
  configured := ["at", "id", "at"]

theorem repeatedRequest_pin :
    ∃ layout, (resolve (.text "record_key") [] repeatedRequest).outcome = .ok layout ∧
      layout.keyNames = ["at", "id"] ∧ layout.otherNames = ["note", "by"] ∧
      (resolve (.text "record_key") ["by", "id", "note", "at"]
        (repeatedRequest.pin layout.keyNames)).outcome = .ok layout := by
  have houtcome : (resolve (.text "record_key") [] repeatedRequest).outcome = .ok _ := rfl
  have hnames : ["by", "id", "note", "at"].Perm ["at", "id", "note", "by"] := by decide
  exact ⟨_, houtcome, rfl, rfl, (resolve_pin houtcome fun name => hnames.mem_iff).1⟩

end TableLayout.Resolve
