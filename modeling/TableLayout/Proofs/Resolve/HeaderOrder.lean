import Mathlib.Data.List.Perm.Basic
import TableLayout.Proofs.Key.Flatten
import TableLayout.Proofs.Key.Inputs
import TableLayout.Proofs.Resolve.Lawful

/-!
# The order of headers

Where headers name the columns of a record that has a value, their order decides on the order of the
key columns, and on nothing else. The first header for a column gives it its place in the key, and
the first one that refers to the record's key its place among those read from there, but which
columns these are, and which fields they hold, is the same in whatever order the headers come.

- `KeyColumns.SameUpToOrder`: two keys have the same columns and read the same ones from the
  record's key.
- `Flatten.NamedByValue.reordered`: headers in another order name such a key.
- `Layout.SameUpToKeyOrder`: two layouts differ in the order of their key columns only.
- `Resolve.header_order_moves_key_columns`: both orders of the headers lead to such layouts, or both
  to a rejection.
-/

namespace TableLayout

/-! ## Keys -/

/-- Two keys have the same columns, and read the same ones from the record's key, in any order. -/
structure KeyColumns.SameUpToOrder (key key' : KeyColumns) : Prop where
  columns : key.columns.Perm key'.columns
  keySourced : Option.Rel List.Perm key.keySourced key'.keySourced

theorem KeyColumns.SameUpToOrder.names {key key' : KeyColumns} (h : key.SameUpToOrder key') :
    key.names.Perm key'.names :=
  h.columns.map Column.name

/-- In whatever order headers come, their values can be written or not. -/
theorem KeyRequest.Prints.reordered {request : KeyRequest} {headers : List Header}
    (h : request.Prints) (hperm : request.headers.Perm headers) :
    (request.withHeaders headers).Prints :=
  fun header hheader => h header (hperm.mem_iff.mpr hheader)

namespace Flatten

variable {request : KeyRequest} {headers : List Header} {value : Schema} {key : KeyColumns}

/-- The headers of a record in another order name the same columns. -/
theorem NamedByValue.reordered (h : NamedByValue request value key)
    (hperm : request.headers.Perm headers) :
    ∃ key', NamedByValue (request.withHeaders headers) value key' ∧ key.SameUpToOrder key' := by
  obtain ⟨⟨names, hnames, hcolumns⟩, ⟨sourced, hsourced, hrefer⟩⟩ := h
  -- What a header stands for, and which field has that name, does not depend on other headers.
  obtain ⟨names', hnames', hsameNames⟩ := List.perm_comp_forall₂ hperm.symm hnames
  obtain ⟨columns', hcolumns', hsameColumns⟩ :=
    List.perm_comp_forall₂ (perm_eraseDups hsameNames) hcolumns
  -- Nor does it depend on them whether it refers to the record's key.
  have hkept : (headers.filter (RefersToKey request)).Perm
      (request.headers.filter (RefersToKey request)) := hperm.symm.filter _
  obtain ⟨sourced', hrefer', hsameSourced⟩ := List.perm_comp_forall₂ hkept hrefer
  refine ⟨⟨columns', some sourced'.eraseDups⟩, ?_, hsameColumns.symm, ?_⟩
  · exact ⟨⟨names', hnames', hcolumns'⟩, ⟨sourced', rfl, hrefer'⟩⟩
  · rw [hsourced]
    exact .some (perm_eraseDups hsameSourced).symm

/-- If a key is derived for a record with a value, one with the same columns is derived for the
headers in another order. -/
theorem exists_derive_reordered (hvalue : request.value = some value)
    (hperm : request.headers.Perm headers) (hkey : Key.derive .flatten request = .ok key) :
    ∃ key', Key.derive .flatten (request.withHeaders headers) = .ok key' ∧
      key.SameUpToOrder key' := by
  have hvalue' : (request.withHeaders headers).value = some value := hvalue
  obtain ⟨hprints, hnamed⟩ := (derive_eq_ok_iff_namedByValue hvalue).mp hkey
  obtain ⟨key', hnamed', hsame⟩ := hnamed.reordered hperm
  exact ⟨key', (derive_eq_ok_iff_namedByValue hvalue').mpr ⟨hprints.reordered hperm, hnamed'⟩,
    hsame⟩

end Flatten

/-! ## Layouts -/

/-- Two layouts have the same columns, the same of them in the key and the same of these read from
the record's key. The columns outside the key come in the same order. -/
structure Layout.SameUpToKeyOrder (layout layout' : Layout) : Prop where
  keyNames : layout.keyNames.Perm layout'.keyNames
  otherNames : layout.otherNames = layout'.otherNames
  columns : layout.columns.entries.Perm layout'.columns.entries
  keySourced : Option.Rel List.Perm layout.keySourced layout'.keySourced

/-- Keys with the same columns make such layouts with the same other columns. -/
theorem KeyColumns.SameUpToOrder.layout {key key' : KeyColumns} {others : List Column}
    {layout layout' : Layout} (h : key.SameUpToOrder key') (hjoins : layout.Joins key others)
    (hjoins' : layout'.Joins key' others) : layout.SameUpToKeyOrder layout' := by
  constructor
  case keyNames =>
    rw [hjoins.keyNames, hjoins'.keyNames]
    exact h.names
  case otherNames => rw [hjoins.otherNames, hjoins'.otherNames]
  case columns =>
    rw [hjoins.entries, hjoins'.entries]
    exact (h.columns.append_right others).map _
  case keySourced =>
    rw [hjoins.keySourced, hjoins'.keySourced]
    exact h.keySourced

namespace Resolve

variable {request request' : KeyRequest} {headers : List Header} {value : Schema}
  {mode : KeyMode} {whitelist : List String} {key key' : KeyColumns} {layout : Layout}

/-- Which columns remain depends on the names in the key, not on their order. -/
theorem remaining_eq_of_sameUpToOrder (hvalue : request.value = request'.value)
    (h : key.SameUpToOrder key') :
    remaining mode whitelist request key = remaining mode whitelist request' key' := by
  unfold remaining
  rw [hvalue]
  refine congrArg (List.map _) (List.filter_congr fun field _ => ?_)
  exact decide_eq_decide.mpr (and_congr_left' h.names.mem_iff.not)

/-- A key with the same columns leads to a layout of the same record with its headers in another
order. -/
theorem LeadsTo.reordered (h : LeadsTo mode whitelist request key layout)
    (hkey : Key.derive mode (request.withHeaders headers) = .ok key')
    (hsame : key.SameUpToOrder key') :
    ∃ layout', LeadsTo mode whitelist (request.withHeaders headers) key' layout' ∧
      layout.SameUpToKeyOrder layout' := by
  -- The other columns depend on which names are taken by the key, not on their order.
  have hothers : remaining mode whitelist request key =
      remaining mode whitelist (request.withHeaders headers) key' :=
    remaining_eq_of_sameUpToOrder rfl hsame
  obtain ⟨hstruct, -, hnonempty, hdistinct, hjoins⟩ := h
  rw [hothers] at hnonempty hdistinct hjoins
  have hnonempty' : key'.columns ++ remaining mode whitelist (request.withHeaders headers) key' ≠
      [] := by
    intro hempty
    exact hnonempty (hempty ▸ hsame.columns.append_right _).eq_nil
  have hdistinct' :
      (allNames key' (remaining mode whitelist (request.withHeaders headers) key')).Nodup :=
    (hsame.names.append_right _).nodup_iff.mp hdistinct
  obtain ⟨layout', hleads⟩ := exists_leadsTo hkey hstruct hnonempty' hdistinct'
  exact ⟨layout', hleads, hsame.layout hjoins hleads.joins⟩

/-- If there is a layout for a record with a value, there is one with the same columns for the
headers in another order. -/
theorem exists_resolve_reordered (request : KeyRequest) (hvalue : request.value = some value)
    (hperm : request.headers.Perm headers)
    (h : (resolve (.text KeyMode.flatten.text) whitelist request).outcome = .ok layout) :
    ∃ layout', (resolve (.text KeyMode.flatten.text) whitelist
        (request.withHeaders headers)).outcome = .ok layout' ∧ layout.SameUpToKeyOrder layout' := by
  obtain ⟨key, hleads⟩ := outcome_text_eq_ok_iff.mp h
  obtain ⟨key', hkey', hsameKey⟩ := Flatten.exists_derive_reordered hvalue hperm hleads.derives
  obtain ⟨layout', hleads', hsame⟩ := hleads.reordered hkey' hsameKey
  exact ⟨layout', outcome_text_eq_ok_iff.mpr ⟨key', hleads'⟩, hsame⟩

/-- For a record with a value, headers that name the columns in two orders lead to layouts that
differ in the order of their key columns only, or both orders lead to a rejection. It is taken for
granted that the values of headers can be written. -/
theorem header_order_moves_key_columns (hprints : request.Prints)
    (hvalue : request.value = some value) (hproper : value.check = .ok value)
    (hperm : request.headers.Perm headers) (whitelist : List String) :
    (∃ layout layout',
      (resolve (.text KeyMode.flatten.text) whitelist request).outcome = .ok layout ∧
      (resolve (.text KeyMode.flatten.text) whitelist (request.withHeaders headers)).outcome =
        .ok layout' ∧
      layout.SameUpToKeyOrder layout') ∨
    ∃ rejection rejection',
      (resolve (.text KeyMode.flatten.text) whitelist request).outcome =
        .error (.rejected rejection) ∧
      (resolve (.text KeyMode.flatten.text) whitelist (request.withHeaders headers)).outcome =
        .error (.rejected rejection') := by
  have hproper : ∀ value ∈ request.value, value.check = .ok value := by
    rw [hvalue]
    rintro _ ⟨⟩
    exact hproper
  have hends : ∀ request' : KeyRequest, request'.Prints →
      (∀ value ∈ request'.value, value.check = .ok value) →
      (∃ layout, (resolve (.text KeyMode.flatten.text) whitelist request').outcome = .ok layout) ∨
        ∃ rejection, (resolve (.text KeyMode.flatten.text) whitelist request').outcome =
          .error (.rejected rejection) := fun request' hprints' hproper' =>
    (resolve_settles hproper').ok_or_rejected (not_exceeds (Datum.prints_text _ _) hprints')
  rcases hends request hprints hproper with ⟨layout, hlayout⟩ | ⟨rejection, hrejection⟩
  · obtain ⟨layout', hlayout', hsame⟩ := exists_resolve_reordered request hvalue hperm hlayout
    exact .inl ⟨layout, layout', hlayout, hlayout', hsame⟩
  rcases hends (request.withHeaders headers) (hprints.reordered hperm) hproper with
    ⟨layout', hlayout'⟩ | ⟨rejection', hrejection'⟩
  · -- The first order is another order of the second one, which would lead to a layout then.
    have hback : (request.withHeaders headers).headers.Perm request.headers := hperm.symm
    obtain ⟨layout, hlayout, -⟩ :=
      exists_resolve_reordered (request.withHeaders headers) hvalue hback hlayout'
    exact absurd (hlayout.symm.trans hrejection) nofun
  · exact .inr ⟨rejection, rejection', hrejection, hrejection'⟩

/-- The headers of `Flatten.crossedRequest`, the last two of them first. -/
def turnedHeaders : List Header :=
  Flatten.crossedRequest.headers.drop 2 ++ Flatten.crossedRequest.headers.take 2

/-- Both orders change places: that of the key columns and that of those read from the record's
key. -/
theorem crossedRequest_turned :
    Flatten.crossedRequest.Prints ∧ Flatten.crossedRequest.headers.Perm turnedHeaders ∧
      ∃ layout layout',
        (resolve (.text "flatten") [] Flatten.crossedRequest).outcome = .ok layout ∧
        (resolve (.text "flatten") [] (Flatten.crossedRequest.withHeaders turnedHeaders)).outcome =
          .ok layout' ∧
        layout.keyNames = ["b", "a"] ∧ layout'.keyNames = ["a", "b"] ∧
        layout.keySourced = some ["a", "b"] ∧ layout'.keySourced = some ["b", "a"] ∧
        layout.SameUpToKeyOrder layout' := by
  have hprints : Flatten.crossedRequest.Prints := KeyRequest.prints_of_unlimited rfl
  have hperm : Flatten.crossedRequest.headers.Perm turnedHeaders := by
    rw [← List.take_append_drop 2 Flatten.crossedRequest.headers]
    exact List.perm_append_comm
  refine ⟨hprints, hperm, ?_⟩
  rcases @header_order_moves_key_columns _ _ _ hprints rfl rfl hperm [] with
    ⟨layout, layout', hlayout, hlayout', hsame⟩ | ⟨rejection, rejection', hrejection, -⟩
  · refine ⟨layout, layout', hlayout, hlayout', ?_⟩
    cases hlayout
    cases hlayout'
    exact ⟨rfl, rfl, rfl, rfl, hsame⟩
  · cases hrejection

end Resolve

end TableLayout
