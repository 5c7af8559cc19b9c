import TableLayout.Proofs.Key.Flatten
import TableLayout.Proofs.Key.KeySourced
import TableLayout.Proofs.Resolve.Inputs

/-!
# What carries the text of a header

A header may hold its text as such or as the bytes that encode it, in either carrier of bytes. No
layout, rejection or log event tells these apart. Bytes that encode no text can name no column.

- `Flatten.derive_eq_of_recarried`: the key columns, or the rejection, are the same.
- `Flatten.exists_renders_of_derive`: where headers name a key, each of them stands for a text.
- `Resolve.carrier_of_text_irrelevant`: the same for whole resolutions.
-/

namespace TableLayout

variable {request : KeyRequest} {headers : List Header}

/-! ## Keys named by headers -/

namespace Flatten

section Recarried

variable {header header' : Header}

/-- The name for a column does not depend on what carries the text. -/
theorem columnName_eq_of_recarried (h : header.Recarried header') :
    columnName request header = columnName (request.withHeaders headers) header' := by
  rw [columnName, columnName, h.text_eq, h.key_eq, Datum.requirePrints, Datum.requirePrints,
    h.exceeds?_eq]
  rfl

theorem valueColumn_eq_of_recarried (value : Schema) (h : header.Recarried header') :
    valueColumn request value header = valueColumn (request.withHeaders headers) value header' := by
  rw [valueColumn, valueColumn, ← columnName_eq_of_recarried h, h.key_eq]
  rfl

variable (hheaders : List.Forall₂ Header.Recarried request.headers headers)
include hheaders

/-- What is printed of all headers is the same, or cannot be written for the same reason. -/
theorem shownHeaders_eq_of_recarried :
    request.shownHeaders = (request.withHeaders headers).shownHeaders := by
  have hexceeds : (request.headers.map Header.value).map (·.exceeds? request.digits) =
      (headers.map Header.value).map (·.exceeds? request.digits) := by
    rw [List.map_map, List.map_map]
    exact map_eq_of_forall₂ hheaders fun _ _ h => h.exceeds?_eq request.digits
  have hany : Datum.anyExceeds? request.digits (request.headers.map Header.value) =
      Datum.anyExceeds? request.digits (headers.map Header.value) := by
    rw [Datum.anyExceeds?_eq_findSome?_map, Datum.anyExceeds?_eq_findSome?_map, hexceeds]
  rw [KeyRequest.shownHeaders, KeyRequest.shownHeaders, hany,
    Header.Recarried.shownAll_eq hheaders]
  rfl

/-- The rejection of a header that names no field prints all headers. -/
theorem keyColumn_eq_of_recarried (key : Schema) (h : header.Recarried header') :
    keyColumn request key header = keyColumn (request.withHeaders headers) key header' := by
  rw [keyColumn, keyColumn, ← columnName_eq_of_recarried h, h.key_eq,
    shownHeaders_eq_of_recarried hheaders]
  rfl

/-- Neither do the columns from the record's key, nor the words of rejections. -/
theorem fromKey_eq_of_recarried : fromKey request = fromKey (request.withHeaders headers) := by
  have hcolumns : ∀ key, request.headers.mapM (keyColumn request key) =
      headers.mapM (keyColumn (request.withHeaders headers) key) :=
    fun key => mapM_eq_of_forall₂ hheaders fun _ _ h => keyColumn_eq_of_recarried hheaders key h
  have hshown := shownHeaders_eq_of_recarried hheaders
  have hkey : (request.withHeaders headers).key = request.key := rfl
  rw [fromKey, fromKey, hkey]
  cases request.key with
  | none => rfl
  | some key =>
    simp only [hcolumns key]
    refine ite_congr rfl (fun _ => ?_) fun _ => rfl
    -- A key of one value takes exactly one header; with any other number of them all are printed.
    rw [hshown]
    generalize request.headers = given at hheaders
    cases hheaders with
    | nil => rfl
    | @cons header header' _ _ hheader hrest =>
      cases hrest with
      | nil =>
        show columnName request header >>= _ =
          columnName (request.withHeaders [header']) header' >>= _
        rw [← columnName_eq_of_recarried hheader]
      | cons hsecond hrest => rfl

theorem fromValue_eq_of_recarried :
    fromValue request = fromValue (request.withHeaders headers) := by
  have hfound : ∀ value, request.headers.mapM (valueColumn request value) =
      headers.mapM (valueColumn (request.withHeaders headers) value) :=
    fun value => mapM_eq_of_forall₂ hheaders fun _ _ h => valueColumn_eq_of_recarried value h
  simp only [fromValue, hfound]
  rfl

/-- Headers whose texts come in other carriers name the same key, or are rejected alike. -/
theorem derive_eq_of_recarried : derive request = derive (request.withHeaders headers) := by
  rw [derive, derive, fromKey_eq_of_recarried hheaders, fromValue_eq_of_recarried hheaders]
  rfl

end Recarried

/-- Where headers name a key, each of them stands for a text. -/
theorem exists_renders_of_derive {key : KeyColumns} (h : derive request = .ok key) :
    ∀ header ∈ request.headers, ∃ name, header.Renders name := by
  unfold derive at h
  split at h
  · obtain ⟨-, _, -, hnamed⟩ := fromKey_eq_ok_iff.mp h
    exact (exists_namedByKey_iff.mp ⟨key, hnamed⟩).2
  · cases hvalue : request.value with
    | none =>
      rw [fromValue, hvalue] at h
      cases h
    | some value =>
      intro header hheader
      obtain ⟨-, hnames⟩ := (exists_fromValue_iff hvalue).mp ⟨key, h⟩
      obtain ⟨name, hname, -⟩ := hnames header hheader
      exact ⟨name, hname⟩

end Flatten

/-! ## Resolutions -/

namespace Resolve

variable {given : Datum} {mode : KeyMode} {whitelist : List String}

/-- Only where headers name the columns are they looked at. -/
theorem derive_eq_of_recarried
    (hheaders : List.Forall₂ Header.Recarried request.headers headers) :
    Key.derive mode request = Key.derive mode (request.withHeaders headers) := by
  cases mode with
  | none => rfl
  | kafka => exact Key.coordinates_congr rfl rfl
  | recordKey => exact Key.ofKey_congr rfl rfl rfl
  | recordValue => exact Key.ofValue_congr rfl rfl rfl
  | flatten => exact Flatten.derive_eq_of_recarried hheaders

theorem resolve_eq_of_recarried
    (hheaders : List.Forall₂ Header.Recarried request.headers headers) :
    resolve given whitelist request = resolve given whitelist (request.withHeaders headers) := by
  refine resolve_eq_of_split rfl (split_congr rfl rfl rfl ?_ ?_)
  · exact fun _ _ => derive_eq_of_recarried hheaders
  · exact fun _ _ _ => Iff.rfl

section NoText

variable {header : Header} (hheader : header ∈ request.headers)
  (hnone : ∀ name, ¬header.Renders name)
include hheader hnone

/-- A record with a header that stands for no text has no layout. -/
theorem resolve_ne_ok_of_no_text (whitelist : List String) (layout : Layout) :
    (resolve (.text KeyMode.flatten.text) whitelist request).outcome ≠ .ok layout := by
  intro h
  obtain ⟨key, hleads⟩ := outcome_text_eq_ok_iff.mp h
  obtain ⟨name, hname⟩ := Flatten.exists_renders_of_derive hleads.derives header hheader
  exact hnone name hname

/-- It is rejected, for this or for an earlier reason, if the values of headers can be written. -/
theorem exists_rejection_of_no_text (hprints : request.Prints) (whitelist : List String) :
    ∃ rejection, (resolve (.text KeyMode.flatten.text) whitelist request).outcome =
      .error (.rejected rejection) := by
  rw [outcome_resolve, modeOf_eq_ok_iff.mpr rfl]
  show ∃ rejection, checkValue .flatten request >>= _ = _
  rcases hcheck : checkValue .flatten request with failure | _
  · obtain ⟨value, -, -, rfl⟩ := checkValue_eq_error_iff.mp hcheck
    exact ⟨_, rfl⟩
  have hsettles := Key.derive_settles request .flatten
  rcases hsettles.ok_or_rejected hprints.not_exceeds with ⟨key, hkey⟩ | ⟨rejection, hrejection⟩
  · obtain ⟨name, hname⟩ := Flatten.exists_renders_of_derive hkey header hheader
    exact absurd hname (hnone name)
  · refine ⟨rejection, ?_⟩
    show Key.derive .flatten request >>= _ = _
    rw [hrejection]
    rfl

end NoText

/-- Bytes that encode no text stand for none, in either carrier. -/
theorem not_renders_of_bytes {header : Header} {bytes : List UInt8}
    (hvalue : header.value = .bytes bytes ∨ header.value = .buffer bytes)
    (hbytes : ∀ text, bytes ≠ Text.Utf8.encode text) (name : String) : ¬header.Renders name := by
  intro hname
  unfold Header.Renders at hname
  rcases hvalue with hvalue | hvalue
  · rw [hvalue] at hname
    exact hbytes name hname
  · rw [hvalue] at hname
    exact hbytes name hname

/-- Whether a header holds a text or the bytes that encode it makes no difference to a resolution.
Where headers name the columns, bytes that encode no text never lead to a layout. They lead to a
rejection, unless there is no way to write the value of a header. -/
theorem carrier_of_text_irrelevant :
    (∀ given whitelist request headers,
      List.Forall₂ Header.Recarried request.headers headers →
      resolve given whitelist request = resolve given whitelist (request.withHeaders headers)) ∧
    ∀ whitelist request header bytes, header ∈ request.headers →
      header.value = .bytes bytes ∨ header.value = .buffer bytes →
      (∀ text, bytes ≠ Text.Utf8.encode text) →
      (∀ layout, (resolve (.text KeyMode.flatten.text) whitelist request).outcome ≠ .ok layout) ∧
      (request.Prints →
        ∃ rejection, (resolve (.text KeyMode.flatten.text) whitelist request).outcome =
          .error (.rejected rejection)) := by
  refine ⟨fun given whitelist request headers hheaders => resolve_eq_of_recarried hheaders, ?_⟩
  intro whitelist request header bytes hheader hvalue hbytes
  have hnone := not_renders_of_bytes hvalue hbytes
  exact ⟨resolve_ne_ok_of_no_text hheader hnone whitelist,
    fun hprints => exists_rejection_of_no_text hheader hnone hprints whitelist⟩

/-- A record whose only header names a column with a letter of two bytes. -/
def accentedRequest : KeyRequest where
  table := "orders"
  value := some { Schema.ofType .struct false with
    fields := Schema.numbered [("né", .ofType .int32 false)] }
  headers := [⟨"x", .text "né"⟩]

/-- The two bytes of that letter name the same column. The one byte that other encodings have for it
names none. -/
theorem accentedRequest_recarried :
    List.Forall₂ Header.Recarried accentedRequest.headers [⟨"x", .buffer [110, 195, 169]⟩] ∧
      resolve (.text "flatten") [] accentedRequest =
        resolve (.text "flatten") []
          (accentedRequest.withHeaders [⟨"x", .buffer [110, 195, 169]⟩]) ∧
      (∃ layout, (resolve (.text "flatten") [] accentedRequest).outcome = .ok layout ∧
        layout.keyNames = ["né"]) ∧
      (∀ text, [110, 233] ≠ Text.Utf8.encode text) ∧
      ∃ rejection, (resolve (.text "flatten") []
        (accentedRequest.withHeaders [⟨"x", .bytes [110, 233]⟩])).outcome =
          .error (.rejected rejection) := by
  have hencode : Text.Utf8.encode "né" = [110, 195, 169] := by decide
  have hheaders : List.Forall₂ Header.Recarried accentedRequest.headers
      [⟨"x", .buffer [110, 195, 169]⟩] := by
    rw [← hencode]
    exact .cons (.buffer "x" "né") .nil
  have hnone : ∀ text, [110, 233] ≠ Text.Utf8.encode text := by
    intro text h
    have hread : Text.Utf8.decode [110, 233] = .ok text := Text.Utf8.decode_eq_ok_iff.mpr h
    cases hread
  obtain ⟨hsame, hrejected⟩ := carrier_of_text_irrelevant
  refine ⟨hheaders, hsame _ _ _ _ hheaders, ⟨_, rfl, rfl⟩, hnone, ?_⟩
  have hprints : (accentedRequest.withHeaders [⟨"x", .bytes [110, 233]⟩]).Prints :=
    KeyRequest.prints_of_unlimited rfl
  exact (hrejected [] _ _ _ List.mem_cons_self (.inl rfl) hnone).2 hprints

end Resolve

end TableLayout
