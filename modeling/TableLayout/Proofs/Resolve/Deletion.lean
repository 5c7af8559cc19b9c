import TableLayout.Proofs.Key.Inputs
import TableLayout.Proofs.Key.KeySourced
import TableLayout.Proofs.Resolve.Steps

/-!
# Deletions and writes

Where headers name the columns, a record that is written has its key from its value, and the record
without value that deletes it has its key from the record's key. A row is found again only if both
have the same key columns in the same order.

- `Flatten.HeadersFit.refersToKey`: headers that fit a struct refer to it.
- `Resolve.deletion_addresses_written_key`: a record that is written and its deletion have the same
  key columns in the same order. The deletion has a layout exactly if there are headers and they fit
  the record's key.
-/

namespace TableLayout

variable {request : KeyRequest} {value : Schema}

/-- Headers that fit a struct refer to it. -/
theorem Flatten.HeadersFit.refersToKey {key : Schema} (hkey : request.key = some key)
    (hstruct : key.type = .struct) (hfit : HeadersFit request.headers key) :
    ∀ header ∈ request.headers, RefersToKey request header := by
  rcases hfit with ⟨hprimitive, -⟩ | ⟨-, hmem⟩
  · rw [hstruct] at hprimitive
    cases hprimitive
  · exact fun header hheader => ⟨key, hkey, .inl ⟨hstruct, hmem header hheader⟩⟩

namespace Resolve

open Flatten (HeadersFit NamedByKey NamedByValue)

variable {whitelist : List String} {written deleted : Layout}

/-- The written record has the key columns that its headers name by its value. -/
theorem namedByValue_of_resolve
    (h : (resolve (.text KeyMode.flatten.text) whitelist (request.withValue value)).outcome =
      .ok written) :
    request.Prints ∧ ∃ columns, NamedByValue (request.withValue value) value columns ∧
      written.keyNames = columns.names ∧ written.keySourced = columns.keySourced := by
  obtain ⟨columns, hcolumns, hjoins⟩ := exists_joins_of_resolve h
  obtain ⟨hprints, hnamed⟩ := (Flatten.derive_eq_ok_iff_namedByValue rfl).mp hcolumns
  exact ⟨hprints, columns, hnamed, hjoins.keyNames, hjoins.keySourced⟩

section Deletion

variable (hdeletes : request.deleteEnabled = true ∨ request.insertMode = .upsert)
include hdeletes

theorem derive_withValue_none_eq_ok_iff {columns : KeyColumns} :
    Key.derive .flatten (request.withValue none) = .ok columns ↔ request.Prints ∧
      ∃ key, request.key = some key ∧ NamedByKey (request.withValue none) key columns := by
  have hderive : Key.derive .flatten (request.withValue none) =
      Flatten.fromKey (request.withValue none) := Flatten.derive_eq_fromKey rfl hdeletes
  rw [hderive]
  exact Flatten.fromKey_eq_ok_iff

/-- The deleted record has those that its headers name by its key. -/
theorem namedByKey_of_resolve
    (h : (resolve (.text KeyMode.flatten.text) whitelist (request.withValue none)).outcome =
      .ok deleted) :
    ∃ key columns, request.key = some key ∧ NamedByKey (request.withValue none) key columns ∧
      deleted.keyNames = columns.names ∧ deleted.keySourced = columns.keySourced := by
  obtain ⟨columns, hcolumns, hjoins⟩ := exists_joins_of_resolve h
  obtain ⟨-, key, hkey, hnamed⟩ := (derive_withValue_none_eq_ok_iff hdeletes).mp hcolumns
  exact ⟨key, columns, hkey, hnamed, hjoins.keyNames, hjoins.keySourced⟩

/-- Without a value there are no columns but those of the key, so headers are needed. -/
theorem exists_deletion_iff (hprints : request.Prints)
    (htexts : ∀ header ∈ request.headers, ∃ name, header.Renders name) :
    (∃ deleted, (resolve (.text KeyMode.flatten.text) whitelist
        (request.withValue none)).outcome = .ok deleted) ↔
      request.headers ≠ [] ∧ ∃ key, request.key = some key ∧ HeadersFit request.headers key := by
  -- Without a value there are no other columns, so the headers have to bring some.
  have hnonempty : ∀ {key columns}, NamedByKey (request.withValue none) key columns →
      (columns.columns ++ remaining .flatten whitelist (request.withValue none) columns ≠ [] ↔
        request.headers ≠ []) := by
    intro key columns hnamed
    have hothers : remaining .flatten whitelist (request.withValue none) columns = [] := rfl
    rw [hothers, List.append_nil]
    exact List.map_eq_nil_iff.not.symm.trans hnamed.standFor.eq_nil_iff.not
  have hvalue : ∀ {P : Schema → Prop}, ∀ value ∈ (request.withValue none).value, P value :=
    fun _ h => nomatch h
  rw [exists_resolve_iff hvalue]
  constructor
  · rintro ⟨-, columns, hcolumns, hany⟩
    obtain ⟨-, key, hkey, hnamed⟩ := (derive_withValue_none_eq_ok_iff hdeletes).mp hcolumns
    have hfit := (Flatten.exists_namedByKey_iff.mp ⟨columns, hnamed⟩).1
    exact ⟨(hnonempty hnamed).mp hany, key, hkey, hfit⟩
  · rintro ⟨hheaders, key, hkey, hfit⟩
    obtain ⟨columns, hnamed⟩ : ∃ columns, NamedByKey (request.withValue none) key columns :=
      Flatten.exists_namedByKey_iff.mpr ⟨hfit, htexts⟩
    refine ⟨hvalue, columns, ?_, (hnonempty hnamed).mpr hheaders⟩
    exact (derive_withValue_none_eq_ok_iff hdeletes).mpr ⟨hprints, key, hkey, hnamed⟩

end Deletion

/-- A record that is written and its deletion have the same key columns in the same order, and where
the record's key is a struct, both read all of them from there. -/
theorem deletion_addresses_written_key
    (hdeletes : request.deleteEnabled = true ∨ request.insertMode = .upsert)
    (hwritten : (resolve (.text KeyMode.flatten.text) whitelist
      (request.withValue value)).outcome = .ok written) :
    ((∃ deleted, (resolve (.text KeyMode.flatten.text) whitelist
        (request.withValue none)).outcome = .ok deleted) ↔
      request.headers ≠ [] ∧ ∃ key, request.key = some key ∧ HeadersFit request.headers key) ∧
    ∀ deleted, (resolve (.text KeyMode.flatten.text) whitelist
        (request.withValue none)).outcome = .ok deleted →
      deleted.keyNames = written.keyNames ∧
      ∀ key, request.key = some key → key.type = .struct →
        deleted.keySourced = some deleted.keyNames ∧
          written.keySourced = some written.keyNames := by
  -- The written record has the same headers, so the values of these can be written.
  obtain ⟨hprints, fromValue, hvalue, hwrittenNames, hwrittenSourced⟩ :=
    namedByValue_of_resolve hwritten
  constructor
  · refine exists_deletion_iff hdeletes hprints fun header hheader => ?_
    obtain ⟨name, hname, -⟩ := hvalue.namesField header hheader
    exact ⟨name, hname⟩
  intro deleted hdeleted
  obtain ⟨key, fromKey, hkey, hnamed, hnames, hsourced⟩ := namedByKey_of_resolve hdeletes hdeleted
  -- The two keys are derived from different parts of the record, but by the same headers.
  have hsame : fromKey.names = fromValue.names := hnamed.standFor.unique hvalue.standFor
  refine ⟨by rw [hnames, hwrittenNames, hsame], fun key' hkey' hstruct => ⟨?_, ?_⟩⟩
  · rw [hsourced, hnamed.keySourced_eq, hnames]
  · obtain rfl := Option.some.inj (hkey.symm.trans hkey')
    have hfit := (Flatten.exists_namedByKey_iff.mp ⟨fromKey, hnamed⟩).1
    have hrefers := Flatten.HeadersFit.refersToKey hkey hstruct hfit
    rw [hwrittenSourced, hvalue.keySourced_eq hrefers, hwrittenNames]

/-- A record whose headers rename both fields of its key, the first of them twice. -/
def renamedRequest : KeyRequest where
  table := "orders"
  key := some { Schema.ofType .struct false with
    fields := Schema.numbered [("id", .ofType .int32 false), ("at", .ofType .int64 false)] }
  headers := [⟨"at", .text "b"⟩, ⟨"id", .bytes [97]⟩, ⟨"id", .text "b"⟩]
  deleteEnabled := true

/-- A value with the fields that the headers of `renamedRequest` name, in another order and of other
types than in the key. -/
def renamedValue : Schema :=
  { Schema.ofType .struct false with
    fields := Schema.numbered [("a", .ofType .string true), ("b", .ofType .string false),
      ("c", .ofType .string true)] }

theorem renamedRequest_keyNames :
    ∃ written deleted,
      (resolve (.text "flatten") [] (renamedRequest.withValue renamedValue)).outcome = .ok written ∧
      (resolve (.text "flatten") [] (renamedRequest.withValue none)).outcome = .ok deleted ∧
      written.keyNames = ["b", "a"] ∧ deleted.keyNames = written.keyNames ∧
      written.keySourced = some ["b", "a"] ∧ deleted.keySourced = some ["b", "a"] := by
  have hwritten : (resolve (.text "flatten") []
      (renamedRequest.withValue renamedValue)).outcome = .ok _ := rfl
  have hdeleted : (resolve (.text "flatten") [] (renamedRequest.withValue none)).outcome = .ok _ :=
    rfl
  have haddresses := deletion_addresses_written_key (.inl rfl) hwritten
  obtain ⟨hnames, hsourced⟩ := haddresses.2 _ hdeleted
  obtain ⟨hdeletedSourced, hwrittenSourced⟩ := hsourced _ rfl rfl
  exact ⟨_, _, hwritten, hdeleted, rfl, hnames, hwrittenSourced, hdeletedSourced⟩

end Resolve

end TableLayout
