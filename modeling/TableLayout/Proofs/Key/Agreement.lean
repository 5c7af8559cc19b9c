import TableLayout.Proofs.Key.Inputs
import TableLayout.Proofs.Schema.Agreement

/-!
# Keys of records that count as equal

Two requests whose schemas count as equal, and which are the same besides, have keys that count as
equal, or are rejected in the same words.

- `KeyRequest.Agrees`, `KeyColumns.Agrees`: requests and keys that count as equal.
- `KeyColumns.ofStruct_alike`: choosing fields of a struct.
- `Key.coordinates_alike`, `Key.ofKey_alike`, `Key.ofValue_alike`, `Flatten.fromKey_alike`,
  `Flatten.fromValue_alike`: every way to derive a key.
- `Key.derive_alike`: every mode.
-/

namespace TableLayout

/-- The schemas of two requests count as equal, and everything else is the same. -/
structure KeyRequest.Agrees (request request' : KeyRequest) : Prop where
  table : request.table = request'.table
  key : Schema.agreeParts request.key request'.key = true
  value : Schema.agreeParts request.value request'.value = true
  configured : request.configured = request'.configured
  headers : request.headers = request'.headers
  deleteEnabled : request.deleteEnabled = request'.deleteEnabled
  insertMode : request.insertMode = request'.insertMode
  digits : request.digits = request'.digits

/-- The columns of two keys count as equal, and the same ones are read from the record's key. -/
structure KeyColumns.Agrees (key key' : KeyColumns) : Prop where
  columns : Column.AllAgree key.columns key'.columns
  keySourced : key.keySourced = key'.keySourced

theorem KeyColumns.Agrees.names_eq {key key' : KeyColumns} (h : key.Agrees key') :
    key.names = key'.names :=
  h.columns.names_eq

variable {request request' : KeyRequest} {mode : KeyMode} {payload : Payload}

/-- The headers are the same, so they are written in the same way. -/
theorem KeyRequest.Agrees.shownHeaders_eq (h : request.Agrees request') :
    request.shownHeaders = request'.shownHeaders := by
  simp only [KeyRequest.shownHeaders, h.headers, h.digits]

/-- Rejections of one table for one cause are the same. -/
theorem KeyRequest.reject_alike {α β : Type} {R : α → β → Prop}
    (htable : request.table = request'.table) (cause : Rejection.Cause) :
    Alike R (request.reject (α := α) cause) (request'.reject (α := β) cause) := by
  rw [KeyRequest.reject, KeyRequest.reject, htable]
  exact .error _

/-! ## Fields of a struct -/

namespace KeyColumns

/-- The guard against repeated names looks at names only. -/
theorem make_alike {columns columns' : List Column} (hcolumns : Column.AllAgree columns columns')
    (keySourced : Option (List String)) :
    Alike KeyColumns.Agrees (make columns keySourced) (make columns' keySourced) := by
  have hnames : columns.map Column.name = columns'.map Column.name := hcolumns.names_eq
  unfold make
  rw [hnames]
  by_cases hdistinct : (columns'.map Column.name).Nodup
  · rw [if_pos hdistinct, if_pos hdistinct]
    exact .ok ⟨hcolumns, rfl⟩
  · rw [if_neg hdistinct, if_neg hdistinct]
    exact .error _

variable {schema schema' : Schema} (hschema : schema.agrees schema' = true)
include hschema

/-- A key of one column, which has the schema itself. -/
theorem make_singleton_alike (name : String) (keySourced : Option (List String)) :
    Alike KeyColumns.Agrees (make [⟨name, schema, true⟩] keySourced)
      (make [⟨name, schema', true⟩] keySourced) := by
  have hcolumn : Column.agrees ⟨name, schema, true⟩ ⟨name, schema', true⟩ = true :=
    Column.agrees_iff.mpr ⟨rfl, hschema, rfl⟩
  exact make_alike (.cons hcolumn .nil) keySourced

/-- Schemas that count as equal have the same fields, with schemas that count as equal. -/
theorem column_alike (name : String) :
    Alike (fun a b => a.agrees b = true) (column schema name) (column schema' name) := by
  unfold column
  rcases Schema.field?_elim hschema name with
    ⟨hfield, hfield'⟩ | ⟨field, field', hfield, hfield', hagrees⟩
  · rw [hfield, hfield']
    exact .error _
  · rw [hfield, hfield']
    exact .ok (Column.agrees_iff.mpr ⟨rfl, hagrees.schema, rfl⟩)

theorem ofNames_alike (names : List String) :
    Alike Column.AllAgree (ofNames schema names) (ofNames schema' names) :=
  Alike.mapM fun name _ => column_alike hschema name

/-- Names are missing from both schemas or from neither, and are reported in the same words. -/
theorem requireFields_eq (htable : request.table = request'.table) (names : List String) :
    requireFields request mode payload schema names =
      requireFields request' mode payload schema' names := by
  simp only [requireFields, KeyRequest.reject, htable, Schema.fieldNames_eq_of_agrees hschema,
    ← Option.not_isSome, Schema.isSome_field?_of_agrees hschema]

/-- The fields of such structs make keys that count as equal. -/
theorem ofStruct_alike (htable : request.table = request'.table)
    (hconfigured : request.configured = request'.configured) :
    Alike KeyColumns.Agrees (ofStruct request mode payload schema)
      (ofStruct request' mode payload schema') := by
  unfold ofStruct
  rw [hconfigured, Schema.fieldNames_eq_of_agrees hschema, requireFields_eq hschema htable]
  cases request'.configured.isEmpty with
  | true => exact (ofNames_alike hschema _).bind fun _ _ hcolumns => make_alike hcolumns none
  | false =>
    refine Alike.bind_same fun _ => ?_
    exact (ofNames_alike hschema _).bind fun _ _ hcolumns => make_alike hcolumns none

end KeyColumns

/-! ## Coordinates, key and value -/

namespace Key

/-- The columns of coordinates have schemas of their own, whatever those of the record are. -/
theorem coordinates_alike (h : request.Agrees request') :
    Alike KeyColumns.Agrees (coordinates request) (coordinates request') := by
  rw [coordinates_congr h.table h.configured]
  unfold coordinates
  refine Alike.bind_same fun names => ?_
  refine KeyColumns.make_alike (List.forall₂_same.mpr fun column hcolumn => ?_) none
  rw [← List.map_uncurry_zip_eq_zipWith] at hcolumn
  obtain ⟨⟨name, type⟩, -, rfl⟩ := List.mem_map.mp hcolumn
  exact Column.agrees_iff.mpr ⟨rfl, Schema.agrees_ofType _ _, rfl⟩

/-- The shape of the key, and so the way that is taken, is the same. -/
theorem ofKey_alike (h : request.Agrees request') :
    Alike KeyColumns.Agrees (ofKey request) (ofKey request') := by
  unfold ofKey
  rcases Schema.agreeParts_elim h.key with
    ⟨hkey, hkey'⟩ | ⟨key, key', hkey, hkey', hagrees⟩
  · rw [hkey, hkey']
    exact KeyRequest.reject_alike h.table _
  have htype : key.type = key'.type := Schema.type_eq_of_agrees hagrees
  have hstruct : key.isStruct = key'.isStruct := Schema.isStruct_eq_of_agrees hagrees
  simp only [hkey, hkey', htype, hstruct, h.configured]
  by_cases hprimitive : key'.type.isPrimitive
  · rw [if_pos hprimitive, if_pos hprimitive]
    -- Only a single configured name makes up a key.
    rcases request'.configured with _ | ⟨name, _ | ⟨name', names⟩⟩
    · exact KeyRequest.reject_alike h.table _
    · exact KeyColumns.make_singleton_alike hagrees name none
    · exact KeyRequest.reject_alike h.table _
  · rw [if_neg hprimitive, if_neg hprimitive]
    cases key'.isStruct with
    | true => exact KeyColumns.ofStruct_alike hagrees h.table h.configured
    | false => exact KeyRequest.reject_alike h.table _

/-- The same for the record's value. -/
theorem ofValue_alike (h : request.Agrees request') :
    Alike KeyColumns.Agrees (ofValue request) (ofValue request') := by
  unfold ofValue
  rcases Schema.agreeParts_elim h.value with
    ⟨hvalue, hvalue'⟩ | ⟨value, value', hvalue, hvalue', hagrees⟩
  · rw [hvalue, hvalue']
    exact KeyRequest.reject_alike h.table _
  · rw [hvalue, hvalue']
    exact KeyColumns.ofStruct_alike hagrees h.table h.configured

end Key

/-! ## Headers -/

namespace Flatten

/-- Whether a header refers to the key depends on its shape and on the names of its fields. -/
theorem refersToKey_eq {key key' : Schema} (hkey : key.agrees key' = true) (headerKey : String) :
    refersToKey key headerKey = refersToKey key' headerKey := by
  rw [refersToKey, refersToKey, Schema.isStruct_eq_of_agrees hkey,
    Schema.isSome_field?_of_agrees hkey]

/-- A header finds its field in both keys or in neither. -/
theorem keyColumn_alike (h : request.Agrees request') {key key' : Schema}
    (hkey : key.agrees key' = true) (header : Header) :
    Alike (fun a b => a.agrees b = true) (keyColumn request key header)
      (keyColumn request' key' header) := by
  unfold keyColumn
  rcases Schema.field?_elim hkey header.key with
    ⟨hfield, hfield'⟩ | ⟨field, field', hfield, hfield', hagrees⟩
  · rw [hfield, hfield', h.shownHeaders_eq, Schema.fieldNames_eq_of_agrees hkey]
    exact Alike.bind_same fun _ => KeyRequest.reject_alike h.table _
  · rw [hfield, hfield', columnName_congr h.table h.digits]
    refine Alike.bind_same fun name => ?_
    exact .ok (Column.agrees_iff.mpr ⟨rfl, hagrees.schema, rfl⟩)

/-- Keys that count as equal lead to columns that do, or to the same rejection. -/
theorem fromKey_alike (h : request.Agrees request') :
    Alike KeyColumns.Agrees (fromKey request) (fromKey request') := by
  unfold fromKey
  rcases Schema.agreeParts_elim h.key with
    ⟨hkey, hkey'⟩ | ⟨key, key', hkey, hkey', hagrees⟩
  · rw [hkey, hkey']
    exact KeyRequest.reject_alike h.table _
  have htype : key.type = key'.type := Schema.type_eq_of_agrees hagrees
  have hstruct : key.isStruct = key'.isStruct := Schema.isStruct_eq_of_agrees hagrees
  simp only [hkey, hkey', htype, hstruct, h.headers, h.shownHeaders_eq,
    columnName_congr h.table h.digits]
  by_cases hprimitive : key'.type.isPrimitive
  · rw [if_pos hprimitive, if_pos hprimitive]
    -- Only a single header makes up a key.
    rcases request'.headers with _ | ⟨header, _ | ⟨header', headers⟩⟩
    · exact Alike.bind_same fun _ => KeyRequest.reject_alike h.table _
    · refine Alike.bind_same fun name => ?_
      exact KeyColumns.make_singleton_alike hagrees name _
    · exact Alike.bind_same fun _ => KeyRequest.reject_alike h.table _
  · rw [if_neg hprimitive, if_neg hprimitive]
    cases key'.isStruct with
    | true =>
      refine (Alike.mapM fun header _ => keyColumn_alike h hagrees header).bind
        fun columns columns' hcolumns => ?_
      have hfirst : Column.AllAgree (Column.firstByName columns) (Column.firstByName columns') :=
        Column.AllAgree.firstByName hcolumns
      rw [hfirst.names_eq]
      exact KeyColumns.make_alike hfirst _
    | false => exact KeyRequest.reject_alike h.table _

/-- Two columns found by headers count as equal, and both or none are read from the record's key. -/
def FoundAlike (found found' : Column × Bool) : Prop :=
  found.1.agrees found'.1 = true ∧ found.2 = found'.2

/-- A header finds its field in both values or in neither, and refers to both keys or to neither. -/
theorem valueColumn_alike (h : request.Agrees request') {value value' : Schema}
    (hvalue : value.agrees value' = true) (header : Header) :
    Alike FoundAlike (valueColumn request value header) (valueColumn request' value' header) := by
  -- Of the record's key it only counts which names its fields have.
  have hrefers : request.key.any (refersToKey · header.key) =
      request'.key.any (refersToKey · header.key) := by
    rcases Schema.agreeParts_elim h.key with
      ⟨hkey, hkey'⟩ | ⟨key, key', hkey, hkey', hagrees⟩
    · rw [hkey, hkey']
    · rw [hkey, hkey', Option.any_some, Option.any_some, refersToKey_eq hagrees]
  unfold valueColumn
  rw [columnName_congr h.table h.digits]
  refine Alike.bind_same fun name => ?_
  rcases Schema.field?_elim hvalue name with
    ⟨hfield, hfield'⟩ | ⟨field, field', hfield, hfield', hagrees⟩
  · rw [hfield, hfield', Schema.fieldNames_eq_of_agrees hvalue]
    exact KeyRequest.reject_alike h.table _
  · rw [hfield, hfield']
    exact .ok ⟨Column.agrees_iff.mpr ⟨rfl, hagrees.schema, rfl⟩, hrefers⟩

/-- Values that count as equal lead to columns that do, or to the same rejection. -/
theorem fromValue_alike (h : request.Agrees request') :
    Alike KeyColumns.Agrees (fromValue request) (fromValue request') := by
  unfold fromValue
  rcases Schema.agreeParts_elim h.value with
    ⟨hvalue, hvalue'⟩ | ⟨value, value', hvalue, hvalue', hagrees⟩
  · rw [hvalue, hvalue']
    exact KeyRequest.reject_alike h.table _
  rw [hvalue, hvalue', h.headers]
  refine (Alike.mapM fun header _ => valueColumn_alike h hagrees header).bind
    fun found found' hfound => ?_
  have hcolumns : Column.AllAgree (found.map Prod.fst) (found'.map Prod.fst) :=
    List.rel_map (fun _ _ hcolumn => hcolumn.1) hfound
  have hsourced : ((found.filter Prod.snd).map fun entry => entry.1.name) =
      (found'.filter Prod.snd).map fun entry => entry.1.name :=
    map_eq_of_forall₂ (filter_of_forall₂ hfound fun _ _ hcolumn => hcolumn.2)
      fun _ _ hcolumn => (Column.agrees_iff.mp hcolumn.1).1
  rw [hsourced]
  exact KeyColumns.make_alike hcolumns.firstByName _

/-- The branch that is taken depends on whether there is a value. -/
theorem derive_alike (h : request.Agrees request') :
    Alike KeyColumns.Agrees (derive request) (derive request') := by
  have hpresent : request.value.isSome = request'.value.isSome := by
    rcases Schema.agreeParts_elim h.value with
      ⟨hvalue, hvalue'⟩ | ⟨value, value', hvalue, hvalue', -⟩
    · rw [hvalue, hvalue']
    · rw [hvalue, hvalue']
      rfl
  unfold derive
  rw [hpresent, h.deleteEnabled, h.insertMode]
  cases branch request'.value.isSome request'.deleteEnabled request'.insertMode with
  | keySourced => exact fromKey_alike h
  | valueSourced => exact fromValue_alike h

end Flatten

/-- The keys of records that count as equal do so too, under every mode. -/
theorem Key.derive_alike (h : request.Agrees request') (mode : KeyMode) :
    Alike KeyColumns.Agrees (Key.derive mode request) (Key.derive mode request') := by
  cases mode with
  | none => exact KeyColumns.make_alike .nil none
  | kafka => exact Key.coordinates_alike h
  | recordKey => exact Key.ofKey_alike h
  | recordValue => exact Key.ofValue_alike h
  | flatten => exact Flatten.derive_alike h

end TableLayout
