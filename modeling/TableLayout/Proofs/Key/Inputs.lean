import TableLayout.Key.Derive

/-!
# What the derivation of a key reads

One statement for each way to derive a key: two requests that agree on what it reads have the same
key, or fail for the same reason. The table is among it each time, for rejections name it.

- `KeyRequest.withValue`, `KeyRequest.withHeaders`: a record with another value, or with none, and
  with other headers.
- `Key.coordinates_congr`, `Key.ofKey_congr`, `Key.ofValue_congr`: the configured names, and of the
  record its key, its value or nothing.
- `Flatten.derive_congr`: the record, its headers, how long the numbers in these may be and, if
  there is no value, what deletes the record.
-/

namespace TableLayout

/-- The record with this value instead of its own. -/
def KeyRequest.withValue (request : KeyRequest) (value : Option Schema) : KeyRequest :=
  { request with value }

/-- The record with these headers instead of its own. -/
def KeyRequest.withHeaders (request : KeyRequest) (headers : List Header) : KeyRequest :=
  { request with headers }

variable {request request' : KeyRequest}

namespace Key

/-- Coordinates depend on the configured names. -/
theorem coordinates_congr (htable : request.table = request'.table)
    (hconfigured : request.configured = request'.configured) :
    coordinates request = coordinates request' := by
  have hnames : coordinateNames request = coordinateNames request' := by
    simp only [coordinateNames, KeyRequest.reject, htable, hconfigured]
  rw [coordinates, coordinates, hnames]

theorem ofStruct_congr (htable : request.table = request'.table)
    (hconfigured : request.configured = request'.configured) (mode : KeyMode) (payload : Payload)
    (schema : Schema) :
    KeyColumns.ofStruct request mode payload schema =
      KeyColumns.ofStruct request' mode payload schema := by
  simp only [KeyColumns.ofStruct, KeyColumns.requireFields, KeyRequest.reject, htable, hconfigured]

/-- The key from the record's key depends on that and on the configured names. -/
theorem ofKey_congr (htable : request.table = request'.table) (hkey : request.key = request'.key)
    (hconfigured : request.configured = request'.configured) :
    ofKey request = ofKey request' := by
  simp only [ofKey, KeyRequest.reject, htable, hkey, hconfigured,
    ofStruct_congr htable hconfigured]

theorem ofValue_congr (htable : request.table = request'.table)
    (hvalue : request.value = request'.value)
    (hconfigured : request.configured = request'.configured) :
    ofValue request = ofValue request' := by
  simp only [ofValue, KeyRequest.reject, htable, hvalue, ofStruct_congr htable hconfigured]

end Key

namespace Flatten

/-- The name for a column depends on the header, and on the table for a rejection. -/
theorem columnName_congr (htable : request.table = request'.table)
    (hdigits : request.digits = request'.digits) : columnName request = columnName request' := by
  funext header
  simp only [columnName, KeyRequest.reject, htable, hdigits]

/-- Columns from the record's key do not depend on its value or on configured names. -/
theorem fromKey_congr (htable : request.table = request'.table)
    (hkey : request.key = request'.key) (hheaders : request.headers = request'.headers)
    (hdigits : request.digits = request'.digits) : fromKey request = fromKey request' := by
  have hshown : request.shownHeaders = request'.shownHeaders := by
    simp only [KeyRequest.shownHeaders, hheaders, hdigits]
  have hcolumn : keyColumn request = keyColumn request' := by
    funext key header
    simp only [keyColumn, KeyRequest.reject, htable, hshown, columnName_congr htable hdigits]
  simp only [fromKey, KeyRequest.reject, htable, hkey, hheaders, hshown, hcolumn,
    columnName_congr htable hdigits]

theorem fromValue_congr (htable : request.table = request'.table)
    (hkey : request.key = request'.key) (hvalue : request.value = request'.value)
    (hheaders : request.headers = request'.headers) (hdigits : request.digits = request'.digits) :
    fromValue request = fromValue request' := by
  have hcolumn : valueColumn request = valueColumn request' := by
    funext value header
    simp only [valueColumn, KeyRequest.reject, htable, hkey, columnName_congr htable hdigits]
  simp only [fromValue, KeyRequest.reject, htable, hvalue, hheaders, hcolumn]

/-- Whether a record deletes counts only if it has no value. -/
theorem branch_congr {valuePresent deleteEnabled deleteEnabled' : Bool}
    {insertMode insertMode' : InsertMode}
    (h : valuePresent = false → deleteEnabled = deleteEnabled' ∧ insertMode = insertMode') :
    branch valuePresent deleteEnabled insertMode =
      branch valuePresent deleteEnabled' insertMode' := by
  cases valuePresent with
  | true => rfl
  | false =>
    obtain ⟨rfl, rfl⟩ := h rfl
    rfl

/-- Where headers name the columns, whether the record deletes or is written by its key counts only
if it has no value. -/
theorem derive_congr (htable : request.table = request'.table)
    (hkey : request.key = request'.key) (hvalue : request.value = request'.value)
    (hheaders : request.headers = request'.headers) (hdigits : request.digits = request'.digits)
    (hdeletes : request.value.isSome = false →
      request.deleteEnabled = request'.deleteEnabled ∧ request.insertMode = request'.insertMode) :
    derive request = derive request' := by
  rw [derive, derive, branch_congr hdeletes, hvalue, fromKey_congr htable hkey hheaders hdigits,
    fromValue_congr htable hkey hvalue hheaders hdigits]

end Flatten

end TableLayout
