import TableLayout.Proofs.Key.KeySourced
import TableLayout.Proofs.Key.Struct

/-!
# Why no key is derived

A derivation that fails says in its rejection what stood in its way, and what it says is the case.

- `KeyRequest.part`: the schema of a part of a record.
- `Key.source`: the part of a record that a mode takes key columns from.
- `Key.AsksFor`: a name is asked for as that of a field: it is configured, or a header gives it.
- `Key.Arises`: the causes of a failing derivation, each with what has to be the case.
- `Key.derive_failsBy`: a derivation is rejected only for a cause that arises from the record, under
  every mode. It is put together from one such statement for each step of a derivation.
-/

namespace TableLayout

/-- The schema of a part of a record. -/
def KeyRequest.part (request : KeyRequest) : Payload → Option Schema
  | .key => request.key
  | .value => request.value

namespace Key

/-- The part of a record that the headers' columns are taken from. -/
def branchSource (request : KeyRequest) : Payload :=
  match Flatten.branch request.value.isSome request.deleteEnabled request.insertMode with
  | .keySourced => .key
  | .valueSourced => .value

/-- The part of a record that a mode takes key columns from. -/
def source (request : KeyRequest) : KeyMode → Option Payload
  | .none | .kafka => none
  | .recordKey => some .key
  | .recordValue => some .value
  | .flatten => some (branchSource request)

/-- A mode asks for a field of this name in a part of the record; the last text is how a rejection
shows where the name comes from. -/
inductive AsksFor (request : KeyRequest) : KeyMode → Payload → String → String → Prop where
  | configuredInKey {name : String} (hname : name ∈ request.configured) :
      AsksFor request .recordKey .key name (Text.listed request.configured)
  | configuredInValue {name : String} (hname : name ∈ request.configured) :
      AsksFor request .recordValue .value name (Text.listed request.configured)
  | headerKey {header : Header} (hheader : header ∈ request.headers) :
      AsksFor request .flatten .key header.key (Header.shownAll request.headers)
  | headerValue {header : Header} {name : String} (hheader : header ∈ request.headers)
      (hname : header.Renders name) : AsksFor request .flatten .value name name

/-- Why no key is derived under a mode, with what is the case for the record. -/
inductive Arises (request : KeyRequest) : KeyMode → Rejection.Cause → Prop where
  | coordinateNames (hsome : request.configured ≠ [])
      (hwrong : ¬(request.configured.length = 3 ∧ request.configured.Nodup)) :
      Arises request .kafka (.coordinateNames request.configured)
  | keyColumnCount {key : Schema} (hkey : request.key = some key)
      (hprimitive : key.type.isPrimitive = true) (hcount : request.configured.length ≠ 1) :
      Arises request .recordKey (.keyColumnCount key.type request.configured)
  | keyHeaderCount {key : Schema} (hkey : request.key = some key)
      (hprimitive : key.type.isPrimitive = true) (hcount : request.headers.length ≠ 1) :
      Arises request .flatten (.keyHeaderCount key.type (Header.shownAll request.headers))
  | undecodableHeader {header : Header} {fault : Text.Utf8.Fault}
      (hheader : header ∈ request.headers) (hfault : header.text = .error fault) :
      Arises request .flatten (.undecodableHeader header.key fault)
  | keyShape {mode : KeyMode} {key : Schema} (hsource : source request mode = some .key)
      (hkey : request.key = some key) (hprimitive : key.type.isPrimitive = false)
      (hstruct : key.type ≠ .struct) : Arises request mode (.keyShape mode key.type)
  | missingPayload {mode : KeyMode} {payload : Payload}
      (hsource : source request mode = some payload) (habsent : request.part payload = none) :
      Arises request mode (.missingPayload mode payload)
  | missingField {mode : KeyMode} {payload : Payload} {schema : Schema} {name shown : String}
      (hsource : source request mode = some payload) (hpart : request.part payload = some schema)
      (hasks : AsksFor request mode payload name shown) (hnot : name ∉ schema.fieldNames) :
      Arises request mode (.missingField mode payload name shown schema.fieldNames)

/-- A rejection of the record under a mode has a cause that arises from the record. -/
def Explained (request : KeyRequest) (mode : KeyMode) (rejection : Rejection) : Prop :=
  rejection.table = request.table ∧ Arises request mode rejection.cause

variable {request : KeyRequest}

theorem length_ne_one {α : Type} {items : List α} (h : ∀ item, items = [item] → False) :
    items.length ≠ 1 := by
  intro hone
  obtain ⟨item, hitem⟩ := List.length_eq_one_iff.mp hone
  exact h item hitem

/-- A rejection is explained by a cause that arises. -/
theorem reject_failsBy {α : Type} {mode : KeyMode} {cause : Rejection.Cause}
    (h : Arises request mode cause) :
    FailsBy (Explained request mode) (request.reject cause : Except Failure α) :=
  .of_rejected rfl ⟨rfl, h⟩

/-! ## Fields of a struct -/

/-- Fields that are there make up a key. -/
theorem make_ofNames_failsBy {P : Rejection → Prop} {schema : Schema} {names : List String}
    (h : ∀ name ∈ names, name ∈ schema.fieldNames) :
    FailsBy P
      (KeyColumns.ofNames schema names >>= fun columns => KeyColumns.make columns none) := by
  obtain ⟨key, hkey⟩ := KeyColumns.exists_make_ofNames h
  exact .of_ok hkey

/-- What is said to be missing is a configured name, and no field has it. -/
theorem requireFields_failsBy {mode : KeyMode} {payload : Payload} {schema : Schema}
    (hsource : source request mode = some payload) (hpart : request.part payload = some schema)
    (hasks : ∀ name ∈ request.configured,
      AsksFor request mode payload name (Text.listed request.configured)) :
    FailsBy (Explained request mode)
      (KeyColumns.requireFields request mode payload schema request.configured) := by
  unfold KeyColumns.requireFields
  split
  · next name hfound =>
    have hname : name ∈ request.configured := List.mem_of_find?_eq_some hfound
    have hmissing : (schema.field? name).isNone = true := by
      simpa using List.find?_some hfound
    have hnot : name ∉ schema.fieldNames :=
      Schema.field?_eq_none_iff.mp (Option.isNone_iff_eq_none.mp hmissing)
    exact reject_failsBy (.missingField hsource hpart (hasks name hname) hnot)
  · exact .of_ok rfl

/-- Configured names choose among the fields, and only one that no field has is in the way. -/
theorem ofStruct_failsBy {mode : KeyMode} {payload : Payload} {schema : Schema}
    (hsource : source request mode = some payload) (hpart : request.part payload = some schema)
    (hasks : ∀ name ∈ request.configured,
      AsksFor request mode payload name (Text.listed request.configured)) :
    FailsBy (Explained request mode) (KeyColumns.ofStruct request mode payload schema) := by
  unfold KeyColumns.ofStruct
  split
  · exact make_ofNames_failsBy fun name hname => hname
  · refine (requireFields_failsBy hsource hpart hasks).bind fun _ hrequired => ?_
    exact make_ofNames_failsBy (KeyColumns.requireFields_eq_ok_iff.mp hrequired)

/-- The record's key is absent or of the wrong shape, or the configured names do not fit it. -/
theorem ofKey_failsBy : FailsBy (Explained request .recordKey) (ofKey request) := by
  unfold ofKey
  split
  · next hkey => exact reject_failsBy (.missingPayload rfl hkey)
  · next key hkey =>
    split
    · next hprimitive =>
      split
      · exact .of_ok rfl
      · next hmany =>
        exact reject_failsBy (.keyColumnCount hkey hprimitive (length_ne_one hmany))
    · next hprimitive =>
      split
      · exact ofStruct_failsBy rfl hkey fun name hname => .configuredInKey hname
      · next hstruct =>
        have hshape : key.type ≠ .struct := by simpa [Schema.isStruct] using hstruct
        exact reject_failsBy (.keyShape rfl hkey (Bool.eq_false_iff.mpr hprimitive) hshape)

theorem ofValue_failsBy : FailsBy (Explained request .recordValue) (ofValue request) := by
  unfold ofValue
  cases hvalue : request.value with
  | none => exact reject_failsBy (.missingPayload rfl hvalue)
  | some value => exact ofStruct_failsBy rfl hvalue fun name hname => .configuredInValue hname

/-- Coordinates fail for their configured names alone. -/
theorem coordinates_failsBy : FailsBy (Explained request .kafka) (coordinates request) := by
  have hnames : FailsBy (Explained request .kafka) (coordinateNames request) := by
    unfold coordinateNames
    split
    · exact .of_ok rfl
    · next hsome =>
      split
      · exact .of_ok rfl
      · next hwrong =>
        have hconfigured : request.configured ≠ [] := mt List.isEmpty_iff.mpr hsome
        exact reject_failsBy (.coordinateNames hconfigured hwrong)
  refine hnames.bind fun names hok => ?_
  -- Three distinct names make up a key, so nothing fails after this.
  have hsettles := coordinateNames_settles request
  rw [hok] at hsettles
  obtain ⟨hlength, hdistinct⟩ := hsettles.of_ok
  obtain ⟨topic, partition, offset, rfl⟩ := List.length_eq_three.mp hlength
  exact .of_ok (KeyColumns.make_of_nodup hdistinct)

end Key

/-! ## Columns named by headers -/

namespace Flatten

open Key (Arises AsksFor Explained source branchSource length_ne_one reject_failsBy)

variable {request : KeyRequest}

/-- A message about all headers is only given where they can be written. -/
theorem rejectHeaders_failsBy {α : Type} {cause : String → Rejection.Cause}
    (h : Arises request .flatten (cause (Header.shownAll request.headers))) :
    FailsBy (Explained request .flatten)
      (request.shownHeaders >>= fun headers => (request.reject (cause headers) :
        Except Failure α)) := by
  unfold KeyRequest.shownHeaders
  split
  · exact fun _ hrejection => nomatch hrejection
  · exact reject_failsBy h

/-- The value of a header is no text, if that is what is said. -/
theorem columnName_failsBy {header : Header} (hheader : header ∈ request.headers) :
    FailsBy (Explained request .flatten) (columnName request header) := by
  refine (FailsBy.requirePrints request.digits header.value).bind fun _ _ => ?_
  -- Where the value cannot be written, no rejection comes of it.
  cases hfault : header.text with
  | ok name => exact .of_ok rfl
  | error fault => exact reject_failsBy (.undecodableHeader hheader hfault)

/-- A header is rejected for its key, which names no field, or for its value. -/
theorem keyColumn_failsBy {key : Schema} {header : Header} (hheader : header ∈ request.headers)
    (hsource : source request .flatten = some .key) (hkey : request.key = some key) :
    FailsBy (Explained request .flatten) (keyColumn request key header) := by
  unfold keyColumn
  split
  · next hfield =>
    have hnot : header.key ∉ key.fieldNames := Schema.field?_eq_none_iff.mp hfield
    exact rejectHeaders_failsBy (.missingField hsource hkey (.headerKey hheader) hnot)
  · exact (columnName_failsBy hheader).bind fun name _ => .of_ok rfl

/-- The record's key is absent or of the wrong shape, or the headers do not fit it. -/
theorem fromKey_failsBy (hsource : source request .flatten = some .key) :
    FailsBy (Explained request .flatten) (fromKey request) := by
  unfold fromKey
  split
  · next hkey => exact reject_failsBy (.missingPayload hsource hkey)
  · next key hkey =>
    -- By the shape of the key: a single value, a struct, or neither.
    split
    · next hprimitive =>
      split
      · next header hheaders =>
        have hheader : header ∈ request.headers := hheaders ▸ List.mem_singleton_self header
        exact (columnName_failsBy hheader).bind fun name _ => .of_ok rfl
      · next hmany =>
        exact rejectHeaders_failsBy (.keyHeaderCount hkey hprimitive (length_ne_one hmany))
    · next hprimitive =>
      split
      · have hloop : FailsBy (Explained request .flatten)
            (request.headers.mapM (keyColumn request key)) :=
          .mapM fun header hheader => keyColumn_failsBy hheader hsource hkey
        refine hloop.bind fun columns _ => ?_
        exact .of_ok (KeyColumns.make_of_nodup (Column.nodup_names_firstByName columns))
      · next hstruct =>
        have hshape : key.type ≠ .struct := by simpa [Schema.isStruct] using hstruct
        exact reject_failsBy (.keyShape hsource hkey (Bool.eq_false_iff.mpr hprimitive) hshape)

/-- A header is rejected for its value, which is no text or names no field. -/
theorem valueColumn_failsBy {value : Schema} {header : Header}
    (hheader : header ∈ request.headers) (hsource : source request .flatten = some .value)
    (hvalue : request.value = some value) :
    FailsBy (Explained request .flatten) (valueColumn request value header) := by
  refine (columnName_failsBy hheader).bind fun name hname => ?_
  split
  · next hfield =>
    have hnot : name ∉ value.fieldNames := Schema.field?_eq_none_iff.mp hfield
    have hasks := AsksFor.headerValue hheader (columnName_eq_ok_iff.mp hname).2
    exact reject_failsBy (.missingField hsource hvalue hasks hnot)
  · exact .of_ok rfl

/-- The record's value is absent, or a header does not fit it. -/
theorem fromValue_failsBy (hsource : source request .flatten = some .value) :
    FailsBy (Explained request .flatten) (fromValue request) := by
  cases hvalue : request.value with
  | none =>
    rw [fromValue, hvalue]
    exact reject_failsBy (.missingPayload hsource hvalue)
  | some value =>
    have hloop : FailsBy (Explained request .flatten)
        (request.headers.mapM (valueColumn request value)) :=
      .mapM fun header hheader => valueColumn_failsBy hheader hsource hvalue
    rw [fromValue_eq_bind hvalue]
    exact hloop.bind fun found _ => .of_ok rfl

/-- The branch says which part of the record the cause is about. -/
theorem derive_failsBy : FailsBy (Explained request .flatten) (Flatten.derive request) := by
  unfold Flatten.derive
  cases hbranch : branch request.value.isSome request.deleteEnabled request.insertMode with
  | keySourced =>
    have hsource : source request .flatten = some .key := by
      rw [source, branchSource, hbranch]
    exact fromKey_failsBy hsource
  | valueSourced =>
    have hsource : source request .flatten = some .value := by
      rw [source, branchSource, hbranch]
    exact fromValue_failsBy hsource

end Flatten

/-- A derivation is rejected only for a cause that arises from the record. -/
theorem Key.derive_failsBy (mode : KeyMode) (request : KeyRequest) :
    FailsBy (Explained request mode) (derive mode request) := by
  cases mode with
  | none => exact .of_ok rfl
  | kafka => exact coordinates_failsBy
  | recordKey => exact ofKey_failsBy
  | recordValue => exact ofValue_failsBy
  | flatten => exact Flatten.derive_failsBy

end TableLayout
