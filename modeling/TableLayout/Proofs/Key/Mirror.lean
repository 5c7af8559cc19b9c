import TableLayout.Proofs.Key.Configured

/-!
# Keys from either part of a record

The key from the record's value and the key from its key are derived apart, but where both parts are
one struct there is nothing that sets them apart but their names.

- `Key.Mirrors`: two derivations from one struct end in the same way.
- `Key.exists_message_lacking`: the words of a rejection for a missing field, around the mode and
  the part of the record.
- `Key.recordValue_mirrors_recordKey`: the derivations from the record's value and from its key end
  in the same way.
-/

namespace TableLayout.Key

open KeyColumns (OfFields chosen)

variable {request : KeyRequest}

/-- A key from the record's value and one from its key come out of one struct in the same way: as
the same columns, which hold the chosen fields, or as rejections for the same configured name, which
tell only the two parts of a record and the two modes apart. -/
inductive Mirrors (request : KeyRequest) (schema : Schema) :
    Except Failure KeyColumns → Except Failure KeyColumns → Prop where
  | ok {columns : List Column} (hdeclared : ∀ name ∈ request.configured, name ∈ schema.fieldNames)
      (hcolumns : OfFields schema (chosen request.configured schema) ⟨columns, none⟩) :
      Mirrors request schema (.ok ⟨columns, none⟩) (.ok ⟨columns, none⟩)
  | rejected {name : String} (hname : name ∈ request.configured)
      (hnot : name ∉ schema.fieldNames) :
      Mirrors request schema
        (.error (.rejected (request.lacking .recordValue .value schema name)))
        (.error (.rejected (request.lacking .recordKey .key schema name)))

theorem ofValue_eq_ofStruct {value : Schema} (hvalue : request.value = some value) :
    ofValue request = KeyColumns.ofStruct request .recordValue .value value := by
  rw [ofValue, hvalue]

/-- The words for a missing field name the mode once and the part of the record once. -/
theorem exists_message_lacking (request : KeyRequest) (schema : Schema) (name : String) :
    ∃ lead middle rest, ∀ mode payload,
      (request.lacking mode payload schema name).message =
        lead ++ mode.text ++ middle ++ payload.text ++ rest := by
  refine ⟨s!"PK mode for table '{request.table}' is ",
    s!" with configured PK fields {Text.listed request.configured}, but record ",
    s!" schema does not contain field: {name}", fun mode payload => ?_⟩
  simp only [KeyRequest.lacking, Rejection.message, String.append_assoc]
  rfl

section Mirrored

variable {request' : KeyRequest} {schema : Schema} (htable : request.table = request'.table)
  (hconfigured : request.configured = request'.configured)
include htable hconfigured

/-- Configured fields of one struct come out alike for both parts of a record. -/
theorem ofStruct_mirrors :
    Mirrors request schema (KeyColumns.ofStruct request .recordValue .value schema)
      (KeyColumns.ofStruct request' .recordKey .key schema) := by
  cases hvalue : KeyColumns.ofStruct request .recordValue .value schema with
  | ok key =>
    obtain ⟨hdeclared, hkey⟩ := KeyColumns.ofStruct_eq_ok_iff.mp hvalue
    obtain ⟨columns, sourced⟩ := key
    obtain rfl : sourced = none := hkey.plain
    have hok : KeyColumns.ofStruct request' .recordKey .key schema = .ok ⟨columns, none⟩ :=
      KeyColumns.ofStruct_eq_ok_iff.mpr (hconfigured ▸ ⟨hdeclared, hkey⟩)
    rw [hok]
    exact .ok hdeclared hkey
  | error failure =>
    obtain ⟨before, name, after, hsplit, hbefore, hnot, rfl⟩ :=
      KeyColumns.ofStruct_eq_error_iff.mp hvalue
    -- The two rejections are about the same table and the same configured names.
    have hlacking : request'.lacking .recordKey .key schema name =
        request.lacking .recordKey .key schema name := by
      rw [KeyRequest.lacking, KeyRequest.lacking, htable, hconfigured]
    have herror : KeyColumns.ofStruct request' .recordKey .key schema =
        .error (.rejected (request.lacking .recordKey .key schema name)) := by
      rw [← hlacking]
      exact KeyColumns.ofStruct_eq_error_iff.mpr
        ⟨before, name, after, hconfigured ▸ hsplit, hbefore, hnot, rfl⟩
    have hname : name ∈ request.configured := by
      rw [hsplit]
      exact List.mem_append_cons_self
    rw [herror]
    exact .rejected hname hnot

/-- Out of one struct and under the same configured names, a key from the record's value and one
from its key come out in the same way, whatever else the two records hold. The words of the two
rejections are the same but for the mode and the part of the record. -/
theorem recordValue_mirrors_recordKey (hstruct : schema.type = .struct)
    (hvalue : request.value = some schema) (hkey : request'.key = some schema) :
    Mirrors request schema (derive .recordValue request) (derive .recordKey request') ∧
      ∀ name, ∃ lead middle rest,
        (request.lacking .recordValue .value schema name).message =
          lead ++ "record_value" ++ middle ++ "value" ++ rest ∧
        (request.lacking .recordKey .key schema name).message =
          lead ++ "record_key" ++ middle ++ "key" ++ rest := by
  constructor
  · show Mirrors request schema (ofValue request) (ofKey request')
    rw [ofValue_eq_ofStruct hvalue, ofKey_eq_ofStruct hkey hstruct]
    exact ofStruct_mirrors htable hconfigured
  · intro name
    obtain ⟨lead, middle, rest, hmessage⟩ := exists_message_lacking request schema name
    exact ⟨lead, middle, rest, hmessage .recordValue .value, hmessage .recordKey .key⟩

end Mirrored

/-- A record whose value is the struct with three fields, under names of which two are no fields. -/
def lostRequest : KeyRequest where
  table := "visits"
  value := some visitSchema
  configured := ["at", "room", "day", "at", "desk"]

/-- A record whose key is that struct, under the same names. -/
def lostKeyRequest : KeyRequest :=
  { lostRequest with key := some visitSchema, value := none, deleteEnabled := true }

theorem lostRequest_mirrors :
    visitSchema.type = .struct ∧
      derive .recordKey lostKeyRequest =
        .error (.rejected (lostRequest.lacking .recordKey .key visitSchema "room")) ∧
      Mirrors lostRequest visitSchema (derive .recordValue lostRequest)
        (derive .recordKey lostKeyRequest) := by
  have htable : lostRequest.table = lostKeyRequest.table := rfl
  have hconfigured : lostRequest.configured = lostKeyRequest.configured := rfl
  have hmirrors := recordValue_mirrors_recordKey htable hconfigured rfl rfl rfl
  exact ⟨rfl, rfl, hmirrors.1⟩

end TableLayout.Key
