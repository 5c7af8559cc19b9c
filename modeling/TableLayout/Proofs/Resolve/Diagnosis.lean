import TableLayout.Proofs.Key.Causes
import TableLayout.Proofs.Rejection
import TableLayout.Proofs.Resolve.Lawful
import TableLayout.Proofs.Resolve.Outcome

/-!
# Rejections that can be acted upon

A resolution that fails names the table and the mode, and what it says of the record is the case.

- `Resolve.Arises`: the causes of a failing resolution, each with what has to be the case.
- `Resolve.resolve_failsBy`: a resolution is rejected only for a cause that arises from the record.
- `Resolve.Diagnoses`: what may be relied on in a rejection.
- `Resolve.diagnoses_of_resolve`: every failure of a resolution is a rejection of that kind.
-/

namespace TableLayout.Resolve

/-- Why a resolution fails, with what is the case for the record. -/
inductive Arises (given : Datum) (whitelist : List String) (request : KeyRequest) :
    Rejection.Cause → Prop where
  | unknownMode (hgiven : ∀ mode : KeyMode, given ≠ .text mode.text) :
      Arises given whitelist request (.unknownMode given)
  | valueShape {mode : KeyMode} {value : Schema} (hgiven : given = .text mode.text)
      (hvalue : request.value = some value) (hshape : value.type ≠ .struct) :
      Arises given whitelist request (.valueShape mode value.type)
  | key {mode : KeyMode} {cause : Rejection.Cause} (hgiven : given = .text mode.text)
      (hcause : Key.Arises request mode cause) : Arises given whitelist request cause
  | noColumns {mode : KeyMode} {key : KeyColumns} (hgiven : given = .text mode.text)
      (hkey : Key.derive mode request = .ok key) (hcolumns : key.columns = [])
      (hremaining : remaining mode whitelist request key = []) :
      Arises given whitelist request (.noColumns mode)

variable {given : Datum} {whitelist : List String} {request : KeyRequest} {rejection : Rejection}

/-- A resolution is rejected only for a cause that arises from the record. -/
theorem resolve_failsBy (hvalue : ∀ value ∈ request.value, value.check = .ok value) :
    FailsBy
      (fun rejection => rejection.table = request.table ∧
        Arises given whitelist request rejection.cause)
      (resolve given whitelist request).outcome := by
  intro rejection hrejection
  have houtcome : Outcome given whitelist request (.error (.rejected rejection)) :=
    hrejection ▸ outcome_of_resolve hvalue
  -- A failing outcome has its cause in one of the steps.
  cases houtcome with
  | unknownMode hunknown => exact ⟨rfl, .unknownMode hunknown⟩
  | valueShape hgiven hpresent hshape => exact ⟨rfl, .valueShape hgiven hpresent hshape⟩
  | key hgiven _ hkey =>
    obtain ⟨htable, hcause⟩ := Key.derive_failsBy _ request rejection hkey
    exact ⟨htable, .key hgiven hcause⟩
  | noColumns hgiven _ hkey hcolumns hremaining =>
    exact ⟨rfl, .noColumns hgiven hkey hcolumns hremaining⟩

/-! ## The mode -/

theorem mode?_of_keyArises {mode : KeyMode} (h : Key.Arises request mode rejection.cause) :
    rejection.mode? = some mode.text ∧ ∀ given, rejection.cause ≠ .unknownMode given := by
  obtain ⟨table, cause⟩ := rejection
  cases h <;> exact ⟨rfl, nofun⟩

/-- Under a known mode a rejection bears its text, whatever the cause is. -/
theorem mode?_of_arises {mode : KeyMode}
    (h : Arises (.text mode.text) whitelist request rejection.cause) :
    rejection.mode? = some mode.text ∧ ∀ given, rejection.cause ≠ .unknownMode given := by
  obtain ⟨table, cause⟩ := rejection
  cases h with
  | unknownMode hgiven => exact absurd rfl (hgiven mode)
  | key hgiven hcause =>
    obtain rfl := eq_of_text_eq hgiven
    exact mode?_of_keyArises hcause
  | valueShape hgiven | noColumns hgiven =>
    obtain rfl := eq_of_text_eq hgiven
    exact ⟨rfl, nofun⟩

/-! ## What is said of the record -/

/-- What may be relied on in a rejection. -/
structure Diagnoses (given : Datum) (request : KeyRequest) (rejection : Rejection) : Prop where
  table : rejection.table = request.table
  mentionsTable : Mentions rejection.message request.table
  /-- A known mode is named, also in words. -/
  mode : ∀ mode : KeyMode, given = .text mode.text →
    rejection.mode? = some mode.text ∧ Mentions rejection.message mode.text
  /-- Of an unknown mode there is its text. -/
  unknownMode : (∀ mode : KeyMode, given ≠ .text mode.text) → rejection.mode? = some given.shown
  /-- A part of the record that is said to be missing is missing. -/
  payload : ∀ mode payload, rejection.cause = .missingPayload mode payload →
    request.part payload = none
  /-- A field that is said to be missing was asked for, and is none of the fields that the part of
  the record declares. These are said to be available, in declared order. -/
  field : ∀ mode payload name shown available,
    rejection.cause = .missingField mode payload name shown available →
      given = .text mode.text ∧ Key.AsksFor request mode payload name shown ∧ name ∉ available ∧
        ∃ schema, request.part payload = some schema ∧ available = schema.fieldNames

/-- What is said to be missing is missing. -/
theorem payload_of_arises (h : Arises given whitelist request rejection.cause) {mode : KeyMode}
    {payload : Payload} (hcause : rejection.cause = .missingPayload mode payload) :
    request.part payload = none := by
  rw [hcause] at h
  cases h with
  | key _ h =>
    cases h with
    | missingPayload _ habsent => exact habsent

/-- A field that is said to be missing was asked for and is not there. -/
theorem field_of_arises (h : Arises given whitelist request rejection.cause) {mode : KeyMode}
    {payload : Payload} {name shown : String} {available : List String}
    (hcause : rejection.cause = .missingField mode payload name shown available) :
    given = .text mode.text ∧ Key.AsksFor request mode payload name shown ∧ name ∉ available ∧
      ∃ schema, request.part payload = some schema ∧ available = schema.fieldNames := by
  rw [hcause] at h
  cases h with
  | key hgiven h =>
    cases h with
    | missingField _ hpart hasks hnot => exact ⟨hgiven, hasks, hnot, _, hpart, rfl⟩

/-- Every failure of a resolution is a rejection that can be acted upon: it is about the table and
the mode that were given, names both in words, and what it says of the record is the case. It is
taken for granted that the mode and the values of headers can be written. -/
theorem diagnoses_of_resolve {failure : Failure}
    (hvalue : ∀ value ∈ request.value, value.check = .ok value)
    (hgiven : given.Prints request.digits) (hprints : request.Prints)
    (h : (resolve given whitelist request).outcome = .error failure) :
    ∃ rejection, failure = .rejected rejection ∧ Diagnoses given request rejection := by
  -- All that is shown can be written, so the failure is a rejection.
  obtain ⟨rejection, rfl⟩ : ∃ rejection, failure = .rejected rejection := by
    rcases (resolve_settles hvalue).ok_or_rejected (not_exceeds hgiven hprints) with
      ⟨layout, hlayout⟩ | ⟨rejection, hrejection⟩
    · cases h.symm.trans hlayout
    · exact ⟨rejection, Except.error.inj (h.symm.trans hrejection)⟩
  obtain ⟨htable, hcause⟩ := resolve_failsBy hvalue rejection h
  refine ⟨rejection, rfl, ?_⟩
  constructor
  case table => exact htable
  case mentionsTable => exact htable ▸ rejection.mentions_table
  case mode =>
    rintro mode rfl
    obtain ⟨hmode, hknown⟩ := mode?_of_arises hcause
    exact ⟨hmode, Rejection.mentions_mode hmode hknown⟩
  case unknownMode =>
    intro hunknown
    obtain ⟨table, cause⟩ := rejection
    cases hcause with
    | unknownMode => rfl
    | valueShape hgiven | key hgiven | noColumns hgiven => exact absurd hgiven (hunknown _)
  case payload => exact fun mode payload => payload_of_arises hcause
  case field => exact fun mode payload name shown available => field_of_arises hcause

/-- A record of which one header names a field of its value and the next one, in bytes, none. -/
def strayRequest : KeyRequest where
  table := "orders"
  value := some { Schema.ofType .struct false with
    fields := Schema.numbered [("b", .ofType .string true), ("a", .ofType .string true)] }
  headers := [⟨"x", .text "a"⟩, ⟨"y", .bytes [99]⟩]
  digits := some 4300

theorem diagnoses_strayRequest :
    (∀ value ∈ strayRequest.value, value.check = .ok value) ∧
      (Datum.text "flatten").Prints strayRequest.digits ∧ strayRequest.Prints ∧
      ∃ rejection, (resolve (.text "flatten") [] strayRequest).outcome =
          .error (.rejected rejection) ∧
        rejection.cause = .missingField .flatten .value "c" "c" ["b", "a"] ∧
        Diagnoses (.text "flatten") strayRequest rejection := by
  have hvalue : ∀ value ∈ strayRequest.value, value.check = .ok value := by
    rintro _ ⟨⟩
    rfl
  have hgiven : (Datum.text "flatten").Prints strayRequest.digits := Datum.prints_text _ _
  have hprints : strayRequest.Prints := by
    intro header hheader most hmost
    rcases List.mem_pair.mp hheader with rfl | rfl <;> rfl
  have houtcome : (resolve (.text "flatten") [] strayRequest).outcome = .error (.rejected _) := rfl
  obtain ⟨rejection, hrejection, hdiagnoses⟩ :=
    diagnoses_of_resolve hvalue hgiven hprints houtcome
  obtain rfl := Failure.rejected.inj hrejection
  exact ⟨hvalue, hgiven, hprints, _, houtcome, rfl, hdiagnoses⟩

end TableLayout.Resolve
