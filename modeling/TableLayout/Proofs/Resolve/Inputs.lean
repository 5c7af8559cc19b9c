import TableLayout.Proofs.Key.Inputs
import TableLayout.Proofs.Resolve.Steps

/-!
# What a resolution reads

Every mode looks at the table, at the mode and at the record's value, and there is one limit on the
numbers that are written. Besides these a mode looks at some of the other inputs only, and no
outcome, message or log event tells the rest apart.

- `Resolve.Input`: the other inputs.
- `Resolve.reads`: which of them a mode looks at.
- `Resolve.Input.Agree`: two calls agree on an input.
- `Resolve.resolve_eq_of_agree`: calls that agree on what the mode looks at have the same
  resolution, with the same layout or rejection and the same events.
-/

namespace TableLayout.Resolve

/-- The inputs of a resolution besides the table, the mode and the record's value. -/
inductive Input where
  | key | headers | configured | whitelist | deleteEnabled | insertMode
deriving DecidableEq, Repr

/-- The inputs that a mode looks at, for a record with or without a value. -/
def reads (valuePresent : Bool) : KeyMode → List Input
  | .none => [.whitelist]
  | .kafka => [.configured, .whitelist]
  | .recordKey => [.key, .configured, .whitelist]
  | .recordValue => [.configured, .whitelist]
  | .flatten =>
    if valuePresent then [.key, .headers] else [.key, .headers, .deleteEnabled, .insertMode]

/-- Two calls agree on an input. Of a whitelist only the names count, not their order. -/
def Input.Agree (whitelist whitelist' : List String) (request request' : KeyRequest) :
    Input → Prop
  | .key => request.key = request'.key
  | .headers => request.headers = request'.headers
  | .configured => request.configured = request'.configured
  | .whitelist => ∀ name, name ∈ whitelist ↔ name ∈ whitelist'
  | .deleteEnabled => request.deleteEnabled = request'.deleteEnabled
  | .insertMode => request.insertMode = request'.insertMode

variable {given : Datum} {whitelist whitelist' : List String} {request request' : KeyRequest}
  {mode : KeyMode} {key : KeyColumns}

/-! ## The steps -/

theorem checkValue_congr (htable : request.table = request'.table)
    (hvalue : request.value = request'.value) :
    checkValue mode request = checkValue mode request' := by
  simp only [checkValue, KeyRequest.reject, htable, hvalue]

/-- Of a whitelist it counts which fields of the value it lets pass. -/
theorem remaining_congr (hvalue : request.value = request'.value)
    (hpasses : ∀ value ∈ request.value, ∀ name ∈ value.fieldNames, name ∉ key.names →
      (Passes mode whitelist name ↔ Passes mode whitelist' name)) :
    remaining mode whitelist request key = remaining mode whitelist' request' key := by
  unfold remaining
  rw [← hvalue]
  cases hpresent : request.value with
  | none => rfl
  | some value =>
    refine congrArg (List.map _) (List.filter_congr fun field hfield => ?_)
    have hname : field.name ∈ value.fieldNames := List.mem_map_of_mem hfield
    exact decide_eq_decide.mpr (and_congr_right (hpasses value hpresent field.name hname))

/-- Records with the same key and the same fields left over come out in the same parts. -/
theorem split_congr (htable : request.table = request'.table)
    (hvalue : request.value = request'.value) (hdigits : request.digits = request'.digits)
    (hderive : ∀ mode : KeyMode, given = .text mode.text →
      Key.derive mode request = Key.derive mode request')
    (hpasses : ∀ mode : KeyMode, given = .text mode.text →
      ∀ name, Passes mode whitelist name ↔ Passes mode whitelist' name) :
    split given whitelist request = split given whitelist' request' := by
  rw [split_eq_bind, split_eq_bind, ← htable, ← hdigits]
  rcases hmode : Key.modeOf request.table given request.digits with failure | mode
  · rfl
  have hgiven := modeOf_eq_ok_iff.mp hmode
  have hremaining : ∀ key,
      remaining mode whitelist request key = remaining mode whitelist' request' key :=
    fun key => remaining_congr hvalue fun _ _ name _ _ => hpasses mode hgiven name
  show checkValue mode request >>= _ = checkValue mode request' >>= _
  rw [checkValue_congr htable hvalue, hderive mode hgiven]
  refine bind_congr fun _ => bind_congr fun key => ?_
  simp only [hremaining, KeyRequest.reject, htable]

/-! ## What the modes look at -/

section Agreement

variable (hagree : ∀ input ∈ reads request.value.isSome mode,
  input.Agree whitelist whitelist' request request')
include hagree

/-- A mode derives the key from what it looks at. -/
theorem derive_eq_of_agree (htable : request.table = request'.table)
    (hvalue : request.value = request'.value) (hdigits : request.digits = request'.digits) :
    Key.derive mode request = Key.derive mode request' := by
  -- One mode after the other, each with what it looks at.
  cases mode with
  | none => rfl
  | kafka =>
    have hconfigured := hagree .configured (by simp [reads])
    exact Key.coordinates_congr htable hconfigured
  | recordKey =>
    have hkey := hagree .key (by simp [reads])
    have hconfigured := hagree .configured (by simp [reads])
    exact Key.ofKey_congr htable hkey hconfigured
  | recordValue =>
    have hconfigured := hagree .configured (by simp [reads])
    exact Key.ofValue_congr htable hvalue hconfigured
  | flatten =>
    have hkey := hagree .key (by simp only [reads]; split <;> simp)
    have hheaders := hagree .headers (by simp only [reads]; split <;> simp)
    refine Flatten.derive_congr htable hkey hvalue hheaders hdigits fun habsent => ?_
    exact ⟨hagree .deleteEnabled (by simp [reads, habsent]),
      hagree .insertMode (by simp [reads, habsent])⟩

theorem passes_iff_of_agree (name : String) :
    Passes mode whitelist name ↔ Passes mode whitelist' name := by
  by_cases hmode : mode = .flatten
  · exact iff_of_true (.inl hmode) (.inl hmode)
  have hwhitelist : Input.Agree whitelist whitelist' request request' .whitelist :=
    hagree .whitelist (by cases mode <;> simp_all [reads])
  have hempty : whitelist = [] ↔ whitelist' = [] := by
    simp only [List.eq_nil_iff_forall_not_mem]
    exact forall_congr' fun name => not_congr (hwhitelist name)
  exact or_congr_right (or_congr hempty (hwhitelist name))

end Agreement

/-- Inputs that a mode does not look at cannot influence the resolution: not the layout, not the
rejection with its words, and not what is logged. With an unknown mode no input is looked at. -/
theorem resolve_eq_of_agree (htable : request.table = request'.table)
    (hvalue : request.value = request'.value) (hdigits : request.digits = request'.digits)
    (hagree : ∀ mode : KeyMode, given = .text mode.text →
      ∀ input ∈ reads request.value.isSome mode,
        input.Agree whitelist whitelist' request request') :
    resolve given whitelist request = resolve given whitelist' request' := by
  refine resolve_eq_of_split htable (split_congr htable hvalue hdigits ?_ ?_)
  · exact fun mode hmode => derive_eq_of_agree (hagree mode hmode) htable hvalue hdigits
  · exact fun mode hmode => passes_iff_of_agree (hagree mode hmode)

/-- A record with a value and a header that names its key column, and with nothing configured. -/
def plainRequest : KeyRequest where
  table := "orders"
  value := some { Schema.ofType .struct false with
    fields := Schema.numbered [("id", .ofType .int32 false), ("note", .ofType .string true)] }
  headers := [⟨"x", .text "id"⟩]

/-- The same record with everything set that is not looked at. -/
def decoratedRequest : KeyRequest :=
  { plainRequest with
    configured := ["note", "note", "no column"], deleteEnabled := true, insertMode := .upsert }

theorem plainRequest_eq_decoratedRequest :
    resolve (.text "flatten") [] plainRequest =
        resolve (.text "flatten") ["no column"] decoratedRequest ∧
      ∃ layout, (resolve (.text "flatten") [] plainRequest).outcome = .ok layout ∧
        layout.keyNames = ["id"] ∧ layout.otherNames = ["note"] := by
  refine ⟨resolve_eq_of_agree rfl rfl rfl ?_, _, rfl, rfl, rfl⟩
  intro mode hmode
  obtain rfl : KeyMode.flatten = mode := eq_of_text_eq hmode
  have hreads : reads plainRequest.value.isSome .flatten = [.key, .headers] := rfl
  rw [hreads]
  exact List.forall_mem_cons.mpr ⟨rfl, List.forall_mem_singleton.mpr rfl⟩

end TableLayout.Resolve
