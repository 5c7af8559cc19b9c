import TableLayout.Proofs.Resolve.Lawful

/-!
# The log of resolutions

Every call of a resolution leaves one event, which says how the call ended.

- `Resolve.Call`, `Resolve.logOf`: calls, and the log that they leave one after the other.
- `Resolve.Call.Proper`: what is asked of a call.
- `Resolve.Tells`: what an event says about a call that ended in a given way.
- `Resolve.events_of_ok`, `Resolve.events_of_rejected`: the events of a single resolution.
- `Resolve.exists_event`: a call leaves exactly one event, and that tells how the call ended.
- `Resolve.foldl_logged`, `Resolve.one_event_per_call`: so do several calls, in the order in which
  they are made.
-/

namespace TableLayout.Resolve

/-- A call of a resolution. -/
structure Call where
  given : Datum
  whitelist : List String
  request : KeyRequest

/-- What a call leads to. -/
def Call.resolution (call : Call) : Resolution :=
  resolve call.given call.whitelist call.request

/-- What is asked of a call. -/
structure Call.Proper (call : Call) : Prop where
  /-- The schema of the record's value is a proper one, if there is a value. -/
  value : ∀ value ∈ call.request.value, value.check = .ok value
  /-- What is given as the mode can be written, -/
  given : call.given.Prints call.request.digits
  /-- and so can the values of all headers. -/
  headers : call.request.Prints

/-- A log after one more call. -/
def logged (log : List Event) (call : Call) : List Event :=
  log ++ call.resolution.events

/-- The log of calls that are made one after the other. -/
def logOf (calls : List Call) : List Event :=
  calls.foldl logged []

/-- What an event says about a call that ended in a given way. -/
inductive Tells (call : Call) (event : Event) : Except Failure Layout → Prop where
  /-- The table, the mode and the numbers of columns, which add up to all columns. -/
  | layout {mode : KeyMode} {layout : Layout} (hgiven : call.given = .text mode.text)
      (hlevel : event.level = .debug) (hname : event.name = "field_set_resolved")
      (hfields : event.fields = [("table", .text call.request.table), ("pk_mode", .text mode.text),
        ("key_fields", .int layout.keyColumns.length),
        ("non_key_fields", .int layout.otherColumns.length)])
      (hsum : layout.keyColumns.length + layout.otherColumns.length = layout.columns.size) :
      Tells call event (.ok layout)
  /-- The table, the mode as it was given, and the kind and the words of the rejection. -/
  | rejected {rejection : Rejection} (hlevel : event.level = .warning)
      (hname : event.name = "field_set_resolution_failed")
      (hfields : event.fields = [("table", .text call.request.table),
        ("pk_mode", .text call.given.shown), ("error_type", .text rejection.kind.name),
        ("error", .text rejection.message)]) :
      Tells call event (.error (.rejected rejection))

/-! ## One call -/

variable {given : Datum} {whitelist : List String} {request : KeyRequest}

/-- A layout is logged with its parts, for only one that could be made is logged. -/
theorem events_of_ok {layout : Layout}
    (h : (resolve given whitelist request).outcome = .ok layout) :
    ∃ mode : KeyMode, given = .text mode.text ∧
      layout.keyColumns.length + layout.otherColumns.length = layout.columns.size ∧
      (resolve given whitelist request).events = [.resolved request.table mode.text
        layout.keyColumns.length layout.otherColumns.length] := by
  obtain ⟨mode, key, others, hsplit, hlayout⟩ := outcome_eq_ok_iff.mp h
  obtain ⟨hgiven, -⟩ := split_eq_ok_iff.mp hsplit
  have hjoins : layout.Joins key others := (layout_eq_ok_iff.mp hlayout).1
  -- The event counts names, the statement counts columns: each name has one.
  have hkey : layout.keyNames.length = layout.keyColumns.length := by
    rw [hjoins.keyNames, hjoins.keyColumns_eq, KeyColumns.names, List.length_map]
  have hother : layout.otherNames.length = layout.otherColumns.length := by
    rw [hjoins.otherNames, hjoins.otherColumns_eq, List.length_map]
  refine ⟨mode, hgiven, ?_, ?_⟩
  · rw [NameMap.size, hjoins.entries, List.length_map, List.length_append, hjoins.keyColumns_eq,
      hjoins.otherColumns_eq]
  · rw [← hkey, ← hother]
    simp only [resolve, hsplit, hlayout]

/-- The last step of a resolution, making a layout of the parts, never rejects anything. -/
theorem layout_ne_rejected (key : KeyColumns) (others : List Column) (rejection : Rejection) :
    Resolve.layout key others ≠ .error (.rejected rejection) := by
  unfold Resolve.layout
  split <;> nofun

/-- A rejection leaves one event, with the words of the rejection. -/
theorem events_of_rejected {rejection : Rejection}
    (h : (resolve given whitelist request).outcome = .error (.rejected rejection)) :
    (resolve given whitelist request).events =
      [.failed request.table given.shown rejection.kind.name rejection.message] := by
  rw [outcome_eq_split_bind] at h
  rcases bind_eq_error_iff.mp h with hsplit | ⟨parts, -, hlayout⟩
  · rw [resolve, hsplit]
    rfl
  · exact absurd hlayout (layout_ne_rejected _ _ rejection)

/-- A call leaves exactly one event, and that tells how the call ended. -/
theorem exists_event {call : Call} (hproper : call.Proper) :
    ∃ event, call.resolution.events = [event] ∧ Tells call event call.resolution.outcome := by
  cases houtcome : call.resolution.outcome with
  | ok layout =>
    obtain ⟨mode, hgiven, hsum, hevents⟩ := events_of_ok houtcome
    exact ⟨_, hevents, .layout hgiven rfl rfl rfl hsum⟩
  | error failure =>
    -- A defect would leave no event, but the only one would be that of a number too long to write.
    have hsettles : Settles (Exceeds call.given call.request) (fun _ => True)
        call.resolution.outcome := resolve_settles hproper.value
    rw [houtcome] at hsettles
    cases hsettles with
    | rejected rejection =>
      exact ⟨_, events_of_rejected houtcome, .rejected rfl rfl rfl⟩
    | longNumber hlong => exact absurd hlong (not_exceeds hproper.given hproper.headers _)

/-! ## Several calls -/

/-- Calls add one event each to a log, in the order in which they are made. -/
theorem foldl_logged {calls : List Call} (hproper : ∀ call ∈ calls, call.Proper)
    (log : List Event) :
    ∃ events, calls.foldl logged log = log ++ events ∧
      List.Forall₂ (fun call event => call.resolution.events = [event] ∧
        Tells call event call.resolution.outcome) calls events := by
  induction calls generalizing log with
  | nil => exact ⟨[], (List.append_nil log).symm, .nil⟩
  | cons call calls ih =>
    obtain ⟨hcall, hcalls⟩ := List.forall_mem_cons.mp hproper
    obtain ⟨event, hevent, htells⟩ := exists_event hcall
    obtain ⟨events, hfold, hevents⟩ := ih hcalls (logged log call)
    refine ⟨event :: events, ?_, .cons ⟨hevent, htells⟩ hevents⟩
    rw [List.foldl_cons, hfold, logged, hevent, List.append_assoc]
    rfl

/-- Calls leave exactly one event each, in the order in which they are made, and each event tells
how its call ended: with a layout of these numbers of columns, or with this rejection. -/
theorem one_event_per_call (calls : List Call) (hproper : ∀ call ∈ calls, call.Proper) :
    List.Forall₂ (fun call event => call.resolution.events = [event] ∧
      Tells call event call.resolution.outcome) calls (logOf calls) := by
  obtain ⟨events, hfold, hevents⟩ := foldl_logged hproper []
  rw [logOf, hfold]
  exact hevents

/-- A call with a layout of two columns, and the same call with a mode that is not known. -/
def goodAndBad : List Call :=
  let request : KeyRequest := {
    table := "orders"
    key := some (.ofType .int64 false)
    value := some { Schema.ofType .struct false with
      fields := Schema.numbered [("id", .ofType .string false), ("note", .ofType .string true)] }
    configured := ["id"]
    digits := some 4300 }
  [⟨.text "record_key", [], request⟩, ⟨.null, [], request⟩]

theorem goodAndBad_log :
    (∀ call ∈ goodAndBad, call.Proper) ∧
      (∃ message, logOf goodAndBad = [.resolved "orders" "record_key" 1 1,
        .failed "orders" "None" "ConfigurationError" message]) ∧
      List.Forall₂ (fun call event => call.resolution.events = [event] ∧
        Tells call event call.resolution.outcome) goodAndBad (logOf goodAndBad) := by
  have hproper : ∀ call ∈ goodAndBad, call.Proper := by
    intro call hcall
    constructor
    · intro value hvalue
      rcases List.mem_pair.mp hcall with rfl | rfl <;> cases hvalue <;> rfl
    · rcases List.mem_pair.mp hcall with rfl | rfl <;> rintro _ ⟨⟩ <;> rfl
    · rcases List.mem_pair.mp hcall with rfl | rfl <;> exact nofun
  exact ⟨hproper, ⟨_, rfl⟩, one_event_per_call goodAndBad hproper⟩

end TableLayout.Resolve
