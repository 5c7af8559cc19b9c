import TableLayout.CommandLine.Run
import TableLayout.Proofs.Report
import TableLayout.Proofs.Resolve.Lawful

/-!
# How the resolve command ends

An invocation without settings file reads its format, its settings and its record in this order and
then resolves the record. The first of these stages that fails says why, and if none fails, the
layout is printed. Nothing else can happen as long as the record file can be looked at, and what it
holds has texts as keys and is a map or null, or no such thing and counts as true. What comes of
other values that count as false is not said here.

- `Run.Finds`: what the name of the record file leads to. `Run.exists_finds`: there is always
  something of the kind.
- `Run.Readable`: what is asked of a value in a record file.
- `Run.Accepts`: an invocation has a known format, settings and a record.
- `Run.Ends`: how an invocation ends, one case for each stage.
- `Run.run_ends`: an invocation ends in this way and in no other, with a report or with a complaint,
  or because its record file cannot be looked at.
-/

namespace TableLayout.Run

/-! ## What an invocation starts from -/

/-- What the name of a record file leads to: a path where there is nothing, or a file with a value,
or neither, because the path cannot be followed or leads to a folder. -/
inductive Finds (surroundings : Surroundings) (name : String) :
    Except FileError (Path × Option Datum) → Prop where
  | missing {path : Path} (hpath : (Path.ofText name).fromHome? surroundings.home = some path)
      (hentry : surroundings.entry path = .missing) : Finds surroundings name (.ok (path, none))
  | file {path : Path} {value : Datum}
      (hpath : (Path.ofText name).fromHome? surroundings.home = some path)
      (hentry : surroundings.entry path = .file value) :
      Finds surroundings name (.ok (path, some value))
  /-- The path begins in the home of a user that is not known. -/
  | homeless (hpath : (Path.ofText name).fromHome? surroundings.home = none) :
      Finds surroundings name (.error .homeless)
  /-- The path or one of its steps is longer than a name may be. -/
  | tooLong {path : Path} (hpath : (Path.ofText name).fromHome? surroundings.home = some path)
      (hentry : surroundings.entry path = .tooLong) :
      Finds surroundings name (.error (.tooLong path))
  | folder {path : Path} (hpath : (Path.ofText name).fromHome? surroundings.home = some path)
      (hentry : surroundings.entry path = .folder) : Finds surroundings name (.error (.folder path))

/-- The formats in which layouts are printed. -/
def KnownFormat (format : String) : Prop :=
  format = "text" ∨ format = "json"

/-- A value of a record file has texts as keys, and does not pass for null without being null. -/
structure Readable (value : Datum) : Prop where
  textKeyed : value.TextKeyed
  notPassing : ¬Record.PassesForNull value

/-- An invocation has a known format, settings, and a file that describes a record. -/
structure Accepts (invocation : Invocation) (found : Except FileError (Path × Option Datum))
    (settings : Settings) (record : Record) : Prop where
  format : KnownFormat invocation.format
  settings : ({} : Settings).override invocation.overrides = .ok settings
  record : ∃ path value, found = .ok (path, some value) ∧ Record.Documented none value record

/-- What is logged of the resolution of an invocation. -/
def logOf (invocation : Invocation) (settings : Settings) (record : Record) : List Logging.Line :=
  (logging invocation).linesOf (settings.resolve invocation.table record).events

/-- How an invocation ends that has no settings file: by the first stage that fails, or with the
layout. Messages and reports are printed as `Text.plain` has them; `remarks` is what the validator
of settings adds to its own. -/
inductive Ends (remarks : Violation → String) (invocation : Invocation)
    (found : Except FileError (Path × Option Datum)) : Outcome → Prop where
  | unknownFormat (hformat : ¬KnownFormat invocation.format) :
      Ends remarks invocation found (.failed (Text.plain
        s!"Unknown format '{invocation.format}'. Expected 'text' or 'json'.") [])
  | invalidSettings {error : SettingsError} (hformat : KnownFormat invocation.format)
      (hsettings : ({} : Settings).override invocation.overrides = .error error) :
      Ends remarks invocation found (.failed (Text.plain (error.message remarks)) [])
  /-- There is no saying whether there is a record file. -/
  | unreadable {settings : Settings} {error : FileError} (hformat : KnownFormat invocation.format)
      (hsettings : ({} : Settings).override invocation.overrides = .ok settings)
      (hfound : found = .error error) : Ends remarks invocation found (.crashed (.file error))
  | invalidRecord {settings : Settings} {path : Path} {contents : Option Datum}
      {error : RecordError} (hformat : KnownFormat invocation.format)
      (hsettings : ({} : Settings).override invocation.overrides = .ok settings)
      (hfound : found = .ok (path, contents))
      (hrecord : Record.Refuses none path.text contents error) :
      Ends remarks invocation found (.failed (Text.plain error.message) [])
  | rejected {settings : Settings} {record : Record} {rejection : Rejection}
      (haccepts : Accepts invocation found settings record)
      (houtcome : (settings.resolve invocation.table record).outcome =
        .error (.rejected rejection)) :
      Ends remarks invocation found
        (.failed (Text.plain rejection.message) (logOf invocation settings record))
  /-- JSON is printed as it is. -/
  | json {settings : Settings} {record : Record} {layout : Layout} {text : String}
      (haccepts : Accepts invocation found settings record)
      (hformat : invocation.format = "json")
      (houtcome : (settings.resolve invocation.table record).outcome = .ok layout)
      (htext : Report.json invocation.table settings.keyMode layout = .ok text) :
      Ends remarks invocation found (.printed text (logOf invocation settings record))
  /-- There is a column, so that there is a longest name to which all are padded. -/
  | text {settings : Settings} {record : Record} {layout : Layout} {text : String}
      (haccepts : Accepts invocation found settings record)
      (hformat : invocation.format = "text")
      (houtcome : (settings.resolve invocation.table record).outcome = .ok layout)
      (hcolumns : layout.columns.names ≠ [])
      (htext : Report.text invocation.table settings.keyMode layout = .ok text) :
      Ends remarks invocation found
        (.printed (Text.plain text) (logOf invocation settings record))

variable {surroundings : Surroundings} {invocation : Invocation}
  {found : Except FileError (Path × Option Datum)} {outcome : Outcome}

/-! ## Files -/

/-- The model of file access finds what there is. -/
theorem Finds.recordFile_eq {name : String} (h : Finds surroundings name found) :
    recordFile surroundings name = found := by
  cases h with
  | homeless hpath =>
    simp only [recordFile, locate, hpath]
    rfl
  | missing hpath hentry | file hpath hentry | tooLong hpath hentry | folder hpath hentry =>
    simp only [recordFile, locate, hpath, hentry]
    rfl

/-- Whatever the name of a record file is, it leads to something of the kind. -/
theorem exists_finds (surroundings : Surroundings) (name : String) :
    ∃ found, Finds surroundings name found := by
  cases hpath : (Path.ofText name).fromHome? surroundings.home with
  | none => exact ⟨_, .homeless hpath⟩
  | some path =>
    cases hentry : surroundings.entry path with
    | missing => exact ⟨_, .missing hpath hentry⟩
    | folder => exact ⟨_, .folder hpath hentry⟩
    | file value => exact ⟨_, .file hpath hentry⟩
    | tooLong => exact ⟨_, .tooLong hpath hentry⟩

/-- Without a settings file, the options decide on the settings, starting from the usual ones. -/
theorem settings_eq (h : invocation.settingsFile = none) :
    settings surroundings invocation =
      (({} : Settings).override invocation.overrides).mapError fun error =>
        failed (error.message surroundings.remarks) [] := by
  simp only [settings, baseSettings, h]
  rfl

section Readable

variable {path : String} {contents : Option Datum} {error : RecordError}
  (hreadable : ∀ value ∈ contents, Readable value)
include hreadable

/-- What is asked of a readable file is just what the reading of record files asks for. -/
theorem load_eq_ok_iff_documented {described : Record} :
    Record.load path contents = .ok described ↔
      ∃ value, contents = some value ∧ Record.Documented none value described := by
  have hkeys : ∀ value ∈ contents, value.TextKeyed :=
    fun value hvalue => (hreadable value hvalue).textKeyed
  have hnull : ∀ value ∈ contents, ¬Record.PassesForNull value :=
    fun value hvalue => (hreadable value hvalue).notPassing
  exact (Record.load_eq_ok_iff hkeys).trans (Record.loads_iff_documented hnull)

theorem load_eq_error_iff_refuses :
    Record.load path contents = .error error ↔ Record.Refuses none path contents error := by
  have hkeys : ∀ value ∈ contents, value.TextKeyed :=
    fun value hvalue => (hreadable value hvalue).textKeyed
  have hnull : ∀ value ∈ contents, ¬Record.PassesForNull value :=
    fun value hvalue => (hreadable value hvalue).notPassing
  exact (Record.load_eq_error_iff hkeys).trans (Record.fails_iff_refuses hnull)

/-- A record file whose keys are texts is never misused, so that whatever is wrong with it is
reported. -/
theorem recordOutcome_of_load (h : Record.load path contents = .error error) :
    recordOutcome error = failed error.message [] := by
  have hkeys : ∀ value ∈ contents, value.TextKeyed :=
    fun value hvalue => (hreadable value hvalue).textKeyed
  rw [recordOutcome, ((Record.load_eq_error_iff hkeys).mp h).isMisuse_eq_false hkeys]
  rfl

end Readable

section Stages

variable (hsettings : invocation.settingsFile = none)
  (hfinds : Finds surroundings invocation.recordFile found)
  (hreadable : ∀ path value, found = .ok (path, some value) → Readable value)
include hfinds hreadable

/-- There is no record if the file cannot be looked at or is refused. -/
theorem record_eq_error_iff :
    record surroundings invocation = .error outcome ↔
      (∃ error, found = .error error ∧ outcome = .crashed (.file error)) ∨
      ∃ path contents error, found = .ok (path, contents) ∧
        Record.Refuses none path.text contents error ∧ outcome = failed error.message [] := by
  rw [record, hfinds.recordFile_eq]
  cases hfound : found with
  | error error =>
    constructor
    · rintro ⟨⟩
      exact .inl ⟨error, rfl, rfl⟩
    · rintro (⟨_, ⟨⟩, rfl⟩ | ⟨_, _, _, ⟨⟩, _⟩)
      rfl
  | ok parts =>
    obtain ⟨path, contents⟩ := parts
    have hcontents : ∀ value ∈ contents, Readable value := by
      rintro value ⟨⟩
      exact hreadable path value hfound
    show (Record.load path.text contents).mapError recordOutcome = _ ↔ _
    rw [mapError_eq_error_iff]
    constructor
    · rintro ⟨error, hload, rfl⟩
      have hrefuses := (load_eq_error_iff_refuses hcontents).mp hload
      exact .inr ⟨path, contents, error, rfl, hrefuses, recordOutcome_of_load hcontents hload⟩
    · rintro (⟨_, ⟨⟩, _⟩ | ⟨_, _, error, ⟨⟩, hrefuses, rfl⟩)
      have hload := (load_eq_error_iff_refuses hcontents).mpr hrefuses
      exact ⟨error, hload, recordOutcome_of_load hcontents hload⟩

/-- There is a record exactly if there is a file in a documented form. -/
theorem record_eq_ok_iff {described : Record} :
    record surroundings invocation = .ok described ↔
      ∃ path value, found = .ok (path, some value) ∧ Record.Documented none value described := by
  rw [record, hfinds.recordFile_eq]
  cases hfound : found with
  | error error => exact iff_of_false nofun fun ⟨_, _, h, _⟩ => nomatch h
  | ok parts =>
    obtain ⟨path, contents⟩ := parts
    have hcontents : ∀ value ∈ contents, Readable value := by
      rintro value ⟨⟩
      exact hreadable path value hfound
    show (Record.load path.text contents).mapError recordOutcome = _ ↔ _
    rw [mapError_eq_ok_iff, load_eq_ok_iff_documented hcontents]
    constructor
    · rintro ⟨value, ⟨⟩, h⟩
      exact ⟨path, value, rfl, h⟩
    · rintro ⟨_, value, ⟨⟩, h⟩
      exact ⟨value, rfl, h⟩

include hsettings

/-- An invocation goes on to the resolution with settings and a record. -/
theorem inputs_eq_ok_iff {settings : Settings} {described : Record} :
    inputs surroundings invocation = .ok (settings, described) ↔
      ({} : Settings).override invocation.overrides = .ok settings ∧
        ∃ path value, found = .ok (path, some value) ∧ Record.Documented none value described := by
  rw [← record_eq_ok_iff hfinds hreadable, inputs, settings_eq hsettings, bind_eq_ok_iff]
  constructor
  · rintro ⟨settings', hoverride, h⟩
    obtain ⟨record', hrecord, h⟩ := bind_eq_ok_iff.mp h
    obtain ⟨rfl, rfl⟩ := Prod.mk.inj (Except.ok.inj h)
    exact ⟨mapError_eq_ok_iff.mp hoverride, hrecord⟩
  · rintro ⟨hoverride, hrecord⟩
    exact ⟨settings, mapError_eq_ok_iff.mpr hoverride, bind_eq_ok_iff.mpr ⟨_, hrecord, rfl⟩⟩

/-- The settings come before the record, so their errors do too. -/
theorem inputs_eq_error_iff :
    inputs surroundings invocation = .error outcome ↔
      (∃ error, ({} : Settings).override invocation.overrides = .error error ∧
        outcome = failed (error.message surroundings.remarks) []) ∨
      ∃ settings, ({} : Settings).override invocation.overrides = .ok settings ∧
        ((∃ error, found = .error error ∧ outcome = .crashed (.file error)) ∨
          ∃ path contents error, found = .ok (path, contents) ∧
            Record.Refuses none path.text contents error ∧ outcome = failed error.message []) := by
  rw [← record_eq_error_iff hfinds hreadable, inputs, settings_eq hsettings, bind_eq_error_iff,
    mapError_eq_error_iff]
  constructor
  · rintro (⟨error, hoverride, rfl⟩ | ⟨settings, hoverride, h⟩)
    · exact .inl ⟨error, hoverride, rfl⟩
    · rcases bind_eq_error_iff.mp h with hrecord | ⟨record, -, h⟩
      · exact .inr ⟨settings, mapError_eq_ok_iff.mp hoverride, hrecord⟩
      · cases h
  · rintro (⟨error, hoverride, rfl⟩ | ⟨settings, hoverride, hrecord⟩)
    · exact .inl ⟨error, hoverride, rfl⟩
    · exact .inr ⟨settings, mapError_eq_ok_iff.mpr hoverride, bind_eq_error_iff.mpr (.inl hrecord)⟩

end Stages

/-! ## Resolutions -/

section Resolutions

variable {settings : Settings} {record : Record}

/-- A rejection is the complaint, and has been logged. -/
theorem resolve_eq_of_rejected {rejection : Rejection}
    (h : (settings.resolve invocation.table record).outcome = .error (.rejected rejection)) :
    resolve invocation settings record =
      failed rejection.message (logOf invocation settings record) := by
  simp only [resolve, h]
  rfl

theorem resolve_eq_of_ok {layout : Layout}
    (h : (settings.resolve invocation.table record).outcome = .ok layout) :
    resolve invocation settings record =
      report invocation settings.keyMode layout (logOf invocation settings record) := by
  simp only [resolve, h]
  rfl

/-- JSON holds no escape characters, so that nothing is taken from it. -/
theorem report_eq_of_json {mode : KeyMode} {layout : Layout} {text : String}
    (hformat : invocation.format = "json")
    (htext : Report.json invocation.table mode layout = .ok text) (hfree : Text.EscapeFree text)
    (log : List Logging.Line) : report invocation mode layout log = .printed text log := by
  rw [report, if_pos hformat, htext]
  simp only [printed, hfree.plain_eq]

theorem report_eq_of_text {mode : KeyMode} {layout : Layout} {text : String}
    (hformat : invocation.format = "text")
    (htext : Report.text invocation.table mode layout = .ok text) (log : List Logging.Line) :
    report invocation mode layout log = .printed (Text.plain text) log := by
  have hjson : invocation.format ≠ "json" := by
    rw [hformat]
    decide
  rw [report, if_neg hjson, htext]
  rfl

section Accepted

variable (hreadable : ∀ path value, found = .ok (path, some value) → Readable value)
  (haccepts : Accepts invocation found settings record)
include hreadable haccepts

/-- An accepted record was loaded from a file with texts as keys. -/
theorem Accepts.exists_loads :
    ∃ value, Record.Loads none (some value) record ∧ ∀ value' ∈ some value, value'.TextKeyed := by
  obtain ⟨path, value, hfound, hdocumented⟩ := haccepts.record
  refine ⟨value, Record.loads_some_iff.mpr (.inl hdocumented), ?_⟩
  rintro _ ⟨⟩
  exact (hreadable path value hfound).textKeyed

/-- The layout of an accepted record has a form in JSON. -/
theorem Accepts.exists_json {layout : Layout}
    (hlayout : (settings.resolve invocation.table record).outcome = .ok layout) :
    ∃ text, Report.json invocation.table settings.keyMode layout = .ok text ∧
      Text.EscapeFree text := by
  obtain ⟨value, hloads, hkeys⟩ := haccepts.exists_loads hreadable
  exact hloads.exists_json hkeys hlayout settings.keyMode

/-- With all read that it starts from, an invocation ends with a layout or with a rejection. -/
theorem Accepts.ends (remarks : Violation → String) :
    Ends remarks invocation found (resolve invocation settings record) := by
  obtain ⟨value, hloads, hkeys⟩ := haccepts.exists_loads hreadable
  have hvalue : ∀ value ∈ record.value, value.check = .ok value := fun value hmem =>
    ((hloads.readFromTexts hkeys).2 value hmem).check_eq
  -- Commands write numbers of any length, so that there is no other end to a resolution.
  have hends : (∃ layout, (settings.resolve invocation.table record).outcome = .ok layout) ∨
      ∃ rejection, (settings.resolve invocation.table record).outcome =
        .error (.rejected rejection) :=
    (Resolve.resolve_settles hvalue).ok_or_rejected
      (Resolve.not_exceeds (Datum.prints_text _ _) (KeyRequest.prints_of_unlimited rfl))
  rcases hends with ⟨layout, hlayout⟩ | ⟨rejection, hrejection⟩
  -- A layout is printed in either format: both renderings succeed.
  · rw [resolve_eq_of_ok hlayout]
    rcases haccepts.format with hformat | hformat
    · have htext := Report.text_eq_of_prints (Report.prints_unlimited layout) invocation.table
        settings.keyMode
      rw [report_eq_of_text hformat htext]
      exact .text haccepts hformat hlayout (Resolve.names_ne_nil_of_resolve hlayout) htext
    · obtain ⟨text, htext, hfree⟩ := haccepts.exists_json hreadable hlayout
      rw [report_eq_of_json hformat htext hfree]
      exact .json haccepts hformat hlayout htext
  · rw [resolve_eq_of_rejected hrejection]
    exact .rejected haccepts hrejection

end Accepted

end Resolutions

/-! ## Invocations -/

/-- An unknown format is the first thing to be complained of. -/
theorem outcome_of_unknown (h : ¬KnownFormat invocation.format) :
    Run.outcome surroundings invocation = failed
      s!"Unknown format '{invocation.format}'. Expected 'text' or 'json'." [] :=
  if_pos (not_or.mp h)

theorem outcome_of_known (h : KnownFormat invocation.format) :
    Run.outcome surroundings invocation =
      match inputs surroundings invocation with
      | .error outcome => outcome
      | .ok (settings, record) => resolve invocation settings record :=
  if_neg (fun hunknown => not_or.mpr hunknown h)

section Invocations

variable (hsettings : invocation.settingsFile = none)
  (hfinds : Finds surroundings invocation.recordFile found)
  (hreadable : ∀ path value, found = .ok (path, some value) → Readable value)
include hsettings hfinds hreadable

/-- Every invocation ends as described. -/
theorem ends_outcome :
    Ends surroundings.remarks invocation found (Run.outcome surroundings invocation) := by
  -- The stages in their order; the first that fails ends the run.
  by_cases hformat : KnownFormat invocation.format
  · rw [outcome_of_known hformat]
    cases hinputs : inputs surroundings invocation with
    | error outcome =>
      rcases (inputs_eq_error_iff hsettings hfinds hreadable).mp hinputs with
        ⟨error, hoverride, rfl⟩ | ⟨settings, hoverride, hrecord⟩
      · exact .invalidSettings hformat hoverride
      rcases hrecord with ⟨error, hfound, rfl⟩ | ⟨path, contents, error, hfound, hrefuses, rfl⟩
      · exact .unreadable hformat hoverride hfound
      · exact .invalidRecord hformat hoverride hfound hrefuses
    | ok parts =>
      obtain ⟨settings, record⟩ := parts
      obtain ⟨hoverride, hrecord⟩ := (inputs_eq_ok_iff hsettings hfinds hreadable).mp hinputs
      exact Accepts.ends hreadable ⟨hformat, hoverride, hrecord⟩ _
  · rw [outcome_of_unknown hformat]
    exact .unknownFormat hformat

theorem outcome_eq_of_accepts {settings : Settings} {record : Record}
    (h : Accepts invocation found settings record) :
    Run.outcome surroundings invocation = resolve invocation settings record := by
  have hinputs : inputs surroundings invocation = .ok (settings, record) :=
    (inputs_eq_ok_iff hsettings hfinds hreadable).mpr ⟨h.settings, h.record⟩
  rw [outcome_of_known h.format, hinputs]

/-- And it ends in no other way, for each case determines what the stages before it come to. -/
theorem Ends.outcome_eq (h : Ends surroundings.remarks invocation found outcome) :
    Run.outcome surroundings invocation = outcome := by
  -- The endings before the record is resolved are errors of `inputs`, the others are not.
  have herror : inputs surroundings invocation = .error outcome ↔ _ :=
    inputs_eq_error_iff hsettings hfinds hreadable
  cases h with
  | unknownFormat hformat => exact outcome_of_unknown hformat
  | invalidSettings hformat hoverride =>
    rw [outcome_of_known hformat, herror.mpr (.inl ⟨_, hoverride, rfl⟩)]
  | unreadable hformat hoverride hfound =>
    rw [outcome_of_known hformat, herror.mpr (.inr ⟨_, hoverride, .inl ⟨_, hfound, rfl⟩⟩)]
  | invalidRecord hformat hoverride hfound hrefuses =>
    rw [outcome_of_known hformat,
      herror.mpr (.inr ⟨_, hoverride, .inr ⟨_, _, _, hfound, hrefuses, rfl⟩⟩)]
  | rejected haccepts houtcome =>
    rw [outcome_eq_of_accepts hsettings hfinds hreadable haccepts,
      resolve_eq_of_rejected houtcome]
    rfl
  | json haccepts hformat houtcome htext =>
    obtain ⟨_, htext', hfree⟩ := haccepts.exists_json hreadable houtcome
    obtain rfl := Except.ok.inj (htext'.symm.trans htext)
    rw [outcome_eq_of_accepts hsettings hfinds hreadable haccepts, resolve_eq_of_ok houtcome,
      report_eq_of_json hformat htext hfree]
  | text haccepts hformat houtcome _ htext =>
    rw [outcome_eq_of_accepts hsettings hfinds hreadable haccepts, resolve_eq_of_ok houtcome,
      report_eq_of_text hformat htext]

end Invocations

/-- A command ends with a report and nothing else, or with a complaint and nothing else, unless its
record file cannot be looked at. -/
theorem Ends.reports_or_complains {remarks : Violation → String}
    (h : Ends remarks invocation found outcome) :
    (outcome.exitCode = 0 ∧ outcome.complaint? = none ∧ ∃ text, outcome.output? = some text) ∨
      (outcome.exitCode = 1 ∧ outcome.output? = none ∧
        ∃ message, outcome.complaint? = some ("Error: " ++ message)) ∨
      ∃ error, found = .error error ∧ outcome = .crashed (.file error) := by
  cases h with
  | json | text => exact .inl ⟨rfl, rfl, _, rfl⟩
  | unreadable _ _ hfound => exact .inr (.inr ⟨_, hfound, rfl⟩)
  | _ => exact .inr (.inl ⟨rfl, rfl, _, rfl⟩)

/-- A record without key, whose value has two fields. -/
def fieldsDescription : Datum :=
  .map [(.text "value_schema", .map [
    (.text "type", .text "struct"),
    (.text "fields", .list [.text "id: int64", .text "x: string?"])])]

/-- The record that it describes. -/
def fieldsRecord : Record where
  key := none
  value := some { Schema.ofType .struct false with
    fields := Schema.numbered [("id", .ofType .int64 false), ("x", .ofType .string true)] }
  headers := []

theorem documented_fieldsRecord : Record.Documented none fieldsDescription fieldsRecord := by
  refine .map ⟨by decide, .absent rfl, .described ?_, rfl⟩
  refine Schema.read_eq_ok_iff.mpr (.inr ⟨_, rfl, rfl, ⟨false, rfl, rfl⟩, ?_,
    Schema.readPart_none, rfl, Schema.readPart_none, rfl, rfl, rfl, rfl, rfl⟩)
  refine Schema.readFieldList_eq_ok_iff.mpr (.inr ⟨_, rfl, Schema.readFields_eq_ok_iff.mpr ?_⟩)
  exact .cons (.short rfl) (.cons (.short rfl) .nil)

/-- Files that all hold the same value, where no user has a home. -/
def everywhere (value : Datum) : Surroundings where
  entry _ := .file value
  home _ := none
  environment := []
  remarks _ := "]"

theorem readable_fieldsDescription : Readable fieldsDescription where
  textKeyed := by
    simp [fieldsDescription, Datum.TextKeyed, Datum.EntriesTextKeyed, Datum.ItemsTextKeyed,
      Datum.text?]
  notPassing h := h.notMap _ rfl

/-- What the file `record.yaml` holds there. -/
def foundDescription : Except FileError (Path × Option Datum) :=
  .ok (.ofText "record.yaml", some fieldsDescription)

theorem readable_of_foundDescription :
    ∀ path value, foundDescription = .ok (path, some value) → Readable value := by
  rintro _ _ ⟨⟩
  exact readable_fieldsDescription

theorem finds_foundDescription :
    Finds (everywhere fieldsDescription) "record.yaml" foundDescription :=
  .file rfl rfl

/-- Arguments that ask for key columns, which a record without key does not have. -/
def keylessArguments : List String :=
  ["resolve", "-fjson", "--pk-mode=RECORD_KEY", "record.yaml", "-t", "orders"]

/-- The invocation that they spell. -/
def keylessInvocation : Invocation where
  verbose := false
  jsonLogs := false
  recordFile := "record.yaml"
  table := "orders"
  settingsFile := none
  overrides := [(.text "pk_mode", .text "RECORD_KEY")]
  format := "json"

/-- Arguments with the name of a table in red. -/
def redArguments : List String :=
  ["resolve", "record.yaml", "-t", "\x1b[31mred\x1b[0m"]

/-- The invocation that they spell. -/
def redInvocation : Invocation where
  verbose := false
  jsonLogs := false
  recordFile := "record.yaml"
  table := "\x1b[31mred\x1b[0m"
  settingsFile := none
  overrides := []
  format := "text"

/-- Arguments with a record file in the home of a user that nobody knows. -/
def homelessArguments : List String :=
  ["resolve", "~nosuchuser/record.yaml", "-t", "orders"]

/-- The invocation that they spell. -/
def homelessInvocation : Invocation where
  verbose := false
  jsonLogs := false
  recordFile := "~nosuchuser/record.yaml"
  table := "orders"
  settingsFile := none
  overrides := []
  format := "text"

end TableLayout.Run
