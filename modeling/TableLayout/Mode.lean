import TableLayout.Datum.Printed

/-!
# Modes (specification §4.1, §7.3)

- `KeyMode`: where the key columns of a table come from.
- `InsertMode`: the statement by which records are written.
-/

namespace TableLayout

/-- Where the key columns of a table come from. -/
inductive KeyMode where
  /-- There is no key. -/
  | none
  /-- The topic, partition and offset of the record. -/
  | kafka
  /-- The fields of the record's key. -/
  | recordKey
  /-- The fields of the record's value. -/
  | recordValue
  /-- The columns that the headers name. -/
  | flatten
deriving DecidableEq, Repr

namespace KeyMode

/-- All modes, in the order in which messages list them. -/
def all : List KeyMode :=
  [.none, .kafka, .recordKey, .recordValue, .flatten]

/-- The word for a mode. -/
def text : KeyMode → String
  | .none => "none"
  | .kafka => "kafka"
  | .recordKey => "record_key"
  | .recordValue => "record_value"
  | .flatten => "flatten"

/-- The mode that a word names. -/
def ofText? (s : String) : Option KeyMode :=
  all.find? fun mode => mode.text == s

/-- The mode that a value names. -/
def ofDatum? (value : Datum) : Option KeyMode :=
  value.text?.bind ofText?

/-- The names of the topic, partition and offset columns where none are configured. -/
def coordinateNames : List String :=
  ["__connect_topic", "__connect_partition", "__connect_offset"]

theorem ofText?_text (mode : KeyMode) : ofText? mode.text = some mode := by
  cases mode <;> decide

theorem eq_text_of_ofText? {s : String} {mode : KeyMode} (h : ofText? s = some mode) :
    s = mode.text := by
  have hfound : all.find? (fun mode => mode.text == s) = some mode := h
  have htext := List.find?_some hfound
  exact (beq_iff_eq.mp htext).symm

end KeyMode

/-- The statement by which records are written. -/
inductive InsertMode where
  | insert | upsert | update
deriving DecidableEq, Repr

namespace InsertMode

/-- All modes, in the order in which messages list them. -/
def all : List InsertMode :=
  [.insert, .upsert, .update]

/-- The word for a mode. -/
def text : InsertMode → String
  | .insert => "insert"
  | .upsert => "upsert"
  | .update => "update"

/-- The mode that a word names. -/
def ofText? (s : String) : Option InsertMode :=
  all.find? fun mode => mode.text == s

/-- The mode that a value names, or the words for there being none. -/
def ofDatum (value : Datum) : Except String InsertMode :=
  match value.text?.bind ofText? with
  | some mode => .ok mode
  | none => .error s!"{value.quoted} is not a valid InsertMode"

theorem ofText?_text (mode : InsertMode) : ofText? mode.text = some mode := by
  cases mode <;> decide

end InsertMode

/-- The two parts of a record. -/
inductive Payload where
  | key | value
deriving DecidableEq, Repr

/-- The word for a part. -/
def Payload.text : Payload → String
  | .key => "key"
  | .value => "value"

end TableLayout
