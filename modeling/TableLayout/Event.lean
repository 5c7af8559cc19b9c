import TableLayout.Rejection

/-!
# Log events (specification §4.3, step 5)

- `Level`: the levels of log events, with their ranks.
- `Event`: what is logged of a record: the layout found for it, or why there is none.
-/

namespace TableLayout

/-- The levels of log events. -/
inductive Level where
  | debug | info | warning | error | critical
deriving DecidableEq, Repr

namespace Level

/-- The word for a level. -/
def text : Level → String
  | .debug => "debug"
  | .info => "info"
  | .warning => "warning"
  | .error => "error"
  | .critical => "critical"

/-- The rank of a level; events below the rank that a logger asks for are not written. -/
def rank : Level → Nat
  | .debug => 10
  | .info => 20
  | .warning => 30
  | .error => 40
  | .critical => 50

end Level

/-- What is logged of a record. -/
inductive Event where
  /-- A layout with these numbers of columns. -/
  | resolved (table mode : String) (keyColumns otherColumns : Nat)
  /-- No layout. -/
  | failed (table mode kind error : String)
deriving DecidableEq, Repr

namespace Event

/-- The name of an event. -/
def name : Event → String
  | .resolved .. => "field_set_resolved"
  | .failed .. => "field_set_resolution_failed"

/-- The level of an event. -/
def level : Event → Level
  | .resolved .. => .debug
  | .failed .. => .warning

/-- The fields of an event. -/
def fields : Event → List (String × Datum)
  | .resolved table mode keyColumns otherColumns =>
    [("table", .text table), ("pk_mode", .text mode), ("key_fields", .int keyColumns),
      ("non_key_fields", .int otherColumns)]
  | .failed table mode kind error =>
    [("table", .text table), ("pk_mode", .text mode), ("error_type", .text kind),
      ("error", .text error)]

end Event

end TableLayout
