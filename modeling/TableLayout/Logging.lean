import TableLayout.Datum.Basic
import TableLayout.Event
import TableLayout.Text.Upper

/-!
# Logging (specification §7.2)

Events are logged under names, and written as lines in one of two forms, as objects or for a
console. How a line of either form looks is up to a rendering. The loggers of all names make up a
tree: below a logger are those whose names go on after its own with a point, and below the root,
whose name is empty, are all. An event has to reach the level of its logger, which a logger without
a level of its own takes from those above it, and then passes the handlers of its logger and of all
loggers above.

- `Logging`: the ranks and the handlers that loggers were given.
- `Logging.configured`: one handler at the root, and a rank for the root and for the loggers of the
  libraries at work below, which write warnings at least.
- `Logging.call`, `Logging.run`: a call of `configure_logging` with the name of a level, which may
  be unknown, and several calls.
- `Logging.lineage`: a logger and those above it.
- `Logging.effective`: the least rank that a logger writes.
- `Logging.lines`, `Logging.written`: the lines that an event leaves. Fields that a line has for its
  own use are not taken from the event.
- `Logging.Rendering`, `Logging.Line.text`: the text of a line.
-/

namespace TableLayout

/-- A handler, which writes events as lines. -/
structure Logging.Handler where
  /-- Whether lines are written as objects. -/
  json : Bool
deriving DecidableEq, Repr

/-- How log events are written. -/
structure Logging where
  /-- The rank that a logger was given; zero if it was given none. -/
  rank : String → Nat
  /-- The handlers that a logger was given. -/
  handlers : String → List Logging.Handler
  /-- Whether structured events are handed on to the loggers. -/
  relays : Bool

/-- A line in a log. -/
structure Logging.Line where
  /-- Whether the line is written as an object. -/
  json : Bool
  level : Level
  event : String
  /-- The fields of the event, without those of the line itself. -/
  fields : List (String × Datum)

namespace Logging

/-- The name of the logger above all others. -/
def root : String := ""

/-- Logging before any call: the root asks for warnings, and there are no handlers. -/
def initial : Logging where
  rank logger := if logger = root then Level.warning.rank else 0
  handlers _ := []
  relays := false

/-! ## Calls -/

/-- The rank of a level by its name. -/
def rank? (name : String) : Option Nat :=
  [("CRITICAL", 50), ("FATAL", 50), ("ERROR", 40), ("WARN", 30), ("WARNING", 30), ("INFO", 20),
    ("DEBUG", 10), ("NOTSET", 0)].lookup name

/-- The loggers that write warnings at least. -/
def quietLoggers : List String :=
  ["dynaconf", "sqlalchemy"]

/-- Gives a rank to a logger. -/
def setRank (logging : Logging) (logger : String) (rank : Nat) : Logging :=
  { logging with rank := fun name => if name = logger then rank else logging.rank name }

/-- Gives handlers to a logger, in the place of those that it had. -/
def setHandlers (logging : Logging) (logger : String) (handlers : List Handler) : Logging :=
  { logging with
    handlers := fun name => if name = logger then handlers else logging.handlers name }

/-- Logging with one handler for all loggers, and with a rank for the root and the quiet loggers. -/
def configured (logging : Logging) (json : Bool) (rank : Nat) : Logging :=
  let atRoot := ({ logging with relays := true }.setHandlers root [⟨json⟩]).setRank root rank
  -- A root that is told to write less than warnings silences the libraries as well.
  quietLoggers.foldl
    (fun logging logger => logging.setRank logger (max rank Level.warning.rank)) atRoot

/-- A call with a form and the name of a level in letters of either case. An unknown name is
reported in capitals. -/
def call (json : Bool) (level : String) : ExceptT String (StateM Logging) Unit :=
  match rank? (Text.upper level) with
  | some rank => modify (·.configured json rank)
  | none => throw (Text.upper level)

/-- Logging after several calls, each with a form and the name of a level. -/
def run (logging : Logging) (calls : List (Bool × String)) : Logging :=
  calls.foldl (fun logging (json, level) => ((call json level).run logging).2) logging

/-- Logging after a call at the start, or the unknown name of a level. -/
def configure (json : Bool) (level : String) : Except String Logging :=
  match (call json level).run initial with
  | (.ok (), logging) => .ok logging
  | (.error name, _) => .error name

/-- Whether the handlers at the root write objects. -/
def json (logging : Logging) : Bool :=
  (logging.handlers root).any Handler.json

/-! ## Loggers -/

/-- What stands before the points among characters, the shortest first. -/
def stems : List Char → List (List Char)
  | [] => []
  | c :: cs => (if c = '.' then [[]] else []) ++ (stems cs).map (c :: ·)

/-- A logger and those above it, the nearest first, without the root. -/
def named (logger : String) : List String :=
  let names := logger.toList :: (stems logger.toList).reverse
  (names.filter fun name => !name.isEmpty).map String.ofList

/-- A logger and those above it, the nearest first. -/
def lineage (logger : String) : List String :=
  named logger ++ [root]

/-- The least rank that a logger writes: the first that it or a logger above it was given. -/
def effective (logging : Logging) (logger : String) : Nat :=
  -- A rank of zero is none, and the search goes on above.
  (((lineage logger).map logging.rank).find? (0 < ·)).getD 0

/-! ## Lines -/

/-- The fields that a line has for its own use. -/
def ownFields : List String :=
  ["event", "level", "timestamp", "_record", "_from_structlog"]

/-- The fields of an event on a line. -/
def shownFields (fields : List (String × Datum)) : List (String × Datum) :=
  fields.filter fun field => field.1 ∉ ownFields

/-- The line that a handler writes of an event. -/
def Handler.line (handler : Handler) (level : Level) (event : String)
    (fields : List (String × Datum)) : Line :=
  ⟨handler.json, level, event, shownFields fields⟩

/-- The lines that an event leaves which is logged under a name. -/
def lines (logging : Logging) (logger : String) (level : Level) (event : String)
    (fields : List (String × Datum)) : List Line :=
  if logging.effective logger ≤ level.rank then
    ((lineage logger).flatMap logging.handlers).map fun handler => handler.line level event fields
  else []

/-- How an event comes to its logger. -/
inductive Channel where
  /-- Logged there. -/
  | direct
  /-- Handed on, as an event with fields. -/
  | structured
deriving DecidableEq, Repr

/-- The lines that an event leaves which comes to a logger on a channel. -/
def written (logging : Logging) (channel : Channel) (logger : String) (level : Level)
    (event : String) (fields : List (String × Datum)) : List Line :=
  if channel = .structured ∧ !logging.relays then []
  else logging.lines logger level event fields

/-- The name under which this library logs. -/
def ownLogger : String := "layout"

/-- The lines that the events of this library leave. -/
def linesOf (logging : Logging) (events : List Event) : List Line :=
  events.flatMap fun event =>
    logging.written .structured ownLogger event.level event.name event.fields

/-! ## Texts -/

/-- How lines look in either form, with the time at which they are written. -/
structure Rendering where
  object (time : String) (level : Level) (event : String) (fields : List (String × Datum)) : String
  console (time : String) (level : Level) (event : String) (fields : List (String × Datum)) : String

/-- The text of a line. -/
def Line.text (rendering : Rendering) (time : String) (line : Line) : String :=
  if line.json then rendering.object time line.level line.event line.fields
  else rendering.console time line.level line.event line.fields

end Logging

end TableLayout
