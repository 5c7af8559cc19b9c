import TableLayout.Datum.Agreement
import TableLayout.Datum.JsonToken
import TableLayout.Datum.Printed
import TableLayout.Datum.Rounding

/-!
# Values from JSON

- `Datum.ofWord?`: the value of a word: null, a truth value or a number.
- `JsonReader`: a reader with the brackets that are open and what may come next.
- `JsonReader.step?`: reads a token.
- `Datum.ofJson?`: the value that a text in JSON writes. Of entries under one key the last one
  counts; a text of blanks only writes null.
-/

namespace TableLayout

/-! ## Words -/

/-- The value of a word: null, a truth value or a number. -/
def Datum.ofWord? (cs : List Char) : Option Datum :=
  if cs = "null".toList then some .null
  else if cs = "true".toList then some (.bool true)
  else if cs = "false".toList then some (.bool false)
  else if cs.head? = some '+' then none
  else match Decimal.signed? cs with
    | some n => some (.int n)
    | none =>
      (Decimal.ofText? 0 (String.ofList (cs.map Char.toLower))).map fun x => .float x.rounded

/-! ## Reading tokens -/

/-- An open bracket with what has been read behind it. -/
inductive JsonReader.Open where
  /-- A list with its items, the last one first. -/
  | list (items : List Datum)
  /-- A map with its entries and the key of the next one. -/
  | map (entries : List (Datum × Datum)) (key : String)

/-- What may come next. -/
inductive JsonReader.Turn where
  | value
  /-- A value or the end of the list. -/
  | firstItem
  | key
  /-- A key or the end of the map. -/
  | firstKey
  | colon
  /-- A comma or the end of the bracket. -/
  | more
  /-- Nothing but the end: the value is complete. -/
  | done (value : Datum)

/-- A reader, with the innermost open bracket first. -/
structure JsonReader where
  opened : List JsonReader.Open
  turn : JsonReader.Turn

namespace JsonReader

/-- A reader that has read nothing. -/
def start : JsonReader :=
  ⟨[], .value⟩

/-- Puts a value where the reader stands. -/
def place (value : Datum) : List Open → JsonReader
  | [] => ⟨[], .done value⟩
  | .list items :: outer => ⟨.list (value :: items) :: outer, .more⟩
  | .map entries key :: outer => ⟨.map (Datum.put entries (.text key) value) key :: outer, .more⟩

/-- Reads a value or the bracket that opens one. -/
def value? (opened : List Open) : JsonToken → Option JsonReader
  | .mark '[' => some ⟨.list [] :: opened, .firstItem⟩
  | .mark '\x7b' => some ⟨.map [] "" :: opened, .firstKey⟩
  | .mark _ => none
  | .text s => some (place (.text s) opened)
  | .word cs => (Datum.ofWord? cs).map (place · opened)

/-- Closes the innermost bracket. -/
def close? (c : Char) : List Open → Option JsonReader
  | .list items :: outer => if c = ']' then some (place (.list items.reverse) outer) else none
  | .map entries _ :: outer => if c = '\x7d' then some (place (.map entries) outer) else none
  | [] => none

/-- Reads a key. -/
def key? : List Open → JsonToken → Option JsonReader
  | .map entries _ :: outer, .text key => some ⟨.map entries key :: outer, .colon⟩
  | _, _ => none

/-- What comes after a comma. -/
def next? : List Open → Option JsonReader
  | opened@(.list _ :: _) => some ⟨opened, .value⟩
  | opened@(.map _ _ :: _) => some ⟨opened, .key⟩
  | [] => none

/-- Reads a token. -/
def step? : JsonReader → JsonToken → Option JsonReader
  | ⟨opened, .value⟩, token => value? opened token
  | ⟨opened, .firstItem⟩, token => if token = .mark ']' then close? ']' opened
    else value? opened token
  | ⟨opened, .key⟩, token => key? opened token
  | ⟨opened, .firstKey⟩, token => if token = .mark '\x7d' then close? '\x7d' opened
    else key? opened token
  | ⟨opened, .colon⟩, token => if token = .mark ':' then some ⟨opened, .value⟩ else none
  | ⟨opened, .more⟩, .mark c => if c = ',' then next? opened else close? c opened
  | ⟨_, .more⟩, _ => none
  | ⟨_, .done _⟩, _ => none

/-- The value that a reader has read, if it is complete. -/
def finish? : JsonReader → Option Datum
  | ⟨_, .done value⟩ => some value
  | _ => none

end JsonReader

/-- The value that a text in JSON writes. -/
def Datum.ofJson? (s : String) : Option Datum := do
  let tokens ← JsonToken.tokens? s.toList
  if tokens.isEmpty then return .null
  (← tokens.foldlM JsonReader.step? JsonReader.start).finish?

end TableLayout
