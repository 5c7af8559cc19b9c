import TableLayout.Datum.Printed
import TableLayout.Text.Utf8

/-!
# Record headers (specification §3.2)

A record carries an ordered list of headers, each with a key and a value. Keys may repeat.

- `Header`: a header; `Header.make` takes its key from a value, which has to be a text.
- `Header.text`: the text of a header's value (`value_as_str`): bytes in either carrier are read as
  UTF-8.
- `Header.shownAll`: a list of headers in messages.
- `Header.readAll`: the headers that a record file (§7.4) describes, as a map, or as a list of pairs
  and of maps with a `key` and a `value`.
-/

namespace TableLayout

/-- A header. -/
structure Header where
  key : String
  value : Datum

/-- What can be wrong with the description of headers. -/
inductive HeaderError where
  | keyNotText (kind : Datum.Kind)
  /-- Neither a map nor a list. -/
  | notHeaders (kind : Datum.Kind)
  /-- An entry of a list that is neither a pair nor a map with a key and a value. -/
  | malformedEntry (index : Nat)
  /-- A key with a whole number that has more digits than may be written. -/
  | longKey (most : Nat)
deriving DecidableEq, Repr

namespace HeaderError

/-- The words for an error. -/
def message : HeaderError → String
  | .keyNotText kind => s!"Header key must be a string, got {kind.name}"
  | .notHeaders kind => s!"'headers' must be a mapping or a list, got {kind.name}"
  | .malformedEntry index =>
    s!"headers[{index}] must be a [key, value] pair or a \x7bkey, value\x7d mapping"
  | .longKey most => Datum.tooLong most

/-- Whether the error lies in how the headers were handed over, so that nothing is reported on
the description itself. -/
def isMisuse : HeaderError → Bool
  | .keyNotText _ => true
  | _ => false

end HeaderError

namespace Header

/-- A header with a key given as a value. -/
def make (key value : Datum) : Except HeaderError Header :=
  match key with
  | .text key => .ok ⟨key, value⟩
  | key => .error (.keyNotText key.kind)

/-- Headers with keys given as values. -/
def makeAll (pairs : List (Datum × Datum)) : Except HeaderError (List Header) :=
  pairs.mapM fun pair => make pair.1 pair.2

/-- The text of a header's value, if that prints. -/
def text (header : Header) : Except Text.Utf8.Fault String :=
  match header.value with
  | .bytes bs | .buffer bs => Text.Utf8.decode bs
  | value => .ok value.shown

/-- The text of a header's value in messages, if that prints: bytes that are no text are quoted. -/
def shownValue (header : Header) : String :=
  match header.text with
  | .ok text => text
  | .error _ => header.value.quoted

/-- Headers in messages, if their values print. -/
def shownAll (headers : List Header) : String :=
  "[" ++ String.intercalate ", " (headers.map fun h => h.key ++ "=" ++ h.shownValue) ++ "]"

/-! ## Notation -/

/-- The key and the value that an entry of a list describes. -/
def entry? : Datum → Option (Datum × Datum)
  | .list [key, value] => some (key, value)
  | .map entries =>
    match Datum.find? entries "key", Datum.find? entries "value" with
    | some key, some value => if entries.length = 2 then some (key, value) else none
    | _, _ => none
  | _ => none

/-- The header of a key of any kind, by its text. -/
def named (key value : Datum) (digits : Option Nat := none) : Except HeaderError Header :=
  match key.exceeds? digits with
  | some most => .error (.longKey most)
  | none => .ok ⟨key.shown, value⟩

/-- The headers that the items of a list describe, the first of them at place `index`. -/
def readItems (index : Nat) (items : List Datum) (digits : Option Nat := none) :
    Except HeaderError (List Header) :=
  match items with
  | [] => .ok []
  | item :: items =>
    match entry? item with
    | some (key, value) => do
      let header ← named key value digits
      (header :: ·) <$> readItems (index + 1) items digits
    | none => .error (.malformedEntry index)

/-- The headers that a value describes, where keys are written with whole numbers of `digits` digits
at most. -/
def readAll (value : Datum) (digits : Option Nat := none) : Except HeaderError (List Header) :=
  match value with
  | .null => .ok []
  | .map entries => entries.mapM fun entry => named entry.1 entry.2 digits
  | .list items => readItems 0 items digits
  | value => .error (.notHeaders value.kind)

end Header

end TableLayout
