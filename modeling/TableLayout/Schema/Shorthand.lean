import TableLayout.Schema.Error
import TableLayout.Text.Blank
import TableLayout.Text.Lower
import TableLayout.Text.Word

/-!
# Shorthand for schemas (specification §3.1)

A type may be written as a word, with a question mark after it if the value may be null:
`int64`, `string?`. A field may be written as its name, a colon and its type: `email: string?`.
Blanks around either do not count.

- `Shorthand.type`: the type and the mark of a type text.
- `Shorthand.field`: the name, the type and the mark of a field text.
- `Shorthand.namedType`: a name and a type text, divided at the first colon; the name may be any
  text.
-/

namespace TableLayout.Shorthand

/-- A text without the question mark at its end, and whether there is one. -/
def splitMark (cs : List Char) : List Char × Bool :=
  if cs.getLast? = some '?' then (cs.dropLast, true) else (cs, false)

/-- Whether characters form a word. -/
def isWordText (cs : List Char) : Bool :=
  !cs.isEmpty && cs.all Text.isWord

/-- Whether characters form a word with an optional question mark. -/
def isTypeText (cs : List Char) : Bool :=
  isWordText (splitMark cs).1

/-- The type and the mark of a type text. -/
def type (spec : String) : Except SchemaError (ValueType × Bool) :=
  let (word, marked) := splitMark (Text.trim spec.toList)
  if isWordText word then
    match ValueType.ofText? (Text.lower (String.ofList word)) with
    | some type => .ok (type, marked)
    | none => .error (.unknownType (String.ofList word))
  else .error (.malformedType spec)

/-- Whether characters form the name of a field in a field text. -/
def isNameText (cs : List Char) : Bool :=
  !cs.isEmpty && cs.all fun c => !Text.isBlank c

/-- The text of the name and the text of the type in a field text. -/
def splitField? (entry : String) : Option (List Char × List Char) :=
  let (name, rest) := (Text.trim entry.toList).span (· != ':')
  match rest with
  | _ :: rest =>
    let typeText := rest.dropWhile Text.isBlank
    if isNameText name && isTypeText typeText then some (name, typeText) else none
  | [] => none

/-- The name, the type and the mark of a field text. -/
def field (entry : String) : Except SchemaError (String × ValueType × Bool) :=
  match splitField? entry with
  | some (name, typeText) => (String.ofList name, ·) <$> type (String.ofList typeText)
  | none => .error (.malformedField entry)

/-- The name before the first colon and the type after it. -/
def namedType (entry : String) : Except SchemaError (String × ValueType × Bool) :=
  let (name, rest) := entry.toList.span (· != ':')
  (Text.strip (String.ofList name), ·) <$> type (Text.strip (String.ofList rest.tail))

end TableLayout.Shorthand
