import TableLayout.Text.Printable

/-!
# Quoted text

Messages show a text between quotes, with escapes for what cannot be printed.

- `quoteMark`: the mark on either side: an apostrophe, or a double quote where the text holds an
  apostrophe and no double quote.
- `quoted`: the quoted form of a text.
- `quotedBytes`, `quotedBuffer`: the quoted form of a sequence of bytes, on its own or in a buffer.
- `listed`: a list of texts, each quoted, in brackets.
-/

namespace TableLayout.Text

/-- The apostrophe. -/
def apostrophe : Char := '\x27'

/-- The double quote. -/
def doubleQuote : Char := '\x22'

/-- The mark that stands on either side of a text of these characters. -/
def quoteMark (cs : List Char) : Char :=
  if apostrophe ∈ cs ∧ doubleQuote ∉ cs then doubleQuote else apostrophe

/-- At least `width` hexadecimal digits, in lower case. -/
def hexDigits (width n : Nat) : List Char :=
  (Nat.toDigits 16 n).leftpad width '0'

/-- An escape by number: two, four or eight digits. -/
def numericEscape (n : Nat) : List Char :=
  if n < 0x100 then '\\' :: 'x' :: hexDigits 2 n
  else if n < 0x10000 then '\\' :: 'u' :: hexDigits 4 n
  else '\\' :: 'U' :: hexDigits 8 n

/-- A character between quote marks, if it is one of those that are always escaped. -/
def namedEscape? (mark c : Char) : Option (List Char) :=
  if c = mark ∨ c = '\\' then some ['\\', c]
  else if c = '\n' then some ['\\', 'n']
  else if c = '\r' then some ['\\', 'r']
  else if c = '\t' then some ['\\', 't']
  else none

/-- A character of a text between quote marks. -/
def escapeChar (mark c : Char) : List Char :=
  (namedEscape? mark c).getD (if isPrintable c then [c] else numericEscape c.toNat)

/-- A text between quote marks. -/
def quoted (s : String) : String :=
  let mark := quoteMark s.toList
  String.ofList (mark :: s.toList.flatMap (escapeChar mark) ++ [mark])

/-- A character of bytes between quote marks: one of printable ASCII stands for itself, others are
escaped by number. -/
def escapeByte (mark c : Char) : List Char :=
  (namedEscape? mark c).getD
    (if c.toNat < 0x80 && isPrintable c then [c] else numericEscape c.toNat)

/-- Bytes between quote marks, after a `b`, each written by `escape`, which knows the mark. -/
def quotedBytesBy (escape : Char → Char → List Char) (bytes : List UInt8) : String :=
  let chars := bytes.map fun b => Char.ofNat b.toNat
  let mark := quoteMark chars
  String.ofList ('b' :: mark :: chars.flatMap (escape mark) ++ [mark])

/-- Bytes between quote marks. -/
def quotedBytes : List UInt8 → String :=
  quotedBytesBy escapeByte

/-- The bytes of a buffer between quote marks: an apostrophe is escaped also between double
quotes. -/
def quotedBuffer : List UInt8 → String :=
  quotedBytesBy fun mark c => if c = apostrophe then ['\\', c] else escapeByte mark c

/-- Texts, each between quote marks, in brackets. -/
def listed (names : List String) : String :=
  "[" ++ String.intercalate ", " (names.map quoted) ++ "]"

end TableLayout.Text
