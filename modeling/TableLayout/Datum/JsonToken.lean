import TableLayout.Text.Digits
import TableLayout.Text.Quoted

/-!
# Tokens of JSON

- `JsonToken`: a bracket, a colon or a comma; a text; or a word, which is whatever stands between
  these without blanks.
- `JsonToken.joined?`: the characters of code points in which the two halves of one character may
  stand one after the other.
- `JsonToken.tokens?`: the tokens of characters, read one by one by `JsonToken.Scanner.step?`.
-/

namespace TableLayout

/-- A token of JSON. -/
inductive JsonToken where
  /-- A bracket, a colon or a comma. -/
  | mark (c : Char)
  | text (value : String)
  | word (cs : List Char)
deriving DecidableEq, Repr

namespace JsonToken

/-- The marks. -/
def marks : List Char :=
  ['[', ']', '\x7b', '\x7d', ':', ',']

/-- Blanks between tokens. -/
def isBlank (c : Char) : Bool :=
  c == ' ' || c == '\n' || c == '\r' || c == '\t'

/-! ## Texts -/

/-- The first half of a character beyond the first `0x10000`. -/
def isHigh (unit : Nat) : Bool :=
  0xD800 ≤ unit && unit < 0xDC00

/-- The second half of such a character. -/
def isLow (unit : Nat) : Bool :=
  0xDC00 ≤ unit && unit < 0xE000

/-- The character of two halves. -/
def pairChar (high low : Nat) : Char :=
  Char.ofNat (0x10000 + (high - 0xD800) * 0x400 + (low - 0xDC00))

/-- The characters of code points, if halves stand in pairs only. -/
def joined? : List Nat → Option (List Char)
  | [] => some []
  | [unit] => if isHigh unit || isLow unit then none else some [Char.ofNat unit]
  | high :: low :: units =>
    if isHigh high && isLow low then (pairChar high low :: ·) <$> joined? units
    else if isHigh high || isLow high then none
    else (Char.ofNat high :: ·) <$> joined? (low :: units)

/-- What stands for a character after a backslash. -/
def escaped? (c : Char) : Option Char :=
  [('n', '\n'), ('r', '\r'), ('t', '\t'), ('b', '\x08'), ('f', '\x0c'), ('/', '/'), ('\\', '\\'),
    (Text.doubleQuote, Text.doubleQuote)].lookup c

/-! ## Scanning -/

/-- Where a scanner stands; what it has read of a token is in reverse order. -/
inductive Place where
  | between
  | word (cs : List Char)
  | text (units : List Nat)
  /-- In a text, after a backslash. -/
  | escape (units : List Nat)
  /-- In a text, in an escape by number with some digits still to come. -/
  | number (units : List Nat) (value missing : Nat)

/-- A scanner with the tokens that it has read, the last one first. -/
structure Scanner where
  tokens : List JsonToken
  place : Place

namespace Scanner

/-- A scanner that has read nothing. -/
def start : Scanner :=
  ⟨[], .between⟩

/-- Closes the word that a scanner stands in. -/
def closeWord (tokens : List JsonToken) (cs : List Char) : List JsonToken :=
  .word cs.reverse :: tokens

/-- Reads a character outside of texts. -/
def outside (tokens : List JsonToken) (c : Char) : Scanner :=
  if c ∈ marks then ⟨.mark c :: tokens, .between⟩
  else if isBlank c then ⟨tokens, .between⟩
  else if c = Text.doubleQuote then ⟨tokens, .text []⟩
  else ⟨tokens, .word [c]⟩

/-- Whether a character ends a word. -/
def endsWord (c : Char) : Bool :=
  marks.contains c || isBlank c || c == Text.doubleQuote

/-- Reads a character; control characters have no place in a text. -/
def step? (scanner : Scanner) (c : Char) : Option Scanner :=
  match scanner with
  | ⟨tokens, .between⟩ => some (outside tokens c)
  | ⟨tokens, .word cs⟩ =>
    if endsWord c then some (outside (closeWord tokens cs) c) else some ⟨tokens, .word (c :: cs)⟩
  | ⟨tokens, .text units⟩ =>
    if c = Text.doubleQuote then
      (joined? units.reverse).map fun cs => ⟨.text (String.ofList cs) :: tokens, .between⟩
    else if c = '\\' then some ⟨tokens, .escape units⟩
    else if c.toNat < 0x20 then none
    else some ⟨tokens, .text (c.toNat :: units)⟩
  | ⟨tokens, .escape units⟩ =>
    if c = 'u' then some ⟨tokens, .number units 0 4⟩
    else (escaped? c).map fun c => ⟨tokens, .text (c.toNat :: units)⟩
  | ⟨tokens, .number units value missing⟩ =>
    (Text.digitValue? c).map fun digit =>
      let value := 16 * value + digit
      if missing ≤ 1 then ⟨tokens, .text (value :: units)⟩
      else ⟨tokens, .number units value (missing - 1)⟩

/-- The tokens that a scanner has read, unless it stands in a text. -/
def finish? : Scanner → Option (List JsonToken)
  | ⟨tokens, .between⟩ => some tokens.reverse
  | ⟨tokens, .word cs⟩ => some (closeWord tokens cs).reverse
  | _ => none

end Scanner

/-- The tokens of characters. -/
def tokens? (cs : List Char) : Option (List JsonToken) := do
  (← cs.foldlM Scanner.step? Scanner.start).finish?

end JsonToken

end TableLayout
