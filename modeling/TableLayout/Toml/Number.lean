import TableLayout.Datum.Basic
import TableLayout.Datum.Rounding
import TableLayout.Text.Digits
import TableLayout.Toml.Text

/-!
# Numbers in TOML

- `Toml.run`: digits, between which single underscores may stand.
- `Toml.coded?`: a whole number in hexadecimal, octal or binary digits.
- `Toml.decimal?`: a number in decimal digits; with a fraction or an exponent it is rounded to a
  floating-point number.
- `Toml.number?`: a number of any sort, an infinity or a value that is not a number.
-/

namespace TableLayout.Toml

/-- Digits, with single underscores between them, which do not count. -/
def run (base : Nat) : List Char → List Char × List Char
  | '_' :: c :: cs =>
    if Text.isDigitOf base c then
      let (digits, rest) := run base cs
      (c :: digits, rest)
    else ([], '_' :: c :: cs)
  | c :: cs =>
    if Text.isDigitOf base c then
      let (digits, rest) := run base cs
      (c :: digits, rest)
    else ([], c :: cs)
  | [] => ([], [])

/-- At least one digit, and more with single underscores between them. -/
def digits? (base : Nat) : List Char → Option (List Char × List Char)
  | c :: cs =>
    if Text.isDigitOf base c then
      let (digits, rest) := run base cs
      some (c :: digits, rest)
    else none
  | [] => none

/-- The base for a letter after a zero. -/
def base? (c : Char) : Option Nat :=
  [('x', 16), ('o', 8), ('b', 2)].lookup c

/-- A whole number with its base before it. -/
def coded? : List Char → Option (Datum × List Char)
  | '0' :: c :: cs => do
    let base ← base? c
    let (digits, rest) ← digits? base cs
    return (.int (Text.ofDigits base digits), rest)
  | _ => none

/-- A sign, if one stands at the beginning: whether it is negative. -/
def sign : List Char → Bool × List Char
  | '-' :: cs => (true, cs)
  | '+' :: cs => (false, cs)
  | cs => (false, cs)

/-- The digits before the point: a zero stands alone. -/
def whole? : List Char → Option (List Char × List Char)
  | '0' :: cs => some (['0'], cs)
  | cs => digits? 10 cs

/-- The digits after the point, if there are any. -/
def fraction? : List Char → Option (List Char × List Char)
  | '.' :: cs => digits? 10 cs
  | _ => none

/-- An exponent. -/
def exponent? : List Char → Option (Int × List Char)
  | c :: cs => do
    guard (c = 'e' ∨ c = 'E')
    let (negative, cs) := sign cs
    let (digits, rest) ← digits? 10 cs
    let n := Text.ofDigits 10 digits
    return (if negative then -(n : Int) else n, rest)
  | [] => none

/-- A number in decimal digits. -/
def decimal? (cs : List Char) : Option (Datum × List Char) := do
  let (negative, cs) := sign cs
  let (whole, cs) ← whole? cs
  let fraction := fraction? cs
  let cs := (fraction.map Prod.snd).getD cs
  let exponent := exponent? cs
  let rest := (exponent.map Prod.snd).getD cs
  if fraction.isNone && exponent.isNone then
    let n := Text.ofDigits 10 whole
    return (.int (if negative then -(n : Int) else n), rest)
  else
    let after := (fraction.map Prod.fst).getD []
    let shift := (exponent.map Prod.fst).getD 0
    let x := Decimal.ofDigits negative (whole ++ after) (shift - after.length)
    return (.float x.rounded, rest)

/-- An infinity or a value that is not a number. -/
def special? (cs : List Char) : Option (Datum × List Char) :=
  match sign cs with
  | (negative, 'i' :: 'n' :: 'f' :: rest) => some (.float (.infinite negative), rest)
  | (_, 'n' :: 'a' :: 'n' :: rest) => some (.float (.notANumber 0), rest)
  | _ => none

/-- A number. -/
def number? (cs : List Char) : Option (Datum × List Char) :=
  ((coded? cs).or (decimal? cs)).or (special? cs)

end TableLayout.Toml
