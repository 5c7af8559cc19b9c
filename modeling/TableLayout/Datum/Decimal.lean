/-!
# Floating-point numbers by their digits

A floating-point number is kept by the fewest decimal digits that read back as it, which is also
how it is written.

- `Decimal`: a sign, digits and an exponent; an infinity; or a value that is not a number.
- `Decimal.ofText?`: the number written by a text.
- `Decimal.text`: the text of a number: positional while the point stands at most sixteen places
  from the first digit and less than four places before it, with an exponent otherwise.
- `Decimal.whole?`: the whole number that equals it, if there is one. From `10 ^ 16` on the digits
  are those of a neighbour, so the value is rounded to the 53 bits that a number holds.
-/

namespace TableLayout

/-- A floating-point number. -/
inductive Decimal where
  /-- The digits times a power of ten; the last digit is not zero, unless all are. -/
  | finite (negative : Bool) (digits : Nat) (exponent : Int)
  | infinite (negative : Bool)
  /-- A value that is not a number equals no other; `tag` tells two of them apart. -/
  | notANumber (tag : Nat)
deriving DecidableEq, Repr

namespace Decimal

/-! ## Reading -/

/-- The number that decimal digits write. -/
def digitsValue (cs : List Char) : Nat :=
  cs.foldl (fun n c => 10 * n + (c.toNat - '0'.toNat)) 0

/-- A whole number with an optional sign. -/
def signed? : List Char → Option Int
  | '-' :: cs => unsigned? cs |>.map fun n => -(n : Int)
  | '+' :: cs => unsigned? cs |>.map Int.ofNat
  | cs => unsigned? cs |>.map Int.ofNat
where
  /-- Digits only, and at least one. -/
  unsigned? (cs : List Char) : Option Nat :=
    if cs.isEmpty || !cs.all Char.isDigit then none else some (digitsValue cs)

/-- The number with the digits `cs` times a power of ten, in normal form. -/
def ofDigits (negative : Bool) (cs : List Char) (exponent : Int) : Decimal :=
  let kept := (cs.reverse.dropWhile (· == '0')).reverse
  if kept.isEmpty then .finite negative 0 0
  else .finite negative (digitsValue kept) (exponent + (cs.length - kept.length : Nat))

/-- A number without its sign. -/
def magnitude? (negative : Bool) (cs : List Char) : Option Decimal := do
  let (mantissa, rest) := cs.span (· != 'e')
  let exponent ← if rest.isEmpty then some 0 else signed? rest.tail
  let (whole, rest) := mantissa.span (· != '.')
  let fraction := rest.tail
  if whole.isEmpty || !(whole ++ fraction).all Char.isDigit then none
  else some (ofDigits negative (whole ++ fraction) (exponent - fraction.length))

/-- The number that a text writes; `tag` is given to a value that is not a number. -/
def ofText? (tag : Nat) (s : String) : Option Decimal :=
  if s = "nan" then some (.notANumber tag)
  else if s = "inf" then some (.infinite false)
  else if s = "-inf" then some (.infinite true)
  else match s.toList with
    | '-' :: cs => magnitude? true cs
    | cs => magnitude? false cs

/-! ## Writing -/

/-- A minus sign for negative numbers. -/
def sign (negative : Bool) : String :=
  if negative then "-" else ""

/-- Zeros in a row. -/
def zeros (n : Nat) : List Char :=
  List.replicate n '0'

/-- Digits with the point after the first `point` of them; a point before all digits or past the
last one is reached over zeros. -/
def positional (digits : List Char) (point : Int) : List Char :=
  if point ≤ 0 then '0' :: '.' :: zeros (-point).toNat ++ digits
  else if digits.length ≤ point.toNat then
    digits ++ zeros (point.toNat - digits.length) ++ ['.', '0']
  else digits.take point.toNat ++ '.' :: digits.drop point.toNat

/-- Digits with the point after the first one, and an exponent of at least two digits. -/
def scientific (digits : List Char) (exponent : Int) : List Char :=
  let fraction := if digits.length ≤ 1 then [] else '.' :: digits.drop 1
  let mark := if exponent < 0 then '-' else '+'
  digits.take 1 ++ fraction ++ 'e' :: mark :: (Nat.toDigits 10 exponent.natAbs).leftpad 2 '0'

/-- The digits of a number with the point or the exponent where it belongs. -/
def layoutDigits (digits : Nat) (exponent : Int) : List Char :=
  let cs := Nat.toDigits 10 digits
  let point := exponent + cs.length
  if digits = 0 then ['0', '.', '0']
  else if -4 < point ∧ point ≤ 16 then positional cs point
  else scientific cs (point - 1)

/-- The text of a number. -/
def text : Decimal → String
  | .finite negative digits exponent =>
    sign negative ++ String.ofList (layoutDigits digits exponent)
  | .infinite negative => sign negative ++ "inf"
  | .notANumber _ => "nan"

/-- The text of a number in JSON. -/
def jsonText : Decimal → String
  | .infinite negative => sign negative ++ "Infinity"
  | .notANumber _ => "NaN"
  | x => x.text

/-! ## Value -/

/-- No digits: zero of either sign. -/
def isZero : Decimal → Bool
  | .finite _ digits _ => digits == 0
  | _ => false

/-- The digits times a power of ten that is at least one. -/
def scaled (digits : Nat) (exponent : Int) : Nat :=
  digits * Nat.pow 10 exponent.toNat

/-- The whole number nearest to a quotient; a half goes to the even neighbour. -/
def nearestQuotient (n d : Nat) : Nat :=
  let low := n / d
  let twice := 2 * (n % d)
  if d < twice || (d == twice && low % 2 == 1) then low + 1 else low

/-- The nearest number of at most 53 significant bits; a half goes to the even neighbour. -/
def nearestBinary (n : Nat) : Nat :=
  let unit := Nat.pow 2 (n.log2 - 52)
  nearestQuotient n unit * unit

/-- The whole number that equals a number. -/
def whole? : Decimal → Option Int
  | .finite negative digits exponent =>
    if exponent < 0 then none
    else
      let n := nearestBinary (scaled digits exponent)
      some (if negative then -(n : Int) else n)
  | _ => none

/-- Less than, among numbers that are not infinite. -/
def below : Decimal → Decimal → Bool
  | .finite n₁ d₁ e₁, .finite n₂ d₂ e₂ =>
    let unit := min e₁ e₂
    let value := fun (negative : Bool) (digits : Nat) (e : Int) =>
      (if negative then -1 else 1) * (scaled digits (e - unit) : Int)
    value n₁ d₁ e₁ < value n₂ d₂ e₂
  | .infinite true, x => x != .infinite true
  | x, .infinite false => x != .infinite false
  | _, _ => false

/-- A whole number by its digits. -/
def ofInt (n : Int) : Decimal :=
  ofDigits (n < 0) (Nat.toDigits 10 n.natAbs) 0

/-- A number by all digits of its value, if it is whole, and as it is otherwise. -/
def exact (x : Decimal) : Decimal :=
  match x.whole? with
  | some n => ofInt n
  | none => x

end Decimal

end TableLayout
