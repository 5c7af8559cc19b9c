import TableLayout.Datum.Decimal

/-!
# Rounding to a floating-point number

A floating-point number holds 53 significant bits, so digits as somebody wrote them are rounded
first, and then kept by the fewest digits that are rounded to the same number.

- `Binary`, `Binary.nearest`: the nearest number of 53 bits to a fraction; a half goes to the even
  neighbour.
- `Decimal.digitsOf?`: digits of a given count that are rounded to a number.
- `Decimal.rounded`: the number for digits; those that are too large give an infinity, those that
  are too small give zero.
-/

namespace TableLayout

/-- A whole number of at most 53 bits times a power of two. -/
structure Binary where
  significand : Nat
  exponent : Int
deriving DecidableEq, Repr

namespace Binary

/-- Digits times a power of a base as a fraction. -/
def fraction (base digits : Nat) (exponent : Int) : Nat × Nat :=
  (digits * Nat.pow base exponent.toNat, Nat.pow base (-exponent).toNat)

/-- The exponent of the greatest power of two that is no greater than a positive fraction. -/
def log2 (n d : Nat) : Int :=
  let estimate := (n.log2 : Int) - d.log2
  if d * Nat.pow 2 estimate.toNat ≤ n * Nat.pow 2 (-estimate).toNat then estimate else estimate - 1

/-- The number of 53 bits that is nearest to a positive fraction; the exponent stays above the least
one. -/
def nearest (n d : Nat) : Binary :=
  let exponent := max (log2 n d - 52) (-1074)
  let significand := Decimal.nearestQuotient (n * Nat.pow 2 (-exponent).toNat)
    (d * Nat.pow 2 exponent.toNat)
  if significand = Nat.pow 2 53 then ⟨Nat.pow 2 52, exponent + 1⟩ else ⟨significand, exponent⟩

/-- The number that is nearest to digits times a power of ten. -/
def ofDigits (digits : Nat) (exponent : Int) : Binary :=
  nearest (fraction 10 digits exponent).1 (fraction 10 digits exponent).2

/-- Whether a number is too large to be held. -/
def isInfinite (x : Binary) : Bool :=
  971 < x.exponent

end Binary

namespace Decimal

/-- The digits nearest to a number in units of a power of ten, or else those on its other side, if
they are rounded to the number. -/
def digitsOf? (x : Binary) (unit : Int) : Option Nat :=
  let (n, d) := Binary.fraction 2 x.significand x.exponent
  let n := n * Nat.pow 10 (-unit).toNat
  let d := d * Nat.pow 10 unit.toNat
  let near := nearestQuotient n d
  let far := if near = n / d then near + 1 else n / d
  [near, far].find? fun digits => Binary.ofDigits digits unit = x

/-- The number of 53 bits, by the fewest digits that are rounded to it. At most 17 digits are needed
from the place of the first one on. -/
def shortest (negative : Bool) (x : Binary) (first : Int) : Decimal :=
  let units := (List.range 17).map fun (more : Nat) => first - more
  match units.findSome? fun unit => (digitsOf? x unit).map (·, unit) with
  | some (digits, unit) => ofDigits negative (Nat.toDigits 10 digits) unit
  | none => .finite negative 0 0

/-- The number for digits. -/
def rounded : Decimal → Decimal
  | .finite negative digits exponent =>
    let first := exponent + (Nat.toDigits 10 digits).length - 1
    if digits = 0 ∨ first < -330 then .finite negative 0 0
    else if 310 < first then .infinite negative
    else
      let x := Binary.ofDigits digits exponent
      if x.isInfinite then .infinite negative
      else if x.significand = 0 then .finite negative 0 0
      else shortest negative x first
  | x => x

end Decimal

end TableLayout
