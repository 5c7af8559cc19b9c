import TableLayout.Datum.Basic
import TableLayout.Toml.Text

/-!
# Dates and times in TOML

- `Toml.date?`: what follows a date that the calendar has.
- `Toml.time?`: what follows a time of the day.
- `Toml.moment?`: a date, a time of the day, or both with a blank or a letter between them, which
  may be followed by the distance from universal time.
-/

namespace TableLayout.Toml

/-- A number of so many digits that lies between bounds, at the beginning of characters. -/
def numeral? (width least greatest : Nat) (cs : List Char) : Option (Nat × List Char) :=
  let digits := cs.take width
  let n := Text.ofDigits 10 digits
  if digits.length = width ∧ digits.all (Text.isDigitOf 10) ∧ least ≤ n ∧ n ≤ greatest then
    some (n, cs.drop width)
  else none

/-- What follows a given character. -/
def after? (mark : Char) : List Char → Option (List Char)
  | c :: cs => if c = mark then some cs else none
  | [] => none

/-- The number of days in a month. -/
def monthLength (year month : Nat) : Nat :=
  if month = 2 then
    if year % 4 = 0 ∧ (year % 100 ≠ 0 ∨ year % 400 = 0) then 29 else 28
  else if month ∈ [4, 6, 9, 11] then 30 else 31

/-- What follows a date. -/
def date? (cs : List Char) : Option (List Char) := do
  let (year, cs) ← numeral? 4 1 9999 cs
  let (month, cs) ← numeral? 2 1 12 (← after? '-' cs)
  let (_, cs) ← numeral? 2 1 (monthLength year month) (← after? '-' cs)
  return cs

/-- What follows a time without fractions of a second: the hour and the minute. -/
def clock? (cs : List Char) : Option (List Char) := do
  let (_, cs) ← numeral? 2 0 23 cs
  let (_, cs) ← numeral? 2 0 59 (← after? ':' cs)
  return cs

/-- What follows a time of the day. -/
def time? (cs : List Char) : Option (List Char) := do
  let cs ← clock? cs
  let (_, cs) ← numeral? 2 0 59 (← after? ':' cs)
  match cs with
  | '.' :: c :: rest =>
    if Text.isDigitOf 10 c then return rest.dropWhile (Text.isDigitOf 10) else return cs
  | _ => return cs

/-- What follows the distance from universal time. -/
def offset? : List Char → Option (List Char)
  | c :: cs => if c = 'Z' ∨ c = 'z' then some cs else if c = '+' ∨ c = '-' then clock? cs else none
  | [] => none

/-- What follows a time after a date. -/
def timeOfDate? : List Char → Option (List Char)
  | c :: cs => if c = 'T' ∨ c = 't' ∨ c = ' ' then time? cs else none
  | [] => none

/-- What a date or a time fixes, and what follows it. -/
def momentAt? (cs : List Char) : Option (Moment × List Char) :=
  match date? cs with
  | some rest => match timeOfDate? rest with
    | some rest => some (.dateTime, (offset? rest).getD rest)
    | none => some (.date, rest)
  | none => (time? cs).map (.time, ·)

/-- A date or a time. -/
def moment? (cs : List Char) : Option (Datum × List Char) :=
  (momentAt? cs).map fun (sort, rest) =>
    (.moment sort (String.ofList (cs.take (cs.length - rest.length))), rest)

end TableLayout.Toml
