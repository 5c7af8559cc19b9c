import TableLayout.Datum.Basic
import TableLayout.Text.Digits

/-!
# Dates and times as calls

Where a date or a time is quoted, it stands as the call that makes it, with its numbers as
arguments. It is written as a date `2024-02-29`, a time of the day `07:32:00.5`, or both with one
character between them, which the distance from universal time may follow.

- `Moment.quoted`: the call for a date or a time.
-/

namespace TableLayout.Moment

/-- The number that so many characters from a place on write. -/
def numberAt (cs : List Char) (place width : Nat) : Nat :=
  Text.ofDigits 10 ((cs.drop place).take width)

/-- The numbers of a date. -/
def dateNumbers (cs : List Char) : List Nat :=
  [numberAt cs 0 4, numberAt cs 5 2, numberAt cs 8 2]

/-- The digits of a second's fraction, in a time of the day. -/
def fraction (cs : List Char) : List Char :=
  match cs.drop 8 with
  | '.' :: rest => rest.takeWhile (Text.isDigitOf 10)
  | _ => []

/-- The numbers of a time of the day: seconds and their millionths only as far as they are not
zero. -/
def clockNumbers (cs : List Char) : List Nat :=
  let second := numberAt cs 6 2
  let millionths := numberAt (fraction cs ++ List.replicate 6 '0') 0 6
  [numberAt cs 0 2, numberAt cs 3 2] ++
    if millionths ≠ 0 then [second, millionths] else if second ≠ 0 then [second] else []

/-- What follows a time of the day. -/
def afterClock (cs : List Char) : List Char :=
  (cs.drop 8).dropWhile fun c => c = '.' ∨ Text.isDigitOf 10 c

/-- The distance from universal time, as an argument; none if nothing follows the time. -/
def zoneArguments : List Char → List String
  | [] => []
  | mark :: cs =>
    let seconds := 3600 * numberAt cs 0 2 + 60 * numberAt cs 3 2
    let zone :=
      if seconds = 0 then "utc"
      else if mark = '-' then s!"timezone(datetime.timedelta(days=-1, seconds={86400 - seconds}))"
      else s!"timezone(datetime.timedelta(seconds={seconds}))"
    [s!"tzinfo=datetime.{zone}"]

/-- The arguments of a call. -/
def arguments (sort : Moment) (cs : List Char) : List String :=
  match sort with
  | .date => (dateNumbers cs).map toString
  | .time => (clockNumbers cs).map toString
  | .dateTime =>
    let clock := cs.drop 11
    (dateNumbers cs ++ clockNumbers clock).map toString ++ zoneArguments (afterClock clock)

/-- The call that makes a date or a time. -/
def quoted (sort : Moment) (written : String) : String :=
  s!"datetime.{(Datum.moment sort written).kind.name}("
    ++ String.intercalate ", " (arguments sort written.toList) ++ ")"

end TableLayout.Moment
