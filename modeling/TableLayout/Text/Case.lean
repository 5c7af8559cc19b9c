/-!
# Case

Upper-case and lower-case forms of characters are kept in runs: most characters have one character
as their other form, at an equal distance along a run of characters.

- `CaseRun`: a run of characters and the forms that they have.
- `CaseTable`: the forms of all characters from U+0080 on that have one.
- `CaseTable.form`: the form of a character, which is the character itself where the table has none.
-/

namespace TableLayout.Text

/-- Characters `first`, `first + step`, … `last` whose forms are `target`, `target + step`, … -/
structure CaseRun where
  first : Nat
  last : Nat
  step : Nat
  target : Nat

/-- The form that a run gives to a code point. -/
def CaseRun.form? (run : CaseRun) (n : Nat) : Option Nat :=
  if run.first ≤ n && n ≤ run.last && (n - run.first) % run.step == 0 then
    some (run.target + (n - run.first))
  else none

/-- The forms of characters. -/
structure CaseTable where
  /-- Characters with one character as their form. -/
  runs : List CaseRun
  /-- Characters with several characters as their form. -/
  expansions : List (Nat × List Nat)

/-- The form of a character. -/
def CaseTable.form (table : CaseTable) (c : Char) : List Char :=
  match table.expansions.lookup c.toNat with
  | some form => form.map Char.ofNat
  | none => match table.runs.findSome? (·.form? c.toNat) with
    | some n => [Char.ofNat n]
    | none => [c]

end TableLayout.Text
