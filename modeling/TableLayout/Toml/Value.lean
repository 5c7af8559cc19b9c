import TableLayout.Datum.Agreement
import TableLayout.Toml.Moment
import TableLayout.Toml.Number

/-!
# Values in TOML

- `Toml.path?`: a key, which may lead through several maps.
- `Toml.disjoint`: no path leads to a place that another one leads through.
- `Toml.putAt`: puts a value at the end of a path.
- `Toml.value?`: a text, a truth value, a number, a date or a time, a list in brackets or a map in
  braces. The maps on the way of a path belong to the braces around it; a value that is written out
  is complete.
-/

namespace TableLayout.Toml

/-! ## Keys -/

/-- A character of a key without quotes. -/
def isBare (c : Char) : Bool :=
  c.isAlphanum || c == '_' || c == '-'

/-- A step of a key: a word or a text of one line. -/
def name? (cs : List Char) : Option (String × List Char) :=
  match cs.span isBare with
  | ([], _) => line? cs
  | (word, rest) => some (String.ofList word, rest)

/-- A key with points between its steps. The number of characters bounds the number of steps. -/
def pathFrom? : Nat → List Char → Option (List String × List Char)
  | 0, _ => none
  | fuel + 1, cs => do
    let (name, rest) ← name? cs
    match rest.dropWhile isBlank with
    | '.' :: rest =>
      let (names, rest) ← pathFrom? fuel (rest.dropWhile isBlank)
      return (name :: names, rest)
    | rest => return ([name], rest)

/-- A key. -/
def path? (cs : List Char) : Option (List String × List Char) :=
  pathFrom? cs.length cs

/-- A key with the equals sign behind it and the blanks after that. -/
def assigned? (cs : List Char) : Option (List String × List Char) := do
  let (path, rest) ← path? cs
  return (path, (← after? '=' rest).dropWhile isBlank)

/-! ## Maps -/

/-- No path leads to a place that another one leads through. -/
def disjoint : List (List String) → Bool
  | [] => true
  | path :: paths =>
    paths.all (fun other => !path.isPrefixOf other && !other.isPrefixOf path) && disjoint paths

/-- Puts a value at the end of a path, through maps. -/
def putAt (value : Datum) : List String → List (Datum × Datum) → List (Datum × Datum)
  | [], entries => entries
  | [name], entries => Datum.put entries (.text name) value
  | name :: path, entries =>
    match Datum.find? entries name with
    | some (.map inner) => Datum.put entries (.text name) (.map (putAt value path inner))
    | _ => Datum.put entries (.text name) (.map (putAt value path []))

/-- The map of values at paths. -/
def mapOf? (assignments : List (List String × Datum)) : Option Datum :=
  if disjoint (assignments.map Prod.fst) then
    some (.map (assignments.foldl (fun entries (path, value) => putAt value path entries) []))
  else none

/-! ## Values -/

/-- A truth value. -/
def switch? : List Char → Option (Datum × List Char)
  | 't' :: 'r' :: 'u' :: 'e' :: rest => some (.bool true, rest)
  | 'f' :: 'a' :: 'l' :: 's' :: 'e' :: rest => some (.bool false, rest)
  | _ => none

/-- A value without brackets or braces. -/
def plain? (cs : List Char) : Option (Datum × List Char) :=
  (((text? cs).map fun (text, rest) => (.text text, rest)).or (switch? cs)).or
    ((moment? cs).or (number? cs))

mutual

/-- A value; `fuel` bounds how deep values lie in each other and how many stand side by side. -/
def valueFrom? : Nat → List Char → Option (Datum × List Char)
  | 0, _ => none
  | fuel + 1, '[' :: cs => do
    let (items, rest) ← itemsFrom? fuel cs
    return (.list items, rest)
  | fuel + 1, '\x7b' :: cs =>
    match cs.dropWhile isBlank with
    | '\x7d' :: rest => some (.map [], rest)
    | cs => do
      let (assignments, rest) ← assignmentsFrom? fuel cs
      return (← mapOf? assignments, rest)
  | _ + 1, cs => plain? cs

/-- The items of a list up to its bracket; a comma may stand behind the last one. -/
def itemsFrom? : Nat → List Char → Option (List Datum × List Char)
  | 0, _ => none
  | fuel + 1, cs => do
    match ← afterSpace? false cs with
    | ']' :: rest => return ([], rest)
    | cs =>
      let (item, rest) ← valueFrom? fuel cs
      match ← afterSpace? false rest with
      | ']' :: rest => return ([item], rest)
      | ',' :: rest =>
        let (items, rest) ← itemsFrom? fuel rest
        return (item :: items, rest)
      | _ => none

/-- The values at paths of a map up to its brace. -/
def assignmentsFrom? : Nat → List Char → Option (List (List String × Datum) × List Char)
  | 0, _ => none
  | fuel + 1, cs => do
    let (path, rest) ← assigned? cs
    let (value, rest) ← valueFrom? fuel rest
    match rest.dropWhile isBlank with
    | '\x7d' :: rest => return ([(path, value)], rest)
    | ',' :: rest =>
      let (assignments, rest) ← assignmentsFrom? fuel (rest.dropWhile isBlank)
      return ((path, value) :: assignments, rest)
    | _ => none

end

/-- A value. Every bracket takes two steps, and there are no more of them than characters. -/
def value? (cs : List Char) : Option (Datum × List Char) :=
  valueFrom? (2 * cs.length + 2) cs

end TableLayout.Toml
