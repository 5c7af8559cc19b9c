import TableLayout.Toml.Value

/-!
# Documents in TOML

A document is a list of statements, each on lines of its own: a value under a key, the heading of a
table, or the heading of the next table of a list. Keys after a heading lie in its table.

- `Toml.Statement`, `Toml.statements?`: the statements of a document.
- `Toml.Names`: the names that statements give to values and tables; no statement gives a name again
  or opens what another one has completed. A table that headings or keys lead through may be opened
  once, and one that keys lead through is complete at the next heading.
- `Toml.valueUnder?`: the value under a name at the top of a document that keeps these rules.
-/

namespace TableLayout.Toml

/-- A statement of a document. -/
inductive Statement where
  | assign (path : List String) (value : Datum)
  /-- The heading of a table. -/
  | table (path : List String)
  /-- The heading of the next table of a list. -/
  | next (path : List String)

/-! ## Reading -/

/-- A heading behind its opening bracket. -/
def heading? (cs : List Char) : Option (List String × List Char) := do
  let (path, rest) ← path? (cs.dropWhile isBlank)
  return (path, ← after? ']' rest)

/-- A statement. -/
def statement? : List Char → Option (Statement × List Char)
  | '[' :: '[' :: cs => do
    let (path, rest) ← heading? cs
    return (.next path, ← after? ']' rest)
  | '[' :: cs => do
    let (path, rest) ← heading? cs
    return (.table path, rest)
  | cs => do
    let (path, rest) ← assigned? cs
    let (value, rest) ← value? rest
    return (.assign path value, rest)

/-- The statement of a line, if there is one. -/
def lineStatement? (cs : List Char) : Option (List Statement × List Char) :=
  match cs with
  | [] | '\n' :: _ | '#' :: _ => some ([], cs)
  | cs => (statement? cs).map fun (statement, rest) => ([statement], rest)

/-- The statements of the lines of a document, of which there are no more than characters. -/
def statementsFrom? : Nat → List Char → Option (List Statement)
  | 0, _ => none
  | fuel + 1, cs => do
    let (first, rest) ← lineStatement? (cs.dropWhile isBlank)
    match ← afterComment? (rest.dropWhile isBlank) with
    | [] => return first
    | '\n' :: rest => return first ++ (← statementsFrom? fuel rest)
    | _ => none

/-- Characters with the ends of lines in one form. -/
def unifyLines : List Char → List Char
  | '\r' :: '\n' :: cs => '\n' :: unifyLines cs
  | c :: cs => c :: unifyLines cs
  | [] => []

/-- The statements of a document. -/
def statements? (document : String) : Option (List Statement) :=
  let cs := unifyLines document.toList
  statementsFrom? (cs.length + 1) cs

/-! ## Names -/

/-- What a name stands for. -/
inductive Role where
  | value
  /-- A table that headings lead through, or one that was opened under a heading: by it, or by keys
  that lead through the table. Headings are numbered. -/
  | table (opened : Option Nat)
  | tables
deriving DecidableEq

/-- The names given so far, the heading that keys lie under and its number. -/
structure Names where
  roles : List (List String × Role) := []
  heading : List String := []
  number : Nat := 0

namespace Names

/-- What a path stands for, if it is given. -/
def role? (names : Names) (path : List String) : Option Role :=
  names.roles.lookup path

/-- Gives a path. -/
def give (names : Names) (path : List String) (role : Role) : Names :=
  { names with roles := (path, role) :: names.roles }

/-- The paths that a path leads through. -/
def onTheWay (path : List String) : List (List String) :=
  ((List.range path.length).drop 1).map path.take

/-- Leads a heading through a table. -/
def pass? (names : Names) (path : List String) : Option Names :=
  match names.role? path with
  | none => some (names.give path (.table none))
  | some .value => none
  | some _ => some names

/-- Leads a key through a table. -/
def enter? (names : Names) (path : List String) : Option Names :=
  match names.role? path with
  | none | some (.table none) => some (names.give path (.table (some names.number)))
  | some (.table (some number)) => if number = names.number then some names else none
  | some _ => none

/-- Forgets what lies in a table, before the next table of its list. -/
def forget (names : Names) (path : List String) : Names :=
  { names with roles := names.roles.filter fun (given, _) => !path.isPrefixOf given }

/-- Moves on to the next heading. -/
def under (names : Names) (path : List String) : Names :=
  { names with heading := path, number := names.number + 1 }

/-- Gives the names of a statement. -/
def take? (names : Names) : Statement → Option Names
  | .assign path _ => do
    let steps := (onTheWay path).map (names.heading ++ ·)
    let names ← steps.foldlM enter? names
    match names.role? (names.heading ++ path) with
    | none => return names.give (names.heading ++ path) .value
    | some _ => none
  | .table path => do
    let names ← (onTheWay path).foldlM pass? (names.under path)
    match names.role? path with
    | none | some (.table none) => return names.give path (.table (some names.number))
    | some _ => none
  | .next path => do
    let names ← (onTheWay path).foldlM pass? (names.under path)
    match names.role? path with
    | none | some .tables => return (names.forget path).give path .tables
    | some _ => none

end Names

/-- The value under a name before all headings. -/
def topValue? (name : String) : List Statement → Option Datum
  | .assign path value :: rest => if path = [name] then some value else topValue? name rest
  | _ => none

/-- The value under a name at the top of a document. -/
def valueUnder? (name : String) (document : String) : Option Datum := do
  let statements ← statements? document
  let _ ← statements.foldlM Names.take? {}
  topValue? name statements

end TableLayout.Toml
