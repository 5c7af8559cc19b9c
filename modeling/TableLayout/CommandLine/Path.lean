import TableLayout.Text.Quoted

/-!
# Paths (specification §7.4)

- `Path`: the name of a file by its steps, from the root or from the place where the program runs.
- `Path.ofText`: the path that a text names, without steps that lead nowhere.
- `Path.text`: the text of a path.
- `Path.fromHome?`: a path whose first step may name the home of a user by a tilde.
-/

namespace TableLayout

/-- The name of a file. -/
structure Path where
  /-- The slashes before the first step: none for a path from the place where the program runs. Two
  are kept apart from one. -/
  slashes : Nat
  steps : List String
deriving DecidableEq, Repr

namespace Path

/-- The number of slashes that count at the beginning of a path. -/
def slashesOf (cs : List Char) : Nat :=
  let given := (cs.takeWhile (· == '/')).length
  if given ≤ 2 then given else 1

/-- The steps between slashes, without those that lead nowhere. -/
def stepsOf (cs : List Char) : List String :=
  ((cs.splitOn '/').filter fun step => step != [] && step != ['.']).map String.ofList

/-- The path that a text names. -/
def ofText (name : String) : Path :=
  ⟨slashesOf name.toList, stepsOf name.toList⟩

/-- The text of a path. -/
def text (path : Path) : String :=
  if path.slashes = 0 ∧ path.steps = [] then "."
  else String.ofList (List.replicate path.slashes '/') ++ String.intercalate "/" path.steps

/-- The user whose home a step names. -/
def userOf? (step : String) : Option String :=
  match step.toList with
  | '~' :: user => some (String.ofList user)
  | _ => none

/-- A path whose first step is no user's name, or else leads into the home of that user, if it is
known. An empty name is that of the user at work. -/
def fromHome? (home : String → Option String) (path : Path) : Option Path :=
  match path with
  | ⟨0, step :: steps⟩ => match userOf? step with
    | none => some path
    | some user => (home user).map fun name =>
      { ofText name with steps := (ofText name).steps ++ steps }
  | path => some path

end Path

end TableLayout
