import TableLayout.CommandLine.Path
import TableLayout.Datum.Basic

/-!
# File trees (specification §7.4)

- `Entry`: what a path leads to.
- `FileTree`: a number of folders and of files with what they hold.
- `FileTree.entry`: what a path leads to in a tree. The steps are taken one by one, so a path that
  fails to lead on somewhere is missing whatever comes after.
-/

namespace TableLayout

/-- What a path leads to. -/
inductive Entry where
  | missing
  | folder
  | file (contents : Datum)
  /-- The path or one of its steps is longer than a name may be. -/
  | tooLong

/-- Folders and files, by the steps that lead to them from the root. -/
structure FileTree where
  folders : List (List String)
  files : List (List String × Datum)
  /-- The folder where the program runs. -/
  workplace : List String

namespace FileTree

/-- The bytes that a step may have. -/
def stepLimit : Nat := 255

/-- The bytes that a path may have. -/
def pathLimit : Nat := 4095

/-- What steps lead to from a folder. -/
def walk (tree : FileTree) (folder : List String) : List String → Entry
  | [] => .folder
  | step :: steps =>
    let place := folder ++ [step]
    if step = ".." then walk tree folder.dropLast steps
    else if stepLimit < step.utf8ByteSize then .tooLong
    else if place ∈ tree.folders then walk tree place steps
    else match tree.files.lookup place with
      | some contents => if steps.isEmpty then .file contents else .missing
      | none => .missing

/-- What a path leads to. -/
def entry (tree : FileTree) (path : Path) : Entry :=
  if pathLimit < path.text.utf8ByteSize then .tooLong
  else walk tree (if path.slashes = 0 then tree.workplace else []) path.steps

end FileTree

end TableLayout
