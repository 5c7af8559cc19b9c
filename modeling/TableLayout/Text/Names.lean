/-!
# Lists of names

- `sorted`: names in the order of their code points, whichever order they come in
  (`sorted_eq_of_perm`).
- `repeated`: the names that a list holds more than once, sorted.
- `joined`: names with a comma and a blank between them.
- `splitCommas`: the parts of a text between its commas.
-/

namespace TableLayout.Text

/-- Names in the order of their code points. -/
def sorted (names : List String) : List String :=
  names.mergeSort fun a b => decide (a ≤ b)

theorem sorted_perm (names : List String) : (sorted names).Perm names :=
  List.mergeSort_perm names _

theorem pairwise_sorted (names : List String) : (sorted names).Pairwise (· ≤ ·) := by
  have h : (sorted names).Pairwise fun a b => decide (a ≤ b) = true := by
    refine List.pairwise_mergeSort (fun a b c hab hbc => ?_) (fun a b => ?_) names
    · rw [decide_eq_true_eq] at hab hbc ⊢
      exact String.le_trans hab hbc
    · rw [Bool.or_eq_true, decide_eq_true_eq, decide_eq_true_eq]
      exact String.le_total a b
  simpa only [decide_eq_true_eq] using h

/-- Names that are in order are what any list of the same names is sorted to. -/
theorem sorted_eq_of_perm {names ordered : List String} (h : names.Perm ordered)
    (hordered : ordered.Pairwise (· ≤ ·)) : sorted names = ordered :=
  List.Perm.eq_of_pairwise (fun _ _ _ _ => String.le_antisymm) (pairwise_sorted names) hordered
    ((sorted_perm names).trans h)

/-- The names that occur more than once, each listed once, sorted. -/
def repeated (names : List String) : List String :=
  sorted (names.filter fun name => 1 < names.count name).eraseDups

/-- Names with a comma and a blank between them. -/
def joined (names : List String) : String :=
  String.intercalate ", " names

/-- The parts of a text between its commas. -/
def splitCommas (s : String) : List String :=
  (s.toList.splitOn ',').map String.ofList

end TableLayout.Text
