/-!
# Runs of code points

Character classes are kept as lists of closed runs of code points.

- `inRuns`: membership in a list of runs.
-/

namespace TableLayout.Text

/-- Membership of a code point in a list of closed runs. -/
def inRuns (runs : List (Nat × Nat)) (n : Nat) : Bool :=
  runs.any fun run => run.1 ≤ n && n ≤ run.2

theorem inRuns_iff {runs : List (Nat × Nat)} {n : Nat} :
    inRuns runs n = true ↔ ∃ run ∈ runs, run.1 ≤ n ∧ n ≤ run.2 := by
  simp [inRuns]

end TableLayout.Text
