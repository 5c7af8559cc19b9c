import TableLayout.Text.Ranges

/-!
# Blanks

Blank characters, and texts without the blanks around them.

- `isBlank`: the separators of Unicode that leave a blank, and the control characters that end a
  line or separate records.
- `trim`, `trimEnd`: a list of characters without the blanks around it, and without those at its
  end.
- `strip`, `stripEnd`: the same for texts.
- `trim_eq_self`: a list with no blank at either end is left alone.
- `strip_strip`: a second time there is nothing to take away.
-/

namespace TableLayout.Text

/-- Runs of blank characters. -/
def blankRuns : List (Nat × Nat) := [
  (0x9, 0xD), (0x1C, 0x20), (0x85, 0x85), (0xA0, 0xA0), (0x1680, 0x1680), (0x2000, 0x200A),
  (0x2028, 0x2029), (0x202F, 0x202F), (0x205F, 0x205F), (0x3000, 0x3000)]

/-- A character that leaves a blank or ends a line. -/
def isBlank (c : Char) : Bool :=
  inRuns blankRuns c.toNat

/-- The characters up to the last that is not blank. -/
def trimEnd (cs : List Char) : List Char :=
  (cs.reverse.dropWhile isBlank).reverse

/-- The characters from the first to the last that is not blank. -/
def trim (cs : List Char) : List Char :=
  trimEnd (cs.dropWhile isBlank)

/-- A text without the blanks around it. -/
def strip (s : String) : String :=
  String.ofList (trim s.toList)

/-- A text without the blanks at its end. -/
def stripEnd (s : String) : String :=
  String.ofList (trimEnd s.toList)

@[simp] theorem toList_strip (s : String) : (strip s).toList = trim s.toList := by
  simp [strip]

/-! ## Trimming -/

@[simp] theorem trimEnd_nil : trimEnd [] = [] := rfl

theorem trimEnd_append_of_not_blank (cs : List Char) {c : Char} (h : isBlank c = false) :
    trimEnd (cs ++ [c]) = cs ++ [c] := by
  simp [trimEnd, h]

theorem trim_eq_self {cs : List Char} (hfirst : ∀ c ∈ cs.head?, isBlank c = false)
    (hlast : ∀ c ∈ cs.getLast?, isBlank c = false) : trim cs = cs := by
  have hdrop : cs.dropWhile isBlank = cs := by
    cases cs with
    | nil => rfl
    | cons c rest => simp [hfirst c (by simp)]
  rw [trim, hdrop]
  cases hcs : cs.getLast? with
  | none => rw [List.getLast?_eq_none_iff] at hcs; simp [hcs]
  | some c =>
    obtain ⟨front, rfl⟩ := List.getLast?_eq_some_iff.mp hcs
    exact trimEnd_append_of_not_blank front (hlast c (by simp))

theorem not_blank_of_head?_dropWhile {cs : List Char} :
    ∀ c ∈ (cs.dropWhile isBlank).head?, isBlank c = false := by
  intro c hc
  have hfirst := List.head?_dropWhile_not isBlank cs
  rw [Option.mem_def.mp hc] at hfirst
  exact hfirst

theorem trimEnd_prefix (cs : List Char) : trimEnd cs <+: cs := by
  have hsuffix : cs.reverse.dropWhile isBlank <:+ cs.reverse := List.dropWhile_suffix isBlank
  rw [trimEnd, ← List.reverse_suffix, List.reverse_reverse]
  exact hsuffix

theorem trim_trim (cs : List Char) : trim (trim cs) = trim cs := by
  refine trim_eq_self (fun c hc => ?_) fun c hc => ?_
  · -- Trimming the end takes nothing away from the front.
    obtain ⟨rest, hsplit⟩ := trimEnd_prefix (cs.dropWhile isBlank)
    have hhead : (cs.dropWhile isBlank).head? = some c := by
      rw [← hsplit, List.head?_append, ← trim, Option.mem_def.mp hc]
      rfl
    exact not_blank_of_head?_dropWhile c hhead
  · rw [trim, trimEnd, List.getLast?_reverse] at hc
    exact not_blank_of_head?_dropWhile c hc

theorem strip_strip (s : String) : strip (strip s) = strip s := by
  rw [strip, toList_strip, trim_trim, strip]

end TableLayout.Text
