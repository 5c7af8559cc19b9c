import Mathlib.Data.List.TakeWhile
import TableLayout.Text.Blank

/-!
# Trimming

What trimming takes away from a text, and from which texts it takes nothing.

- `Text.exists_blanks_around`, `Text.trim_blanks_around`: what trimming takes away is blank, and
  blanks are what it takes away. `Text.stripEnd_append_blanks`: so are those at the end alone.
- `Text.EndsSolid`: a text ends in a character that is not blank. `Text.EndsSolid.stripEnd_eq`:
  trimming leaves it as it is.
- `Text.EndsSolid.append_left`, `Text.EndsSolid.intercalate`: so does what ends in such a text, and
  such texts with something between them.
-/

namespace TableLayout.Text

/-! ## Blanks around a text -/

theorem exists_blanks_after (cs : List Char) :
    ∃ after, cs = trimEnd cs ++ after ∧ ∀ c ∈ after, isBlank c = true := by
  refine ⟨(cs.reverse.takeWhile isBlank).reverse, ?_, fun c hc => ?_⟩
  · rw [trimEnd, ← List.reverse_append, List.takeWhile_append_dropWhile, List.reverse_reverse]
  · exact List.mem_takeWhile_imp (List.mem_reverse.mp hc)

/-- What trimming takes away is blank. -/
theorem exists_blanks_around (cs : List Char) :
    ∃ before after, cs = before ++ (trim cs ++ after) ∧ (∀ c ∈ before, isBlank c = true) ∧
      ∀ c ∈ after, isBlank c = true := by
  obtain ⟨after, hafter, hblanks⟩ := exists_blanks_after (cs.dropWhile isBlank)
  refine ⟨cs.takeWhile isBlank, after, ?_, fun c => List.mem_takeWhile_imp, hblanks⟩
  rw [trim, ← hafter, List.takeWhile_append_dropWhile]

theorem trimEnd_append_blanks (cs : List Char) {after : List Char}
    (hafter : ∀ c ∈ after, isBlank c = true) : trimEnd (cs ++ after) = trimEnd cs := by
  rw [trimEnd, trimEnd, List.reverse_append,
    List.dropWhile_append_of_pos fun c hc => hafter c (List.mem_reverse.mp hc)]

/-- Blanks around characters without blanks are what trimming takes away. -/
theorem trim_blanks_around {before middle after : List Char}
    (hbefore : ∀ c ∈ before, isBlank c = true) (hne : middle ≠ [])
    (hmiddle : ∀ c ∈ middle, isBlank c = false) (hafter : ∀ c ∈ after, isBlank c = true) :
    trim (before ++ (middle ++ after)) = middle := by
  obtain ⟨first, rest, rfl⟩ := List.exists_cons_of_ne_nil hne
  have hfirst : ¬isBlank first = true := by
    rw [hmiddle first List.mem_cons_self]
    exact Bool.false_ne_true
  -- The blanks in front go first, those behind them next; what is left begins and ends without
  -- blanks.
  calc trim (before ++ (first :: rest ++ after))
    _ = trimEnd (first :: rest ++ after) := by
      rw [trim, List.dropWhile_append_of_pos hbefore, List.cons_append,
        List.dropWhile_cons_of_neg hfirst]
    _ = trimEnd (first :: rest) := trimEnd_append_blanks _ hafter
    _ = trim (first :: rest) := by rw [trim, List.dropWhile_cons_of_neg hfirst]
    _ = first :: rest := trim_eq_self (fun c hc => hmiddle c (List.mem_of_mem_head? hc))
      fun c hc => hmiddle c (List.mem_of_mem_getLast? hc)

theorem stripEnd_append_blanks (s : String) {after : String}
    (hafter : ∀ c ∈ after.toList, isBlank c = true) : stripEnd (s ++ after) = stripEnd s := by
  rw [stripEnd, stripEnd, String.toList_append, trimEnd_append_blanks _ hafter]

/-! ## Texts that end solid -/

/-- A text ends in a character that is not blank. -/
def EndsSolid (s : String) : Prop :=
  ∃ c ∈ s.toList.getLast?, isBlank c = false

instance (s : String) : Decidable (EndsSolid s) :=
  decidable_of_iff (s.toList.getLast?.any (!isBlank ·) = true)
    (by simp [EndsSolid, Option.any_eq_true])

/-- A text ends solid exactly if it has a last character, and this is no blank. -/
theorem endsSolid_iff {s : String} :
    EndsSolid s ↔ ∃ front c, s.toList = front ++ [c] ∧ isBlank c = false := by
  unfold EndsSolid
  simp only [Option.mem_def, List.getLast?_eq_some_iff]
  constructor
  · rintro ⟨c, ⟨front, hfront⟩, hc⟩
    exact ⟨front, c, hfront, hc⟩
  · rintro ⟨front, c, hfront, hc⟩
    exact ⟨c, ⟨front, hfront⟩, hc⟩

theorem endsSolid_of_forall {s : String} (hne : s.toList ≠ [])
    (h : ∀ c ∈ s.toList, isBlank c = false) : EndsSolid s :=
  ⟨_, List.getLast?_eq_some_getLast hne, h _ (List.getLast_mem hne)⟩

theorem endsSolid_ofList_concat (cs : List Char) {c : Char} (h : isBlank c = false) :
    EndsSolid (String.ofList (cs ++ [c])) :=
  endsSolid_iff.mpr ⟨cs, c, String.toList_ofList, h⟩

namespace EndsSolid

variable {s : String}

/-- Trimming takes nothing from a text that ends solid. -/
theorem stripEnd_eq (h : EndsSolid s) : stripEnd s = s := by
  obtain ⟨front, c, hsplit, hc⟩ := endsSolid_iff.mp h
  rw [stripEnd, hsplit, trimEnd_append_of_not_blank front hc, ← hsplit, String.ofList_toList]

/-- What ends in such a text ends like it. -/
theorem append_left (h : EndsSolid s) (before : String) : EndsSolid (before ++ s) := by
  obtain ⟨front, c, hsplit, hc⟩ := endsSolid_iff.mp h
  refine endsSolid_iff.mpr ⟨before.toList ++ front, c, ?_, hc⟩
  rw [String.toList_append, hsplit, List.append_assoc]

/-- Texts with separators between them end as the last of them does. -/
theorem intercalate {parts : List String} (separator : String) (hne : parts ≠ [])
    (h : ∀ part ∈ parts, EndsSolid part) : EndsSolid (String.intercalate separator parts) := by
  induction parts with
  | nil => exact absurd rfl hne
  | cons part parts ih =>
    obtain ⟨hpart, hrest⟩ := List.forall_mem_cons.mp h
    cases parts with
    | nil => simpa using hpart
    | cons next parts =>
      rw [String.intercalate_cons_cons]
      exact (ih (List.cons_ne_nil _ _) hrest).append_left _

end EndsSolid

end TableLayout.Text
