import TableLayout.Text.Blank
import TableLayout.Text.Lower
import TableLayout.Text.Word

/-!
# Words and their lower-case forms

Over all of Unicode, the characters of words and the blank characters have nothing in common, and a
text whose lower-case form consists of ASCII letters and digits is made of word characters.

- `isBlank_of_isWord`: a word character is not blank.
- `isWord_of_lowerChar`: a character is a word character if its lower-case form is made of ASCII
  letters and digits. Few characters beyond ASCII have such a form, such as the Kelvin sign.
- `isWord_of_lowerAfter`: the same for all characters of a text.
-/

namespace TableLayout.Text

/-! ## Blanks -/

theorem blankRuns_below_digits : ∀ blank ∈ blankRuns, 0x80 ≤ blank.1 ∨ blank.2 < 0x30 := by
  decide

theorem blankRuns_apart_wordRuns :
    ∀ blank ∈ blankRuns, ∀ word ∈ wordRuns, blank.2 < word.1 ∨ word.2 < blank.1 := by
  decide +kernel

/-- No word character is a blank. -/
theorem isBlank_of_isWord {c : Char} (h : isWord c = true) : isBlank c = false := by
  refine Bool.eq_false_iff.mpr fun hblank => ?_
  obtain ⟨blank, hmem, hlow, hhigh⟩ := inRuns_iff.mp hblank
  by_cases hascii : c.toNat < 0x80
  · rw [isWord, if_pos hascii, Bool.or_eq_true, beq_iff_eq] at h
    have hdigit : 0x30 ≤ c.toNat := by
      rcases h with halnum | rfl
      · exact (bounds_of_isAlphanum halnum).1
      · decide
    have hbelow := blankRuns_below_digits blank hmem
    omega
  · rw [isWord, if_neg hascii] at h
    obtain ⟨word, hword, hlow', hhigh'⟩ := inRuns_iff.mp h
    have hapart := blankRuns_apart_wordRuns blank hmem word hword
    omega

/-! ## Lower-case forms -/

/-- Only ASCII letters and digits have one of these as their lower case. -/
theorem isAlphanum_of_toLower {c : Char} (h : c.toLower.isAlphanum = true) :
    c.isAlphanum = true := by
  by_cases hupper : c.val ≥ 'A'.val ∧ c.val ≤ 'Z'.val
  · have hletter : c.isUpper = true := decide_eq_true hupper
    exact Bool.or_eq_true_iff.mpr (.inl (Bool.or_eq_true_iff.mpr (.inl hletter)))
  · have hsame : c.toLower = c := dif_neg hupper
    rwa [hsame] at h

theorem lt_of_isAlphanum_ofNat {n : Nat} (h : (Char.ofNat n).isAlphanum = true) : n < 0x80 := by
  have hbounds := bounds_of_isAlphanum h
  by_cases hvalid : n.isValidChar
  · have hcode : (Char.ofNat n).toNat = n := by
      rw [Char.ofNat, dif_pos hvalid]
      rfl
    omega
  · -- What is no code point stands for the null character, which is neither letter nor digit.
    have hcode : (Char.ofNat n).toNat = 0 := by
      rw [Char.ofNat, dif_neg hvalid]
      rfl
    omega

/-- What the table of lower-case forms says of runs: their forms are beyond ASCII, or they are
single word characters. -/
theorem lowerTable_runs : ∀ run ∈ lowerTable.runs,
    0x80 ≤ run.target ∨ run.first = run.last ∧ isWord (Char.ofNat run.first) = true := by
  decide +kernel

theorem lowerTable_expansions : ∀ entry ∈ lowerTable.expansions,
    ∃ n ∈ entry.2, (Char.ofNat n).isAlphanum = false := by
  decide

/-- What a run turns into an ASCII letter or digit is a word character. -/
theorem isWord_of_run {run : CaseRun} (hrun : run ∈ lowerTable.runs) {c : Char} {n : Nat}
    (hform : run.form? c.toNat = some n) (halnum : (Char.ofNat n).isAlphanum = true) :
    isWord c = true := by
  have hlt : n < 0x80 := lt_of_isAlphanum_ofNat halnum
  unfold CaseRun.form? at hform
  split at hform
  · next hin =>
    simp only [Bool.and_eq_true, decide_eq_true_eq] at hin
    obtain rfl := Option.some.inj hform
    rcases lowerTable_runs run hrun with htarget | ⟨hsingle, hword⟩
    · omega
    · have hcode : c.toNat = run.first := by omega
      rw [← hcode, Char.ofNat_toNat] at hword
      exact hword
  · cases hform

/-- What is turned into several characters is turned into one that is no ASCII letter or digit. -/
theorem exists_not_isAlphanum_of_lookup {c : Char} {form : List Nat}
    (h : lowerTable.expansions.lookup c.toNat = some form) :
    ∃ d ∈ form.map Char.ofNat, d.isAlphanum = false := by
  obtain ⟨front, back, hsplit, -⟩ := List.lookup_eq_some_iff.mp h
  have hentry : (c.toNat, form) ∈ lowerTable.expansions := by
    rw [hsplit]
    exact List.mem_append_cons_self
  obtain ⟨n, hn, hnot⟩ := lowerTable_expansions _ hentry
  exact ⟨Char.ofNat n, List.mem_map_of_mem hn, hnot⟩

/-- A character whose lower case is ASCII letters and digits is a word character. Some such
characters are not ASCII themselves. -/
theorem isWord_of_lowerChar {c : Char} (h : ∀ d ∈ lowerChar c, d.isAlphanum = true) :
    isWord c = true := by
  by_cases hascii : c.toNat < 0x80
  · rw [lowerChar_ascii hascii] at h
    exact isWord_of_isAlphanum (isAlphanum_of_toLower (h c.toLower List.mem_cons_self))
  rw [lowerChar, if_neg hascii, CaseTable.form] at h
  split at h
  · next form hform =>
    obtain ⟨d, hd, hnot⟩ := exists_not_isAlphanum_of_lookup hform
    cases hnot.symm.trans (h d hd)
  · split at h
    · next n hn =>
      obtain ⟨run, hrun, hform⟩ := List.exists_of_findSome?_eq_some hn
      exact isWord_of_run hrun hform (h _ List.mem_cons_self)
    · exact absurd (bounds_of_isAlphanum (h c List.mem_cons_self)).2 hascii

/-- A text is made of word characters if its lower-case form is made of ASCII letters and digits. -/
theorem isWord_of_lowerAfter {letter : Bool} {cs : List Char}
    (h : ∀ d ∈ lowerAfter letter cs, d.isAlphanum = true) : ∀ c ∈ cs, isWord c = true := by
  induction cs generalizing letter with
  | nil => exact fun c hc => absurd hc List.not_mem_nil
  | cons first cs ih =>
    rw [lowerAfter] at h
    have hrest : ∀ c ∈ cs, isWord c = true := ih fun d hd => h d (List.mem_append_right _ hd)
    have hform := fun d hd => h d (List.mem_append_left _ hd)
    refine List.forall_mem_cons.mpr ⟨?_, hrest⟩
    split at hform
    · exact absurd (hform finalSigma List.mem_cons_self) (by decide)
    · exact isWord_of_lowerChar hform

end TableLayout.Text
