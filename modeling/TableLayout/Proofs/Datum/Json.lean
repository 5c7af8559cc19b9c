import TableLayout.Datum.Json
import TableLayout.Proofs.Datum.Numeral
import TableLayout.Proofs.Schema.Misuse
import TableLayout.Text.Plain

/-!
# Values that have a form in JSON

A value has a form in JSON if the keys of all its maps are texts. Whatever is in its texts, the form
holds no escape characters, so that it is printed as it is.

- `Text.EscapeFree`: a text without escape characters, which a terminal takes as it is.
- `Datum.exists_jsonText`: a value whose keys are texts has a form in JSON, without escape
  characters.
-/

namespace TableLayout

namespace Text

/-- A text without escape characters. -/
def EscapeFree (s : String) : Prop :=
  sequenceStart ∉ s.toList

instance (s : String) : Decidable (EscapeFree s) :=
  inferInstanceAs (Decidable (sequenceStart ∉ s.toList))

/-- Nothing is taken out of a text that holds no escape character. -/
theorem EscapeFree.plain_eq {s : String} (h : EscapeFree s) : plain s = s := by
  rw [plain, plainAfter_of_no_escape h, String.ofList_toList]

theorem escapeFree_ofList_iff {cs : List Char} :
    EscapeFree (String.ofList cs) ↔ sequenceStart ∉ cs := by
  rw [EscapeFree, String.toList_ofList]

/-- Texts one after the other are without escape characters if each of them is. -/
theorem escapeFree_append_iff {s t : String} :
    EscapeFree (s ++ t) ↔ EscapeFree s ∧ EscapeFree t := by
  rw [EscapeFree, String.toList_append, List.mem_append, not_or]
  rfl

/-- So are texts with such a separator between them. -/
theorem EscapeFree.intercalate {separator : String} (hseparator : EscapeFree separator)
    {parts : List String} (hparts : ∀ part ∈ parts, EscapeFree part) :
    EscapeFree (String.intercalate separator parts) := by
  induction parts with
  | nil => exact List.not_mem_nil
  | cons part parts ih =>
    obtain ⟨hpart, hrest⟩ := List.forall_mem_cons.mp hparts
    cases parts with
    | nil => simpa using hpart
    | cons next parts =>
      rw [String.intercalate_cons_cons]
      exact escapeFree_append_iff.mpr ⟨escapeFree_append_iff.mpr ⟨hpart, hseparator⟩, ih hrest⟩

theorem escapeFree_iff_forall {s : String} :
    EscapeFree s ↔ ∀ c ∈ s.toList, c ≠ sequenceStart :=
  ⟨fun h _ hc heq => h (heq ▸ hc), fun h hmem => h _ hmem rfl⟩

/-- Numbers are written without escape characters. -/
theorem holdsOfNumerals_ne_sequenceStart : HoldsOfNumerals (· ≠ sequenceStart) :=
  ⟨by decide, by decide, by decide, by decide, by decide⟩

end Text

open Text (sequenceStart EscapeFree escapeFree_append_iff escapeFree_ofList_iff
  escapeFree_iff_forall holdsOfNumerals_ne_sequenceStart)

/-! ## Numbers -/

/-- A floating-point number is written with the characters of numbers, or with a word. -/
theorem Decimal.escapeFree_jsonText (x : Decimal) : EscapeFree x.jsonText := by
  have hsign : ∀ negative, EscapeFree (sign negative) := fun negative =>
    escapeFree_iff_forall.mpr (holdsOfNumerals_ne_sequenceStart.sign negative)
  cases x with
  | finite negative digits exponent =>
    refine escapeFree_append_iff.mpr ⟨hsign negative, escapeFree_ofList_iff.mpr fun hmem => ?_⟩
    exact holdsOfNumerals_ne_sequenceStart.layoutDigits digits exponent _ hmem rfl
  | infinite negative => exact escapeFree_append_iff.mpr ⟨hsign negative, by decide⟩
  | notANumber _ => exact (by decide : EscapeFree "NaN")

namespace Datum

theorem escapeFree_toString (n : Int) : EscapeFree (toString n) :=
  escapeFree_iff_forall.mpr (holdsOfNumerals_ne_sequenceStart.toString n)

/-! ## Texts -/

/-- What stands for an escaped character is ASCII. -/
theorem not_mem_jsonEscape (unit : Nat) : sequenceStart ∉ jsonEscape unit := by
  have hdigits : sequenceStart ∉ Text.hexDigits 4 unit := fun hmem =>
    holdsOfNumerals_ne_sequenceStart.hexDigits 4 unit _ hmem rfl
  have hslash : sequenceStart ≠ '\\' := by decide
  have hletter : sequenceStart ≠ 'u' := by decide
  simp [jsonEscape, hdigits, hslash, hletter]

/-- A character is written as it is only if it is none that has to be escaped, and the escape
character is one of these. -/
theorem not_mem_jsonChar (c : Char) : sequenceStart ∉ jsonChar c := by
  by_cases hc : c = sequenceStart
  · rw [hc]
    decide
  · have hslash : sequenceStart ≠ '\\' := by decide
    unfold jsonChar
    split_ifs
    · simp [hslash, Ne.symm hc]
    · decide
    · decide
    · decide
    · decide
    · decide
    · simp [Ne.symm hc]
    · exact not_mem_jsonEscape _
    · rw [List.mem_append, not_or]
      exact ⟨not_mem_jsonEscape _, not_mem_jsonEscape _⟩

/-- A quoted text holds no escape character, whatever the text holds. -/
theorem escapeFree_jsonQuoted (s : String) : EscapeFree (jsonQuoted s) := by
  have hmark : sequenceStart ≠ Text.doubleQuote := by decide
  refine escapeFree_ofList_iff.mpr ?_
  simp [hmark, not_mem_jsonChar]

/-- Brackets, commas and the blanks at the beginning of lines are no escape characters. -/
theorem escapeFree_jsonBlock {opening closing : String} (hopening : EscapeFree opening)
    (hclosing : EscapeFree closing) (level : Nat) {parts : List String}
    (hparts : ∀ part ∈ parts, EscapeFree part) :
    EscapeFree (jsonBlock opening closing level parts) := by
  have hline : ∀ level, EscapeFree ("\n" ++ String.ofList (List.replicate (2 * level) ' ')) := by
    refine fun level =>
      escapeFree_append_iff.mpr ⟨by decide, escapeFree_ofList_iff.mpr fun hmem => ?_⟩
    exact absurd (List.eq_of_mem_replicate hmem) (by decide)
  unfold jsonBlock
  simp only
  split
  · exact escapeFree_append_iff.mpr ⟨hopening, hclosing⟩
  · have hseparator := escapeFree_append_iff.mpr ⟨(by decide : EscapeFree ","), hline (level + 1)⟩
    have hparts := hseparator.intercalate hparts
    simp [escapeFree_append_iff, hopening, hclosing, hline, hparts]

/-! ## Values -/

mutual

/-- A value that is keyed by texts has a form in JSON at every level, and so have the items of a
list and the entries of a map. The induction is on the value; the level rises with the depth. -/
theorem exists_jsonAt (level : Nat) : (d : Datum) → d.TextKeyed →
    ∃ text, d.jsonAt level = .ok text ∧ EscapeFree text
  -- Values without a form in JSON are quoted as texts, so they need no more than texts do.
  | .null, _ => ⟨_, rfl, by decide⟩
  | .bool b, _ => ⟨_, rfl, by cases b <;> decide⟩
  | .int n, _ => ⟨_, rfl, escapeFree_toString n⟩
  | .float x, _ => ⟨_, rfl, x.escapeFree_jsonText⟩
  | .text s, _ => ⟨_, rfl, escapeFree_jsonQuoted s⟩
  | .bytes _, _ => ⟨_, rfl, escapeFree_jsonQuoted _⟩
  | .buffer _, _ => ⟨_, rfl, escapeFree_jsonQuoted _⟩
  | .moment _ _, _ => ⟨_, rfl, escapeFree_jsonQuoted _⟩
  | .set _, _ => ⟨_, rfl, escapeFree_jsonQuoted _⟩
  | .list ds, h => by
    obtain ⟨parts, hparts, hfree⟩ := exists_jsonItems (level + 1) ds h
    exact ⟨_, by rw [jsonAt, hparts]; rfl, escapeFree_jsonBlock (by decide) (by decide) _ hfree⟩
  | .tuple ds, h => by
    obtain ⟨parts, hparts, hfree⟩ := exists_jsonItems (level + 1) ds h
    exact ⟨_, by rw [jsonAt, hparts]; rfl, escapeFree_jsonBlock (by decide) (by decide) _ hfree⟩
  | .map es, h => by
    obtain ⟨parts, hparts, hfree⟩ := exists_jsonEntries (level + 1) es h
    exact ⟨_, by rw [jsonAt, hparts]; rfl, escapeFree_jsonBlock (by decide) (by decide) _ hfree⟩

theorem exists_jsonItems (level : Nat) : (ds : List Datum) → ItemsTextKeyed ds →
    ∃ parts, jsonItems level ds = .ok parts ∧ ∀ part ∈ parts, EscapeFree part
  | [], _ => ⟨[], rfl, nofun⟩
  | d :: ds, ⟨hfirst, hrest⟩ => by
    obtain ⟨text, htext, hfree⟩ := exists_jsonAt level d hfirst
    obtain ⟨parts, hparts, hall⟩ := exists_jsonItems level ds hrest
    exact ⟨text :: parts, by rw [jsonItems, htext, hparts]; rfl,
      List.forall_mem_cons.mpr ⟨hfree, hall⟩⟩

theorem exists_jsonEntries (level : Nat) : (es : List (Datum × Datum)) → EntriesTextKeyed es →
    ∃ parts, jsonEntries level es = .ok parts ∧ ∀ part ∈ parts, EscapeFree part
  | [], _ => ⟨[], rfl, nofun⟩
  | (k, v) :: es, ⟨⟨hkey, hvalue⟩, hrest⟩ => by
    obtain ⟨text, htext, hfree⟩ := exists_jsonAt level v hvalue
    obtain ⟨parts, hparts, hall⟩ := exists_jsonEntries level es hrest
    -- This is the one place where a key of another kind would be in the way.
    obtain ⟨name, rfl⟩ : ∃ name, k = .text name := by
      cases k with
      | text name => exact ⟨name, rfl⟩
      | _ => cases hkey
    have hentry : EscapeFree (jsonQuoted name ++ ": " ++ text) := by
      simp only [escapeFree_append_iff]
      exact ⟨⟨escapeFree_jsonQuoted name, by decide⟩, hfree⟩
    exact ⟨_, by rw [jsonEntries, htext, hparts]; rfl, List.forall_mem_cons.mpr ⟨hentry, hall⟩⟩

end

/-- A value whose keys are texts has a form in JSON, without escape characters. -/
theorem exists_jsonText {d : Datum} (h : d.TextKeyed) :
    ∃ text, d.jsonText = .ok text ∧ EscapeFree text :=
  exists_jsonAt 0 d h

end Datum

end TableLayout
