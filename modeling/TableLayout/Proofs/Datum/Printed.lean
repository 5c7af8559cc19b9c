import TableLayout.Datum.Printed
import TableLayout.Proofs.Datum.Numeral
import TableLayout.Proofs.Text.Blank

/-!
# How quoted values end

The text of a value inside others ends in a digit, a letter, a quote mark or a bracket, but never in
a blank.

- `Datum.endsSolid_quoted`: whatever the value is, its quoted text ends solid.
-/

namespace TableLayout

open Text (EndsSolid isBlank endsSolid_of_forall endsSolid_ofList_concat)

/-- Numbers are written without blanks. -/
theorem Text.holdsOfNumerals_not_blank : HoldsOfNumerals fun c => isBlank c = false :=
  ⟨by decide, by decide, by decide, by decide, by decide⟩

/-- Either of the two quote marks is no blank. -/
theorem Text.isBlank_quoteMark (cs : List Char) : isBlank (quoteMark cs) = false := by
  unfold quoteMark
  split <;> decide

/-- A quoted text ends in its quote mark, even if the text is blank. -/
theorem Text.endsSolid_quoted (s : String) : EndsSolid (quoted s) :=
  endsSolid_ofList_concat _ (isBlank_quoteMark _)

theorem Text.endsSolid_quotedBytesBy (escape : Char → Char → List Char) (bytes : List UInt8) :
    EndsSolid (quotedBytesBy escape bytes) :=
  endsSolid_ofList_concat ('b' :: _ :: _) (isBlank_quoteMark _)

/-- No number is written without any characters. -/
theorem Decimal.layoutDigits_ne_nil (digits : Nat) (exponent : Int) :
    layoutDigits digits exponent ≠ [] := by
  unfold layoutDigits
  simp only
  split
  · exact List.cons_ne_nil _ _
  · split
    · unfold positional
      split
      · simp
      · split <;> simp
    · simp [scientific]

/-- A floating-point number ends in a digit, or in the last letter of a word. -/
theorem Decimal.endsSolid_text (x : Decimal) : EndsSolid x.text := by
  cases x with
  | finite negative digits exponent =>
    refine EndsSolid.append_left (endsSolid_of_forall ?_ ?_) _
    · rw [String.toList_ofList]
      exact layoutDigits_ne_nil digits exponent
    · rw [String.toList_ofList]
      exact Text.holdsOfNumerals_not_blank.layoutDigits digits exponent
  | infinite negative => exact EndsSolid.append_left (by decide) _
  | notANumber _ => exact (by decide : EndsSolid "nan")

namespace Datum

theorem endsSolid_toString (n : Int) : EndsSolid (toString n) := by
  refine endsSolid_of_forall ?_ (Text.holdsOfNumerals_not_blank.toString n)
  cases n with
  | ofNat n =>
    show (String.ofList (Nat.toDigits 10 n)).toList ≠ []
    rw [String.toList_ofList]
    exact Nat.toDigits_ne_nil
  | negSucc n =>
    show ("-" ++ String.ofList (Nat.toDigits 10 (n + 1))).toList ≠ []
    simp

/-- The quoted text of a value ends in a character that is not blank. -/
theorem endsSolid_quoted (d : Datum) : EndsSolid d.quoted := by
  have hbracket : EndsSolid "]" := by decide
  have hparenthesis : EndsSolid ")" := by decide
  have hbrace : EndsSolid "\x7d" := by decide
  cases d with
  | null => exact (by decide : EndsSolid "None")
  | bool b => cases b <;> decide
  | int n => exact endsSolid_toString n
  | float x => exact x.endsSolid_text
  | text s => exact Text.endsSolid_quoted s
  | bytes bs => exact Text.endsSolid_quotedBytesBy _ bs
  | buffer bs => exact hparenthesis.append_left _
  | moment sort written => exact hparenthesis.append_left _
  | list ds => exact hbracket.append_left _
  -- A tuple with one item has a comma before its bracket.
  | tuple ds =>
    match ds with
    | [] => exact hparenthesis.append_left _
    | [d] => exact EndsSolid.append_left (by decide : EndsSolid ",)") _
    | d :: d' :: ds => exact hparenthesis.append_left _
  | set ds =>
    cases ds with
    | nil => exact (by decide : EndsSolid "set()")
    | cons d ds => exact hbrace.append_left _
  | map es => exact hbrace.append_left _

end Datum

end TableLayout
