import TableLayout.Rejection

/-!
# The words of a rejection

Whoever reads the message of a rejection has to find the table and the mode in it.

- `Mentions`: a text stands, as it is, in a message.
- `Rejection.mentions_table`: every rejection mentions its table.
- `Rejection.mentions_mode`: a rejection under a known mode mentions the mode as well.
-/

namespace TableLayout

/-- A text stands, as it is, in a message. -/
def Mentions (message text : String) : Prop :=
  ∃ before after, message = before ++ text ++ after

theorem Mentions.of_append {message text before after : String}
    (h : message = before ++ (text ++ after)) : Mentions message text :=
  ⟨before, after, h.trans String.append_assoc.symm⟩

namespace Rejection

/-- Under a known mode the words begin with the table and then the mode. -/
theorem message_eq_append {rejection : Rejection} {mode : String}
    (hmode : rejection.mode? = some mode) (hknown : ∀ given, rejection.cause ≠ .unknownMode given) :
    ∃ lead middle rest,
      rejection.message = lead ++ (rejection.table ++ (middle ++ (mode ++ rest))) := by
  obtain ⟨table, cause⟩ := rejection
  cases cause with
  | unknownMode given => exact absurd rfl (hknown given)
  | columnShape => cases hmode
  | _ =>
    cases hmode
    simp only [message, String.append_assoc]
    exact ⟨_, _, _, rfl⟩

theorem mentions_mode {rejection : Rejection} {mode : String}
    (hmode : rejection.mode? = some mode) (hknown : ∀ given, rejection.cause ≠ .unknownMode given) :
    Mentions rejection.message mode := by
  obtain ⟨lead, middle, rest, h⟩ := message_eq_append hmode hknown
  have hsplit : rejection.message = (lead ++ (rejection.table ++ middle)) ++ (mode ++ rest) := by
    simp only [h, String.append_assoc]
  exact .of_append hsplit

theorem mentions_table (rejection : Rejection) : Mentions rejection.message rejection.table := by
  have hlead : ∃ lead rest, rejection.message = lead ++ (rejection.table ++ rest) := by
    obtain ⟨table, cause⟩ := rejection
    cases cause with
    | columnShape column type =>
      -- Here the column comes before the table.
      refine ⟨"Field '" ++ (column ++ "' of table '"), ?_⟩
      simp only [message, String.append_assoc]
      exact ⟨_, rfl⟩
    | _ =>
      simp only [message, String.append_assoc]
      exact ⟨_, _, rfl⟩
  obtain ⟨lead, rest, h⟩ := hlead
  exact .of_append h

end Rejection

end TableLayout
