import TableLayout.Header
import TableLayout.Proofs.Utf8

/-!
# The text of a header

- `Header.Renders`: the text that a header's value stands for, said without the reader of UTF-8.
- `Header.text_eq_ok_iff`, `Header.exists_text_eq_error_iff`: a header's text is found exactly if
  its value stands for one, and then it is that one.
- `Header.shownValue_spec`: printing a header never fails; bytes that are no text are quoted.
- `Header.Recarried`: a header whose text comes as the bytes that encode it. Neither its text nor
  what is printed of it tells the difference.
-/

namespace TableLayout.Header

/-- The value of a header stands for a text: bytes in either carrier for the text that they encode,
any other value for the text that it prints as. -/
def Renders (header : Header) (name : String) : Prop :=
  match header.value with
  | .bytes bs | .buffer bs => bs = Text.Utf8.encode name
  | value => value.shown = name

theorem text_eq_ok_iff {header : Header} {name : String} :
    header.text = .ok name ↔ header.Renders name := by
  obtain ⟨key, value⟩ := header
  cases value with
  | bytes bs => exact Text.Utf8.decode_eq_ok_iff
  | buffer bs => exact Text.Utf8.decode_eq_ok_iff
  | _ => exact ⟨fun h => Except.ok.inj h, fun h => congrArg Except.ok h⟩

theorem Renders.unique {header : Header} {a b : String} (ha : header.Renders a)
    (hb : header.Renders b) : a = b :=
  Except.ok.inj ((text_eq_ok_iff.mpr ha).symm.trans (text_eq_ok_iff.mpr hb))

/-- A header has a fault exactly if its value stands for no text. -/
theorem exists_text_eq_error_iff {header : Header} :
    (∃ fault, header.text = .error fault) ↔ ∀ name, ¬header.Renders name := by
  cases h : header.text with
  | ok name => simpa using ⟨name, text_eq_ok_iff.mp h⟩
  | error fault =>
    refine ⟨fun _ name hname => ?_, fun _ => ⟨fault, rfl⟩⟩
    rw [text_eq_ok_iff.mpr hname] at h
    cases h

/-- A header is printed by its text, and quoted if its value stands for none. -/
theorem shownValue_spec (header : Header) :
    header.Renders header.shownValue ∨
      (∀ name, ¬header.Renders name) ∧ header.shownValue = header.value.quoted := by
  unfold shownValue
  cases h : header.text with
  | ok name => exact .inl (text_eq_ok_iff.mp h)
  | error fault => exact .inr ⟨exists_text_eq_error_iff.mp ⟨fault, h⟩, rfl⟩

/-! ## Carriers of a text -/

/-- The same header, or one whose text comes as the bytes that encode it, in either carrier. -/
inductive Recarried : Header → Header → Prop where
  | same (header : Header) : Recarried header header
  | bytes (key text : String) :
      Recarried ⟨key, .text text⟩ ⟨key, .bytes (Text.Utf8.encode text)⟩
  | buffer (key text : String) :
      Recarried ⟨key, .text text⟩ ⟨key, .buffer (Text.Utf8.encode text)⟩

namespace Recarried

variable {header header' : Header}

theorem key_eq (h : Recarried header header') : header.key = header'.key := by
  cases h <;> rfl

theorem text_eq (h : Recarried header header') : header.text = header'.text := by
  cases h with
  | same => rfl
  | bytes key text | buffer key text => exact (Text.Utf8.decode_eq_ok_iff.mpr rfl).symm

/-- Neither a text nor bytes hold a number that could be too long. -/
theorem exceeds?_eq (h : Recarried header header') (limit : Option Nat) :
    header.value.exceeds? limit = header'.value.exceeds? limit := by
  cases h <;> rfl

/-- A text is printed as it is, and so are the bytes that encode it, for they are a text. -/
theorem shownValue_eq (h : Recarried header header') : header.shownValue = header'.shownValue := by
  cases h with
  | same => rfl
  | bytes key text | buffer key text =>
    have hread : Text.Utf8.decode (Text.Utf8.encode text) = .ok text :=
      Text.Utf8.decode_eq_ok_iff.mpr rfl
    simp only [shownValue, Header.text, Datum.shown, hread]

theorem shownAll_eq {headers headers' : List Header}
    (h : List.Forall₂ Recarried headers headers') : shownAll headers = shownAll headers' := by
  have hshown : headers.map (fun header => header.key ++ "=" ++ header.shownValue) =
      headers'.map (fun header => header.key ++ "=" ++ header.shownValue) :=
    map_eq_of_forall₂ h fun header header' h => by rw [h.key_eq, h.shownValue_eq]
  rw [shownAll, shownAll, hshown]

end Recarried

end TableLayout.Header
