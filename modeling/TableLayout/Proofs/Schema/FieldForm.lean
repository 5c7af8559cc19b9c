import TableLayout.Proofs.Schema.Shorthand
import TableLayout.Proofs.Text.Blank

/-!
# Forms of a field

A field whose schema is no more than a type can be described by a text or by maps of several forms,
and the fields of a struct may be described in any mix of them.

- `Shorthand.namedType_eq_ok`: a field text is read as the same field when it is just divided at its
  first colon.
- `Shorthand.Divides`: how a field text falls into a name, the word for a type and a mark.
- `Schema.FieldForm`, `Schema.FieldForm.readField_eq`: the forms of a field that a text describes,
  and that all of them are read as one field.
- `Schema.TextOutcome`: how a struct turns out whose fields are described by texts.
- `Schema.read_eq_of_fieldForms`: it turns out the same in whichever forms its fields are described.
-/

namespace TableLayout

/-! ## Field texts -/

namespace Shorthand

/-- A field text is read as the same field when it is divided at its first colon and the name and
the type are each taken without the blanks around them. -/
theorem namedType_eq_ok {entry name : String} {type : ValueType} {marked : Bool}
    (h : field entry = .ok (name, type, marked)) : namedType entry = .ok (name, type, marked) := by
  obtain ⟨blanks, spelling, htrim, hname, hcolon, hblanks, htype⟩ :=
    spellsField_iff.mp (field_eq_ok_iff.mp h)
  rw [Text.toList_strip] at htrim
  obtain ⟨before, after, hentry, hbefore, hafter⟩ := Text.exists_blanks_around entry.toList
  obtain ⟨hne, hnot⟩ := isNameText_iff.mp hname
  have htypeText : isTypeText spelling = true := by
    rw [← String.toList_ofList (l := spelling)]
    exact htype.isTypeText
  obtain ⟨hspelling, hsolid⟩ := isBlank_of_isTypeText htypeText
  -- No blank is a colon, so the first colon is that after the name.
  have hspan : entry.toList.span (· != ':') =
      (before ++ name.toList, ':' :: (blanks ++ (spelling ++ after))) := by
    rw [hentry, htrim]
    simp only [List.append_assoc, List.cons_append]
    rw [← List.append_assoc before]
    refine span_colon fun c hc => ?_
    rcases List.mem_append.mp hc with hc | hc
    · rintro rfl
      exact absurd (hbefore _ hc) (by decide)
    · exact hcolon c hc
  have hnone : ∀ c ∈ ([] : List Char), Text.isBlank c = true := List.forall_mem_nil _
  have hstripName : Text.strip (String.ofList (before ++ name.toList)) = name := by
    rw [Text.strip, String.toList_ofList, ← List.append_nil name.toList,
      Text.trim_blanks_around hbefore hne hnot hnone, String.ofList_toList]
  have hstripType : Text.strip (String.ofList (blanks ++ (spelling ++ after))) =
      String.ofList spelling := by
    rw [Text.strip, String.toList_ofList, Text.trim_blanks_around hblanks hspelling hsolid hafter]
  rw [namedType, hspan]
  simp only [List.tail_cons]
  rw [hstripName, hstripType, htype.type_eq_ok]
  rfl

/-- The word for a type, with a mark after it or without. -/
def typeText (word : String) (marked : Bool) : String :=
  if marked then word ++ "?" else word

/-- A field text falls into the name of the field, a colon, blanks if any, and the word for its
type, with a mark if the field is marked. -/
structure Divides (entry name word : String) (type : ValueType) (marked : Bool) : Prop where
  entry : ∃ blanks : String, (∀ c ∈ blanks.toList, Text.isBlank c = true) ∧
    Text.strip entry = name ++ ":" ++ blanks ++ typeText word marked
  named : name ≠ ""
  name : ∀ c ∈ name.toList, c ≠ ':' ∧ Text.isBlank c = false
  word : Text.lower word = type.text

namespace Divides

variable {entry name word : String} {type : ValueType} {marked : Bool}
  (h : Divides entry name word type marked)
include h

/-- The word alone gives the type without a mark, so the mark can be given apart from it. -/
theorem type_eq : Shorthand.type word = .ok (type, false) :=
  (SpellsType.plain h.word).type_eq_ok

/-- With the mark after it, the word spells the type and the mark. -/
theorem spellsType : SpellsType (typeText word marked) type marked := by
  cases marked with
  | true => exact .marked h.word
  | false => exact .plain h.word

theorem typeText_eq : Shorthand.type (typeText word marked) = .ok (type, marked) :=
  h.spellsType.type_eq_ok

/-- A text that falls into these parts is read as the field that they give. -/
theorem field_eq : field entry = .ok (name, type, marked) := by
  obtain ⟨blanks, hblanks, hentry⟩ := h.entry
  rw [field_eq_ok_iff, hentry]
  exact .mk h.named h.name hblanks h.spellsType

end Divides

/-- Every field text falls into such parts. -/
theorem exists_divides {entry name : String} {type : ValueType} {marked : Bool}
    (h : field entry = .ok (name, type, marked)) : ∃ word, Divides entry name word type marked := by
  have hspells := field_eq_ok_iff.mp h
  generalize htext : Text.strip entry = text at hspells
  cases hspells with
  | mk hne hname hblanks htype =>
    cases htype with
    | plain hword => exact ⟨_, ⟨_, hblanks, htext⟩, hne, hname, hword⟩
    | marked hword => exact ⟨_, ⟨_, hblanks, htext⟩, hne, hname, hword⟩

end Shorthand

/-! ## Forms -/

namespace Schema

open Shorthand (Divides typeText)

/-- The forms of the field that a text describes: the text itself, and maps with the name of the
field and with its type, marked in the text of the type or under a key of its own, or with its whole
schema as a text. -/
inductive FieldForm (entry : String) : Datum → Prop where
  | text : FieldForm entry (.text entry)
  | typed {name word : String} {type : ValueType} {marked : Bool}
      (h : Divides entry name word type marked) :
      FieldForm entry (.map [(.text "name", .text name),
        (.text "type", .text (typeText word marked))])
  | flagged {name word : String} {type : ValueType} {marked : Bool}
      (h : Divides entry name word type marked) :
      FieldForm entry (.map [(.text "name", .text name), (.text "type", .text word),
        (.text "optional", .bool marked)])
  | whole {name word : String} {type : ValueType} {marked : Bool}
      (h : Divides entry name word type marked) :
      FieldForm entry (.map [(.text "name", .text name),
        (.text "schema", .text (typeText word marked))])

/-- A map that describes a field with the name and the type of a text is read as the text is. -/
theorem readField_eq_of_divides {entry name word : String} {type : ValueType} {marked : Bool}
    (h : Divides entry name word type marked) {item part : Datum}
    (hitem : FieldDescribed item name part) (hread : read part = .ok (ofType type marked))
    (index : Nat) : readField index item = readField index (.text entry) := by
  rw [hitem.readField_eq, hread, readField, h.field_eq]
  rfl

/-- Every form of a field is read as its text is. -/
theorem FieldForm.readField_eq {entry : String} {item : Datum} (h : FieldForm entry item)
    (index : Nat) : readField index item = readField index (.text entry) := by
  cases h with
  | text => rfl
  -- Each form spreads or nests the one type, and so describes the schema that the text does.
  | @typed name word type marked h =>
    have hread : read (.map [(.text "type", .text (typeText word marked))]) =
        .ok (ofType type marked) :=
      read_map_of_type rfl h.typeText_eq rfl rfl rfl rfl
    refine readField_eq_of_divides h (.spread rfl h.named rfl) ?_ index
    exact hread
  | @flagged name word type marked h =>
    have hread : read (.map [(.text "type", .text word), (.text "optional", .bool marked)]) =
        .ok (ofType type marked) :=
      read_map_of_type rfl h.type_eq rfl rfl rfl rfl
    refine readField_eq_of_divides h (.spread rfl h.named rfl) ?_ index
    exact hread
  | @whole name word type marked h =>
    have hread : read (.text (typeText word marked)) = .ok (ofType type marked) :=
      read_eq_ok_iff.mpr (.inl ⟨_, _, _, rfl, h.typeText_eq, rfl⟩)
    exact readField_eq_of_divides h (.whole rfl h.named rfl rfl) hread index

/-- Items in any forms of the fields are read as the texts are. -/
theorem readFields_eq_of_fieldForms {entries : List String} {items : List Datum}
    (h : List.Forall₂ FieldForm entries items) (index : Nat) :
    readFields index items = readFields index (entries.map .text) := by
  induction h generalizing index with
  | nil => rfl
  | cons hitem _ ih => rw [List.map_cons, readFields, readFields, hitem.readField_eq, ih]

/-! ## Structs -/

/-- How a struct turns out whose fields are described by texts: it has the fields that are spelled,
unless two of them have one name, and then the names of several fields are reported. -/
inductive TextOutcome (entries : List String) : Except SchemaError Schema → Prop where
  | made {schema : Schema} (h : SpelledStruct entries schema) : TextOutcome entries (.ok schema)
  | repeated {fields : List Field}
      (hspelled : List.Forall₂ (fun item field => SpelledField item.2 item.1 field) entries.zipIdx
        fields) (hrepeated : ¬(fields.map Field.name).Nodup) :
      TextOutcome entries (.error (.repeatedFields (Text.repeated (fields.map Field.name))))

section Accepted

variable {entries : List String}
  (haccepted : ∀ entry ∈ entries, ∃ field, readField 0 (.text entry) = .ok field)
include haccepted

/-- Field texts that are accepted one by one give names and schemas, whether they are read as the
items of a list of fields or each by itself. -/
theorem exists_named_of_accepted :
    ∃ named : List (String × Schema), (entries.map .inl).mapM readNamed = .ok named ∧
      ∀ index, readFields index (entries.map .text) =
        .ok (named.mapIdx fun place entry => ⟨entry.1, index + place, entry.2⟩) := by
  induction entries with
  | nil => exact ⟨[], rfl, fun index => by rw [List.map_nil, readFields]; rfl⟩
  | cons entry entries ih =>
    obtain ⟨⟨field, hfield⟩, hrest⟩ := List.forall_mem_cons.mp haccepted
    obtain ⟨named, hnamed, hfields⟩ := ih hrest
    cases readField_eq_ok_iff.mp hfield with
    | described h => cases h
    | @short _ name type marked hentry =>
      -- The index moves on with the texts, so the fields are given for every index to begin with.
      refine ⟨(name, ofType type marked) :: named, ?_, fun index => ?_⟩
      · have hfirst : readNamed (.inl entry) = .ok (name, ofType type marked) := by
          rw [readNamed, Shorthand.namedType_eq_ok hentry]
          rfl
        rw [List.map_cons, List.mapM_cons, hfirst, hnamed]
        rfl
      · have hfirst : readField index (.text entry) = .ok ⟨name, index, ofType type marked⟩ :=
          readField_eq_ok_iff.mpr (.short hentry)
        rw [List.map_cons, readFields, hfirst, hfields, List.mapIdx_cons]
        simp only [Nat.add_assoc, Nat.add_comm 1]
        rfl

/-- A struct of accepted field texts is made, or the names that repeat are reported. -/
theorem textOutcome_read : TextOutcome entries (read (textStruct entries)) := by
  obtain ⟨fields, hfields⟩ : ∃ fields, readFields 0 (entries.map .text) = .ok fields := by
    obtain ⟨named, -, hfields⟩ := exists_named_of_accepted haccepted
    exact ⟨_, hfields 0⟩
  have hspelled := readFields_texts_eq_ok_iff.mp hfields
  rw [read_textStruct, hfields]
  show TextOutcome entries (check { ofType .struct false with fields := fields })
  -- The texts are all accepted, so the check of the names is all that is left.
  by_cases hdistinct : (fields.map Field.name).Nodup
  · have hcheck : check { ofType .struct false with fields := fields } =
        .ok { ofType .struct false with fields := fields } :=
      check_eq_ok_iff.mpr ⟨fun _ => rfl, hdistinct⟩
    rw [hcheck]
    exact .made ⟨fields, hspelled, hdistinct, rfl⟩
  · have hcheck : check { ofType .struct false with fields := fields } =
        .error (.repeatedFields (Text.repeated (fields.map Field.name))) := by
      rw [check, if_neg (by simp [isStruct, ofType])]
      exact if_neg hdistinct
    rw [hcheck]
    exact .repeated hspelled hdistinct

/-- A struct whose fields are given one by one as texts is that of the list of these texts. -/
theorem makeStruct_eq_read :
    makeStruct (entries.map .inl) false .null = read (textStruct entries) := by
  obtain ⟨named, hnamed, hfields⟩ := exists_named_of_accepted haccepted
  rw [makeStruct, hnamed, read_textStruct, hfields 0]
  simp only [Nat.zero_add]
  rfl

/-- Each text that is accepted falls into a name, a word and a mark, so that the field has all its
forms. Fields that texts describe make one struct, or one report on the names of several fields, in
whichever forms they are given: as the texts, as maps of any form, in any mix of these, or one by
one. -/
theorem read_eq_of_fieldForms {items : List Datum} (hitems : List.Forall₂ FieldForm entries items) :
    (∀ entry ∈ entries, ∃ name word type marked, Divides entry name word type marked) ∧
      TextOutcome entries (read (textStruct entries)) ∧
      read (fieldStruct items) = read (textStruct entries) ∧
      makeStruct (entries.map .inl) false .null = read (textStruct entries) := by
  refine ⟨fun entry hentry => ?_, textOutcome_read haccepted, ?_, makeStruct_eq_read haccepted⟩
  · obtain ⟨field, hfield⟩ := haccepted entry hentry
    cases readField_eq_ok_iff.mp hfield with
    | described h => cases h
    | short h =>
      obtain ⟨word, hdivides⟩ := Shorthand.exists_divides h
      exact ⟨_, word, _, _, hdivides⟩
  · rw [read_fieldStruct, read_textStruct, readFields_eq_of_fieldForms hitems]

end Accepted

/-- Field texts of which the first and the last have one name. -/
def repeatingEntries : List String :=
  ["id: INT64", "\t email:string? ", "note:\u00a0String?", "id:bytes"]

/-- The same fields, no two of them in the same form. -/
def repeatingItems : List Datum := [
  .text "id: INT64",
  .map [(.text "name", .text "email"), (.text "type", .text "string?")],
  .map [(.text "name", .text "note"), (.text "type", .text "String"),
    (.text "optional", .bool true)],
  .map [(.text "name", .text "id"), (.text "schema", .text "bytes")]]

theorem read_repeatingItems :
    (∀ entry ∈ repeatingEntries, ∃ field, readField 0 (.text entry) = .ok field) ∧
      List.Forall₂ FieldForm repeatingEntries repeatingItems ∧
      TextOutcome repeatingEntries (read (textStruct repeatingEntries)) ∧
      read (fieldStruct repeatingItems) = read (textStruct repeatingEntries) ∧
      makeStruct (repeatingEntries.map .inl) false .null = read (textStruct repeatingEntries) := by
  have haccepted : ∀ entry ∈ repeatingEntries, ∃ field, readField 0 (.text entry) = .ok field := by
    intro entry hentry
    simp only [repeatingEntries, List.mem_cons, List.not_mem_nil, or_false] at hentry
    rcases hentry with rfl | rfl | rfl | rfl <;>
      exact ⟨_, readField_eq_ok_iff.mpr (.short rfl)⟩
  -- As lists these are decided character by character, and not over all characters there are.
  have hnames : ∀ name ∈ ["email", "note", "id"], ∀ c ∈ name.toList,
      c ≠ ':' ∧ Text.isBlank c = false := by
    simp only [← List.forall_iff_forall_mem]
    decide
  have hblank : ∀ c ∈ "\u00a0".toList, Text.isBlank c = true := List.all_eq_true.mp (by decide)
  have hemail : Divides "\t email:string? " "email" "string" .string true :=
    ⟨⟨"", nofun, rfl⟩, by decide, hnames _ (by decide), rfl⟩
  have hnote : Divides "note:\u00a0String?" "note" "String" .string true :=
    ⟨⟨"\u00a0", hblank, rfl⟩, by decide, hnames _ (by decide), rfl⟩
  have hid : Divides "id:bytes" "id" "bytes" .bytes false :=
    ⟨⟨"", nofun, rfl⟩, by decide, hnames _ (by decide), rfl⟩
  have hforms : List.Forall₂ FieldForm repeatingEntries repeatingItems :=
    .cons .text (.cons (.typed hemail) (.cons (.flagged hnote) (.cons (.whole hid) .nil)))
  exact ⟨haccepted, hforms, (read_eq_of_fieldForms haccepted hforms).2⟩

end Schema

end TableLayout
