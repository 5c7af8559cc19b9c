import Mathlib.Data.List.TakeDrop
import Mathlib.Data.List.TakeWhile
import TableLayout.Proofs.Failure
import TableLayout.Proofs.Text.Word
import TableLayout.Schema.Shorthand

/-!
# The grammar of shorthand

Which texts describe a type or a field, and what they describe, said without the steps that read
them.

- `Shorthand.SpellsType`: a text spells a type, in letters of either case, and a question mark after
  it marks the type.
- `Shorthand.SpellsField`: a text spells a field: a name, a colon, blanks if any, and a type.
- `Shorthand.splitMark_eq_iff`, `Shorthand.splitField?_eq_some_iff`: how a text is taken apart.
- `Shorthand.type_eq_ok_iff`, `Shorthand.field_eq_ok_iff`: what is read is what is spelled, but for
  blanks around it.
-/

namespace TableLayout

namespace Shorthand

/-- A text spells a type, marked or not. -/
inductive SpellsType : String → ValueType → Bool → Prop where
  | plain {word : String} {type : ValueType} (hword : Text.lower word = type.text) :
      SpellsType word type false
  | marked {word : String} {type : ValueType} (hword : Text.lower word = type.text) :
      SpellsType (word ++ "?") type true

/-- A text spells a field: its name, which holds neither a colon nor a blank, a colon, any number of
blanks and its type. -/
inductive SpellsField : String → String → ValueType → Bool → Prop where
  | mk {name blanks spelling : String} {type : ValueType} {marked : Bool} (hne : name ≠ "")
      (hname : ∀ c ∈ name.toList, c ≠ ':' ∧ Text.isBlank c = false)
      (hblanks : ∀ c ∈ blanks.toList, Text.isBlank c = true)
      (htype : SpellsType spelling type marked) :
      SpellsField (name ++ ":" ++ blanks ++ spelling) name type marked

/-! ## Words -/

theorem nonempty_all_iff {p : Char → Bool} {cs : List Char} :
    (!cs.isEmpty && cs.all p) = true ↔ cs ≠ [] ∧ ∀ c ∈ cs, p c = true := by
  rw [Bool.and_eq_true, List.all_eq_true, Bool.not_eq_true', List.isEmpty_eq_false_iff]

/-- A word is made of one or more word characters. -/
theorem isWordText_iff {cs : List Char} :
    isWordText cs = true ↔ cs ≠ [] ∧ ∀ c ∈ cs, Text.isWord c = true :=
  nonempty_all_iff

/-- A name is made of one or more characters that are no blanks. -/
theorem isNameText_iff {cs : List Char} :
    isNameText cs = true ↔ cs ≠ [] ∧ ∀ c ∈ cs, Text.isBlank c = false := by
  simp only [isNameText, nonempty_all_iff, Bool.not_eq_true']

/-- The word for a type is made of ASCII letters and digits. -/
theorem isAlphanum_of_mem_text (type : ValueType) :
    type.text.toList ≠ [] ∧ ∀ c ∈ type.text.toList, c.isAlphanum = true := by
  refine nonempty_all_iff.mp ?_
  cases type <;> rfl

/-- Whatever is the word for a type in lower case is a word, in whichever case it is written. -/
theorem isWordText_of_lower {word : String} {type : ValueType}
    (h : Text.lower word = type.text) : isWordText word.toList = true := by
  have hlowered : Text.lowerAfter false word.toList = type.text.toList := by
    rw [← h, Text.lower, String.toList_ofList]
  obtain ⟨hne, halnum⟩ := isAlphanum_of_mem_text type
  rw [← hlowered] at hne halnum
  -- Lower case may turn one character into several, but never an empty text into a word.
  refine isWordText_iff.mpr ⟨fun hnil => ?_, Text.isWord_of_lowerAfter halnum⟩
  rw [hnil] at hne
  exact hne rfl

/-- A word carries no mark, since a question mark is no word character. -/
theorem splitMark_of_isWordText {cs : List Char} (h : isWordText cs = true) :
    splitMark cs = (cs, false) := by
  refine if_neg fun hlast => ?_
  have hmark := (isWordText_iff.mp h).2 '?' (List.mem_of_getLast? hlast)
  exact absurd hmark (by decide)

theorem splitMark_append_mark (cs : List Char) : splitMark (cs ++ ['?']) = (cs, true) := by
  rw [splitMark, if_pos (by simp), List.dropLast_concat]

/-- A word with or without a mark after it is taken apart in one way. -/
theorem splitMark_eq_iff {cs word : List Char} {marked : Bool} (h : isWordText word = true) :
    splitMark cs = (word, marked) ↔ cs = word ++ if marked then ['?'] else [] := by
  constructor
  · intro hsplit
    unfold splitMark at hsplit
    split at hsplit
    · next hlast =>
      obtain ⟨rfl, rfl⟩ := Prod.mk.inj hsplit
      exact (List.dropLast_append_getLast? '?' hlast).symm
    · obtain ⟨rfl, rfl⟩ := Prod.mk.inj hsplit
      exact (List.append_nil cs).symm
  · rintro rfl
    cases marked with
    | true => exact splitMark_append_mark word
    | false =>
      show splitMark (word ++ []) = (word, false)
      rw [List.append_nil, splitMark_of_isWordText h]

/-! ## Types -/

/-- The two ways to spell a type, as one equation of characters. -/
theorem spellsType_iff {spelling : String} {type : ValueType} {marked : Bool} :
    SpellsType spelling type marked ↔
      ∃ word : String, spelling.toList = (word.toList ++ if marked then ['?'] else []) ∧
        Text.lower word = type.text := by
  constructor
  · intro h
    cases h with
    | plain hword => exact ⟨spelling, (List.append_nil _).symm, hword⟩
    | @marked word _ hword => exact ⟨word, String.toList_append, hword⟩
  · rintro ⟨word, hspelling, hword⟩
    cases marked with
    | true =>
      obtain rfl : spelling = word ++ "?" := by
        rw [← String.toList_inj, hspelling, String.toList_append]
        rfl
      exact .marked hword
    | false =>
      obtain rfl : spelling = word := by
        rw [← String.toList_inj, hspelling]
        exact List.append_nil _
      exact .plain hword

/-- A type is read from a text exactly if the text spells it, but for blanks around it. -/
theorem type_eq_ok_iff {spec : String} {type : ValueType} {marked : Bool} :
    Shorthand.type spec = .ok (type, marked) ↔ SpellsType (Text.strip spec) type marked := by
  rw [spellsType_iff, Text.toList_strip]
  unfold Shorthand.type
  cases hsplit : splitMark (Text.trim spec.toList) with
  | mk chars marked' =>
    simp only
    constructor
    · intro h
      split at h
      · next hword =>
        split at h
        · next type' htype =>
          obtain ⟨rfl, rfl⟩ := Prod.mk.inj (Except.ok.inj h)
          refine ⟨String.ofList chars, ?_, ValueType.ofText?_eq_some_iff.mp htype⟩
          rw [String.toList_ofList]
          exact (splitMark_eq_iff hword).mp hsplit
        · cases h
      · cases h
    · rintro ⟨word, hspelling, htype⟩
      -- The other direction: a text that spells a type is a word and a mark, and there is no second
      -- way to take it apart.
      have hword : isWordText word.toList = true := isWordText_of_lower htype
      have hparts := hsplit.symm.trans ((splitMark_eq_iff hword).mpr hspelling)
      obtain ⟨rfl, rfl⟩ := Prod.mk.inj hparts
      rw [if_pos hword, String.ofList_toList, ValueType.ofText?_eq_some_iff.mpr htype]

/-- What spells a type has the form of a type text. -/
theorem SpellsType.isTypeText {spelling : String} {type : ValueType} {marked : Bool}
    (h : SpellsType spelling type marked) : isTypeText spelling.toList = true := by
  obtain ⟨word, hspelling, htype⟩ := spellsType_iff.mp h
  have hword : isWordText word.toList = true := isWordText_of_lower htype
  rw [Shorthand.isTypeText, (splitMark_eq_iff hword).mpr hspelling]
  exact hword

/-- A type text holds no blank, and it holds something. -/
theorem isBlank_of_isTypeText {cs : List Char} (h : isTypeText cs = true) :
    cs ≠ [] ∧ ∀ c ∈ cs, Text.isBlank c = false := by
  unfold isTypeText at h
  obtain ⟨hne, hword⟩ := isWordText_iff.mp h
  have hcs : cs = (splitMark cs).1 ++ if (splitMark cs).2 then ['?'] else [] :=
    (splitMark_eq_iff h).mp rfl
  constructor
  · intro hnil
    subst hnil
    exact hne rfl
  · intro c hc
    rw [hcs] at hc
    rcases List.mem_append.mp hc with hmem | hmem
    · exact Text.isBlank_of_isWord (hword c hmem)
    · split at hmem
      · obtain rfl := List.mem_singleton.mp hmem
        decide
      · cases hmem

/-- A type text holds no blanks that reading it would take away. -/
theorem type_eq_ok_iff_of_isTypeText {spelling : String} (h : isTypeText spelling.toList = true)
    {type : ValueType} {marked : Bool} :
    Shorthand.type spelling = .ok (type, marked) ↔ SpellsType spelling type marked := by
  obtain ⟨-, hblank⟩ := isBlank_of_isTypeText h
  have hstrip : Text.strip spelling = spelling := by
    rw [Text.strip, Text.trim_eq_self (fun c hc => hblank c (List.mem_of_mem_head? hc))
      (fun c hc => hblank c (List.mem_of_mem_getLast? hc)), String.ofList_toList]
  rw [type_eq_ok_iff, hstrip]

/-- A type is read from every text that spells it. -/
theorem SpellsType.type_eq_ok {spelling : String} {type : ValueType} {marked : Bool}
    (h : SpellsType spelling type marked) : Shorthand.type spelling = .ok (type, marked) :=
  (type_eq_ok_iff_of_isTypeText h.isTypeText).mpr h

/-! ## Fields -/

/-- A name without a colon reaches up to the first colon. -/
theorem span_colon {name rest : List Char} (hname : ∀ c ∈ name, c ≠ ':') :
    (name ++ ':' :: rest).span (· != ':') = (name, ':' :: rest) := by
  have hpass : ∀ c ∈ name, (c != ':') = true := fun c hc => bne_iff_ne.mpr (hname c hc)
  rw [List.span_eq_takeWhile_dropWhile, List.takeWhile_append_of_pos hpass,
    List.dropWhile_append_of_pos hpass]
  simp

/-- A field text is divided at its first colon, and blanks after the colon do not count. -/
theorem splitField?_eq_some_iff {entry : String} {name typeText : List Char} :
    splitField? entry = some (name, typeText) ↔
      ∃ blanks, Text.trim entry.toList = name ++ ':' :: (blanks ++ typeText) ∧
        isNameText name = true ∧ (∀ c ∈ name, c ≠ ':') ∧
        (∀ c ∈ blanks, Text.isBlank c = true) ∧ isTypeText typeText = true := by
  constructor
  · intro h
    unfold splitField? at h
    rw [List.span_eq_takeWhile_dropWhile] at h
    simp only at h
    split at h
    · next colon rest hrest =>
      split at h
      · next htexts =>
        obtain ⟨rfl, rfl⟩ := Prod.mk.inj (Option.some.inj h)
        rw [Bool.and_eq_true] at htexts
        have hcolon : colon = ':' := by
          have hfirst := List.head?_dropWhile_not (· != ':') (Text.trim entry.toList)
          rw [hrest] at hfirst
          simpa using hfirst
        obtain rfl := hcolon
        refine ⟨rest.takeWhile Text.isBlank, ?_, htexts.1, fun c hc => ?_,
          fun c hc => List.mem_takeWhile_imp hc, htexts.2⟩
        · rw [List.takeWhile_append_dropWhile, ← hrest, List.takeWhile_append_dropWhile]
        · have hpass := List.mem_takeWhile_imp hc
          exact bne_iff_ne.mp hpass
      · cases h
    · cases h
  · rintro ⟨blanks, htrim, hname, hcolon, hblanks, htype⟩
    -- The type begins with no blank, so exactly the blanks after the colon are dropped.
    have hdrop : (blanks ++ typeText).dropWhile Text.isBlank = typeText := by
      obtain ⟨hne, hnot⟩ := isBlank_of_isTypeText htype
      rw [List.dropWhile_append_of_pos hblanks]
      cases typeText with
      | nil => exact absurd rfl hne
      | cons c rest => exact List.dropWhile_cons_of_neg (by simp [hnot c List.mem_cons_self])
    unfold splitField?
    rw [htrim, span_colon hcolon]
    simp only
    rw [hdrop, hname, htype]
    rfl

/-- The way to spell a field, as an equation of characters. -/
theorem spellsField_iff {text name : String} {type : ValueType} {marked : Bool} :
    SpellsField text name type marked ↔
      ∃ blanks spelling, text.toList = name.toList ++ ':' :: (blanks ++ spelling) ∧
        isNameText name.toList = true ∧ (∀ c ∈ name.toList, c ≠ ':') ∧
        (∀ c ∈ blanks, Text.isBlank c = true) ∧
        SpellsType (String.ofList spelling) type marked := by
  simp only [isNameText_iff, ne_eq, String.toList_eq_nil_iff]
  constructor
  · intro h
    cases h with
    | @mk _ blanks spelling _ _ hne hname hblanks htype =>
      refine ⟨blanks.toList, spelling.toList, ?_, ⟨hne, fun c hc => (hname c hc).2⟩,
        fun c hc => (hname c hc).1, hblanks, ?_⟩
      · simp
      · rwa [String.ofList_toList]
  · rintro ⟨blanks, spelling, htext, ⟨hne, hnot⟩, hcolon, hblanks, htype⟩
    obtain rfl : text = name ++ ":" ++ String.ofList blanks ++ String.ofList spelling := by
      rw [← String.toList_inj, htext]
      simp
    refine .mk hne (fun c hc => ⟨hcolon c hc, hnot c hc⟩) (fun c hc => ?_) htype
    rw [String.toList_ofList] at hc
    exact hblanks c hc

/-- A field text is read by its two halves: the name as it stands, and the type. -/
theorem field_eq_ok_iff_split {entry name : String} {type : ValueType} {marked : Bool} :
    Shorthand.field entry = .ok (name, type, marked) ↔
      ∃ spelling, splitField? entry = some (name.toList, spelling) ∧
        Shorthand.type (String.ofList spelling) = .ok (type, marked) := by
  unfold Shorthand.field
  constructor
  · intro h
    split at h
    · next chars spelling hsplit =>
      obtain ⟨typed, htype, heq⟩ := map_eq_ok_iff.mp h
      obtain ⟨rfl, rfl⟩ := Prod.mk.inj heq
      rw [String.toList_ofList]
      exact ⟨spelling, hsplit, htype⟩
    · cases h
  · rintro ⟨spelling, hsplit, htype⟩
    rw [hsplit]
    show (String.ofList name.toList, ·) <$> Shorthand.type (String.ofList spelling) = _
    rw [String.ofList_toList, htype]
    rfl

/-- A field is read from a text exactly if the text spells it, but for blanks around it. -/
theorem field_eq_ok_iff {entry name : String} {type : ValueType} {marked : Bool} :
    Shorthand.field entry = .ok (name, type, marked) ↔
      SpellsField (Text.strip entry) name type marked := by
  rw [field_eq_ok_iff_split, spellsField_iff, Text.toList_strip]
  constructor
  · rintro ⟨spelling, hsplit, htype⟩
    obtain ⟨blanks, htrim, hname, hcolon, hblanks, htext⟩ := splitField?_eq_some_iff.mp hsplit
    rw [← String.toList_ofList (l := spelling)] at htext
    exact ⟨blanks, spelling, htrim, hname, hcolon, hblanks,
      (type_eq_ok_iff_of_isTypeText htext).mp htype⟩
  · rintro ⟨blanks, spelling, htrim, hname, hcolon, hblanks, htype⟩
    have htext : isTypeText spelling = true := by
      rw [← String.toList_ofList (l := spelling)]
      exact htype.isTypeText
    exact ⟨spelling, splitField?_eq_some_iff.mpr ⟨blanks, htrim, hname, hcolon, hblanks, htext⟩,
      htype.type_eq_ok⟩

end Shorthand

end TableLayout
