import Mathlib.Data.List.Perm.Subperm
import TableLayout.Header
import TableLayout.Proofs.Datum.Entries
import TableLayout.Proofs.Failure

/-!
# Notations for headers

Headers are described by a map, or by a list whose items are pairs or maps with a key and a value.
A sequence of keys and values comes to the same headers in every notation.

- `Header.Notes`: an item of a list notes a key and a value. `Header.entry?_eq_some_iff`: this is
  what is read of it.
- `Header.Carries`: a header carries the text of a key, and a value as it is.
- `Header.Describes`, `Header.Faulty`: an item describes a header, or why it does not.
- `Header.readItems_eq_ok_iff`, `Header.readItems_eq_error_iff`: what a list comes to, and what is
  wrong with it.
- `Header.Accepted`, `Header.Refused`: the values that describe headers, and the words for others.
- `Header.KeysPrint`: the keys in a value can be written.
- `Datum.ofPairs_eq_map`: pairs with distinct keys are the entries of their map.
- `Header.notations_agree`: exactly the accepted values are read, and the notations agree.
-/

namespace TableLayout

/-! ## Maps of pairs -/

namespace Datum

/-- No two keys count as equal. -/
def KeysDiffer (pairs : List (Datum × Datum)) : Prop :=
  pairs.Pairwise fun a b => a.1.agrees b.1 = false

theorem put_of_new {entries : List (Datum × Datum)} {key : Datum}
    (h : ∀ entry ∈ entries, entry.1.agrees key = false) (value : Datum) :
    put entries key value = entries ++ [(key, value)] := by
  induction entries with
  | nil => rfl
  | cons entry entries ih =>
    obtain ⟨hfirst, hrest⟩ := List.forall_mem_cons.mp h
    rw [put, hfirst, ih hrest]
    rfl

theorem foldl_put_of_keysDiffer {entries pairs : List (Datum × Datum)}
    (h : KeysDiffer (entries ++ pairs)) :
    pairs.foldl (fun es pair => put es pair.1 pair.2) entries = entries ++ pairs := by
  induction pairs generalizing entries with
  | nil => exact (List.append_nil entries).symm
  | cons pair pairs ih =>
    -- The entries that are there grow at their end, pair by pair.
    have hsplit : entries ++ pair :: pairs = (entries ++ [pair]) ++ pairs := by simp
    have hnew : ∀ entry ∈ entries, entry.1.agrees pair.1 = false :=
      fun entry hentry => (List.pairwise_append.mp h).2.2 entry hentry pair List.mem_cons_self
    rw [List.foldl_cons, put_of_new hnew, ih (hsplit ▸ h), ← hsplit]

/-- Pairs with distinct keys are the entries of their map, in order. -/
theorem ofPairs_eq_map {pairs : List (Datum × Datum)} (h : KeysDiffer pairs) :
    ofPairs pairs = .map pairs :=
  congrArg Datum.map (foldl_put_of_keysDiffer h)

/-- Two entries with distinct text keys are all that a list of two holds. -/
theorem perm_of_find? {entries : List (Datum × Datum)} {first second : String} {a b : Datum}
    (hne : first ≠ second) (ha : find? entries first = some a) (hb : find? entries second = some b)
    (hlength : entries.length = 2) : entries.Perm [(.text first, a), (.text second, b)] := by
  have hdistinct : [(Datum.text first, a), (Datum.text second, b)].Nodup := by
    simp [hne]
  -- Both entries are found, and there is room for no third one.
  have hsubset : [(Datum.text first, a), (Datum.text second, b)] ⊆ entries := by
    simp [mem_of_find? ha, mem_of_find? hb]
  exact ((hdistinct.subperm hsubset).perm_of_length_le (Nat.le_of_eq hlength)).symm

end Datum

namespace Header

open Datum (find? KeysDiffer)

/-! ## Items -/

/-- An item of a list notes a key and a value: as a list of the two, or as a map that has them under
`key` and `value`, in either order, and nothing else. -/
inductive Notes : Datum → Datum × Datum → Prop where
  | pair (key value : Datum) : Notes (.list [key, value]) (key, value)
  | map {entries : List (Datum × Datum)} {key value : Datum}
      (h : entries.Perm [(.text "key", key), (.text "value", value)]) :
      Notes (.map entries) (key, value)

/-- A header carries the text of a key, and a value as it is. -/
structure Carries (pair : Datum × Datum) (header : Header) : Prop where
  key : header.key = pair.1.shown
  value : header.value = pair.2

theorem entry?_map_of_perm {entries : List (Datum × Datum)} {key value : Datum}
    (h : entries.Perm [(.text "key", key), (.text "value", value)]) :
    entry? (.map entries) = some (key, value) := by
  have hdistinct : (entries.map Prod.fst).Nodup := (h.map Prod.fst).nodup_iff.mpr (by simp)
  have hkey : find? entries "key" = some key :=
    Datum.find?_eq_some_of_mem hdistinct (h.mem_iff.mpr (by simp))
  have hvalue : find? entries "value" = some value :=
    Datum.find?_eq_some_of_mem hdistinct (h.mem_iff.mpr (by simp))
  unfold entry?
  simp only [hkey, hvalue]
  exact if_pos h.length_eq

/-- What is read of an item is what it notes. -/
theorem entry?_eq_some_iff {item : Datum} {pair : Datum × Datum} :
    entry? item = some pair ↔ Notes item pair := by
  constructor
  · intro h
    unfold entry? at h
    split at h
    · obtain rfl := Option.some.inj h
      exact .pair _ _
    · next entries =>
      split at h
      · next key value hkey hvalue =>
        split at h
        · next hlength =>
          obtain rfl := Option.some.inj h
          exact .map (Datum.perm_of_find? (by decide) hkey hvalue hlength)
        · cases h
      · cases h
    · cases h
  · intro h
    cases h with
    | pair key value => rfl
    | map hperm => exact entry?_map_of_perm hperm

theorem entry?_eq_none_iff {item : Datum} : entry? item = none ↔ ∀ pair, ¬Notes item pair := by
  simp only [Option.eq_none_iff_forall_not_mem, Option.mem_def, entry?_eq_some_iff]

theorem Notes.unique {item : Datum} {pair pair' : Datum × Datum} (h : Notes item pair)
    (h' : Notes item pair') : pair = pair' :=
  Option.some.inj ((entry?_eq_some_iff.mpr h).symm.trans (entry?_eq_some_iff.mpr h'))

variable {digits : Option Nat}

/-- A pair makes a header exactly if its key can be written. -/
theorem named_eq_ok_iff {pair : Datum × Datum} {header : Header} :
    named pair.1 pair.2 digits = .ok header ↔ pair.1.Prints digits ∧ Carries pair header := by
  obtain ⟨key, value⟩ := header
  rw [← Datum.exceeds?_eq_none_iff, named]
  cases pair.1.exceeds? digits with
  | some most => exact iff_of_false nofun fun h => nomatch h.1
  | none =>
    rw [and_iff_right rfl]
    constructor
    · rintro ⟨⟩
      exact ⟨rfl, rfl⟩
    · rintro ⟨rfl, rfl⟩
      rfl

/-- A pair fails to make a header exactly for a key that cannot be written. -/
theorem named_eq_error_iff {pair : Datum × Datum} {error : HeaderError} :
    named pair.1 pair.2 digits = .error error ↔
      ∃ most, (digits = some most ∧ pair.1.fits most = false) ∧ error = .longKey most := by
  simp only [← Datum.exceeds?_eq_some_iff, named]
  cases pair.1.exceeds? digits with
  | none => simp
  | some most => simp [eq_comm]

/-! ## Lists -/

variable {items : List Datum} {index : Nat}

/-- An item of a list describes a header: it notes a key that can be written, and a value. -/
def Describes (digits : Option Nat) (item : Datum) (header : Header) : Prop :=
  ∃ pair, Notes item pair ∧ pair.1.Prints digits ∧ Carries pair header

/-- Why the item at a place of a list describes no header. -/
inductive Faulty (digits : Option Nat) (place : Nat) (item : Datum) : HeaderError → Prop where
  | malformed (hnone : ∀ pair, ¬Notes item pair) :
      Faulty digits place item (.malformedEntry place)
  | longKey {pair : Datum × Datum} {most : Nat} (hpair : Notes item pair)
      (hlimit : digits = some most) (hlong : pair.1.fits most = false) :
      Faulty digits place item (.longKey most)

/-- Reading a list goes by its items: the first describes a header, and then the rest is read. -/
theorem readItems_cons (digits : Option Nat) (index : Nat) (item : Datum) (items : List Datum) :
    ∃ first : Except HeaderError Header,
      readItems index (item :: items) digits =
        (first >>= fun header => (header :: ·) <$> readItems (index + 1) items digits) ∧
      (∀ header, first = .ok header ↔ Describes digits item header) ∧
      ∀ error, first = .error error ↔ Faulty digits index item error := by
  -- The item notes nothing, or it notes a pair that has to make a header.
  cases hentry : entry? item with
  | none =>
    have hnone := entry?_eq_none_iff.mp hentry
    refine ⟨.error (.malformedEntry index), ?_, fun header => ?_, fun error => ?_⟩
    · rw [readItems, hentry]
      rfl
    · exact iff_of_false nofun fun ⟨pair, hpair, _⟩ => hnone pair hpair
    · constructor
      · rintro ⟨⟩
        exact .malformed hnone
      · intro h
        cases h with
        | malformed => rfl
        | longKey hpair => exact absurd hpair (hnone _)
  | some pair =>
    have hpair := entry?_eq_some_iff.mp hentry
    refine ⟨named pair.1 pair.2 digits, ?_, fun header => ?_, fun error => ?_⟩
    · rw [readItems, hentry]
    · rw [named_eq_ok_iff]
      constructor
      · rintro ⟨hprints, hcarries⟩
        exact ⟨pair, hpair, hprints, hcarries⟩
      · rintro ⟨pair', hpair', hheader⟩
        exact hpair'.unique hpair ▸ hheader
    · rw [named_eq_error_iff]
      constructor
      · rintro ⟨most, ⟨hlimit, hlong⟩, rfl⟩
        exact .longKey hpair hlimit hlong
      · intro h
        cases h with
        | malformed hnone => exact absurd hpair (hnone pair)
        | longKey hpair' hlimit hlong =>
          exact ⟨_, ⟨hlimit, hpair'.unique hpair ▸ hlong⟩, rfl⟩

/-- A list is read item by item, each as the header that it describes. -/
theorem readItems_eq_ok_iff {headers : List Header} :
    readItems index items digits = .ok headers ↔
      List.Forall₂ (Describes digits) items headers := by
  induction items generalizing index headers with
  | nil =>
    rw [readItems, List.forall₂_nil_left_iff]
    exact ⟨fun h => (Except.ok.inj h).symm, fun h => h ▸ rfl⟩
  | cons item items ih =>
    obtain ⟨first, heq, hok, -⟩ := readItems_cons digits index item items
    rw [heq, bind_eq_ok_iff, List.forall₂_cons_left_iff]
    constructor
    · rintro ⟨header, hfirst, h⟩
      obtain ⟨rest, hrest, rfl⟩ := map_eq_ok_iff.mp h
      exact ⟨header, rest, (hok header).mp hfirst, ih.mp hrest, rfl⟩
    · rintro ⟨header, rest, hheader, hrest, rfl⟩
      exact ⟨header, (hok header).mpr hheader, map_eq_ok_iff.mpr ⟨rest, ih.mpr hrest, rfl⟩⟩

/-- A list is refused for the first of its items that describes no header. -/
theorem readItems_eq_error_iff {error : HeaderError} :
    readItems index items digits = .error error ↔
      ∃ before item after, items = before ++ item :: after ∧
        (∀ earlier ∈ before, ∃ header, Describes digits earlier header) ∧
        Faulty digits (index + before.length) item error := by
  induction items generalizing index with
  | nil => simp [readItems]
  | cons first items ih =>
    obtain ⟨outcome, heq, hok, herror⟩ := readItems_cons digits index first items
    rw [heq, bind_eq_error_iff]
    constructor
    · rintro (h | ⟨header, hheader, h⟩)
      · exact ⟨[], first, items, rfl, by simp, (herror error).mp h⟩
      · obtain ⟨before, item, after, rfl, hbefore, hfaulty⟩ := ih.mp (map_eq_error_iff.mp h)
        -- The first item is passed, so the place counts on from the next.
        refine ⟨first :: before, item, after, rfl,
          List.forall_mem_cons.mpr ⟨⟨header, (hok header).mp hheader⟩, hbefore⟩, ?_⟩
        rwa [List.length_cons, Nat.add_comm before.length, ← Nat.add_assoc]
    · rintro ⟨before, item, after, hsplit, hbefore, hfaulty⟩
      cases before with
      | nil =>
        obtain ⟨rfl, -⟩ := List.cons.inj hsplit
        exact .inl ((herror error).mpr hfaulty)
      | cons earlier before =>
        obtain ⟨rfl, rfl⟩ := List.cons.inj hsplit
        obtain ⟨⟨header, hheader⟩, hbefore⟩ := List.forall_mem_cons.mp hbefore
        rw [List.length_cons, Nat.add_comm before.length, ← Nat.add_assoc] at hfaulty
        refine .inr ⟨header, (hok header).mpr hheader, map_eq_error_iff.mpr (ih.mpr ?_)⟩
        exact ⟨before, item, after, rfl, hbefore, hfaulty⟩

/-! ## Values -/

/-- A value describes headers: null, a map, or a list whose items each note a key and a value. -/
inductive Accepted : Datum → Prop where
  | null : Accepted .null
  | map (entries : List (Datum × Datum)) : Accepted (.map entries)
  | list {items : List Datum} (h : ∀ item ∈ items, ∃ pair, Notes item pair) : Accepted (.list items)

/-- All keys that a value notes for headers can be written. -/
structure KeysPrint (digits : Option Nat) (value : Datum) : Prop where
  map : ∀ entries, value = .map entries → ∀ entry ∈ entries, entry.1.Prints digits
  list : ∀ items, value = .list items → ∀ item ∈ items, ∀ pair, Notes item pair →
    pair.1.Prints digits

/-- The words for a value that does not describe headers. Those for a list name the place of the
first item that notes nothing. -/
inductive Refused : Datum → String → Prop where
  | item {before after : List Datum} {item : Datum}
      (hbefore : ∀ earlier ∈ before, ∃ pair, Notes earlier pair)
    (hitem : ∀ pair, ¬Notes item pair) :
      Refused (.list (before ++ item :: after))
        s!"headers[{before.length}] must be a [key, value] pair or a \x7bkey, value\x7d mapping"
  | other {value : Datum} (hnull : value ≠ .null) (hmap : ∀ entries, value ≠ .map entries)
      (hlist : ∀ items, value ≠ .list items) :
      Refused value s!"'headers' must be a mapping or a list, got {value.kind.name}"

/-- An item describes a header exactly if it notes a key and a value, and what it notes as the key
can be written. -/
theorem exists_describes_iff {item : Datum} :
    (∃ header, Describes digits item header) ↔
      (∃ pair, Notes item pair) ∧ ∀ pair, Notes item pair → pair.1.Prints digits := by
  constructor
  · rintro ⟨header, pair, hpair, hprints, -⟩
    exact ⟨⟨pair, hpair⟩, fun pair' hpair' => hpair'.unique hpair ▸ hprints⟩
  -- The header is then made of the text of the key and of the value.
  · rintro ⟨⟨pair, hpair⟩, hprints⟩
    exact ⟨⟨pair.1.shown, pair.2⟩, pair, hpair, hprints pair hpair, rfl, rfl⟩

theorem readAll_map_eq_ok_iff {entries : List (Datum × Datum)} {headers : List Header} :
    readAll (.map entries) digits = .ok headers ↔
      (∀ entry ∈ entries, entry.1.Prints digits) ∧ List.Forall₂ Carries entries headers := by
  show entries.mapM (fun entry => named entry.1 entry.2 digits) = _ ↔ _
  rw [mapM_eq_ok_iff, ← List.forall₂_and_left]
  simp only [named_eq_ok_iff]

theorem exists_carries (pairs : List (Datum × Datum)) :
    List.Forall₂ Carries pairs (pairs.map fun pair => ⟨pair.1.shown, pair.2⟩) :=
  List.forall₂_map_right_iff.mpr (List.forall₂_same.mpr fun _ _ => ⟨rfl, rfl⟩)

/-- Exactly the accepted values are read, as far as the keys in them can be written. -/
theorem exists_readAll_iff {value : Datum} :
    (∃ headers, readAll value digits = .ok headers) ↔ Accepted value ∧ KeysPrint digits value := by
  cases value with
  | null => exact iff_of_true ⟨_, rfl⟩ ⟨.null, nofun, nofun⟩
  | map entries =>
    simp only [readAll_map_eq_ok_iff, exists_and_left]
    constructor
    · rintro ⟨hprints, -⟩
      exact ⟨.map entries, fun _ h => Datum.map.inj h ▸ hprints, nofun⟩
    · rintro ⟨-, hkeys⟩
      exact ⟨hkeys.map entries rfl, _, exists_carries entries⟩
  | list items =>
    -- A list is read item by item, so it has headers if every item has one.
    have hread : (∃ headers, readAll (.list items) digits = .ok headers) ↔
        ∀ item ∈ items, ∃ header, Describes digits item header :=
      (exists_congr fun _ => readItems_eq_ok_iff).trans exists_forall₂_iff
    rw [hread]
    simp only [exists_describes_iff, forall₂_and]
    constructor
    · rintro ⟨hnotes, hprints⟩
      exact ⟨.list hnotes, nofun, fun _ h => Datum.list.inj h ▸ hprints⟩
    · rintro ⟨haccepted, hkeys⟩
      cases haccepted with
      | list hnotes => exact ⟨hnotes, hkeys.list items rfl⟩
  | _ => exact iff_of_false nofun nofun

/-- A value that is not read is refused in these words, or a key in it cannot be written. -/
theorem refused_of_readAll {value : Datum} {error : HeaderError}
    (h : readAll value digits = .error error) :
    Refused value error.message ∨
      ¬KeysPrint digits value ∧ ∃ most, digits = some most ∧ error = .longKey most := by
  cases value with
  | null => cases h
  | map entries =>
    -- No entry of a map is malformed, so the key that is too long is all that can be wrong.
    obtain ⟨before, entry, after, rfl, -, hentry⟩ := mapM_eq_error_iff.mp h
    obtain ⟨most, ⟨hlimit, hlong⟩, rfl⟩ := named_eq_error_iff.mp hentry
    refine .inr ⟨fun hkeys => ?_, most, hlimit, rfl⟩
    have hprints := hkeys.map _ rfl entry List.mem_append_cons_self
    exact absurd (hprints most hlimit) (Bool.eq_false_iff.mp hlong)
  | list items =>
    obtain ⟨before, item, after, rfl, hbefore, hfaulty⟩ := readItems_eq_error_iff.mp h
    rw [Nat.zero_add] at hfaulty
    cases hfaulty with
    | malformed hnone =>
      exact .inl (.item (fun earlier hearlier =>
        (exists_describes_iff.mp (hbefore earlier hearlier)).1) hnone)
    | @longKey pair most hpair hlimit hlong =>
      refine .inr ⟨fun hkeys => ?_, most, hlimit, rfl⟩
      have hprints :=
        hkeys.list _ rfl item List.mem_append_cons_self pair hpair
      exact absurd (hprints most hlimit) (Bool.eq_false_iff.mp hlong)
  | _ =>
    obtain rfl := Except.error.inj h
    exact .inl (.other nofun nofun nofun)

/-- Whatever is wrong with the description of headers is reported. -/
theorem reports_readAll {value : Datum} {error : HeaderError}
    (h : readAll value digits = .error error) : error.isMisuse = false := by
  cases value with
  | null => cases h
  | map entries =>
    obtain ⟨-, entry, -, -, -, hentry⟩ := mapM_eq_error_iff.mp h
    obtain ⟨most, -, rfl⟩ := named_eq_error_iff.mp hentry
    rfl
  | list items =>
    obtain ⟨before, item, after, -, -, hfaulty⟩ := readItems_eq_error_iff.mp h
    cases hfaulty <;> rfl
  | _ =>
    obtain rfl := Except.error.inj h
    rfl

/-! ## Agreement -/

theorem describes_of_notes {pairs : List (Datum × Datum)} (h : List.Forall₂ Notes items pairs)
    (hprints : ∀ pair ∈ pairs, pair.1.Prints digits) :
    List.Forall₂ (Describes digits) items (pairs.map fun pair => ⟨pair.1.shown, pair.2⟩) := by
  induction h with
  | nil => exact .nil
  | @cons item pair items pairs hitem _ ih =>
    obtain ⟨hfirst, hrest⟩ := List.forall_mem_cons.mp hprints
    exact .cons ⟨pair, hitem, hfirst, rfl, rfl⟩ (ih hrest)

/-- Exactly the accepted values describe headers, and any other is refused in words that name the
first item of a list that is at fault. A sequence of keys and values has one header for each pair,
in order, however the items of a list note the pairs; with distinct keys, so has their map. It is
taken for granted that the keys can be written; where one cannot, because of a number that is too
long, nothing is read. -/
theorem notations_agree (digits : Option Nat) :
    (∀ value, KeysPrint digits value →
      ((∃ headers, readAll value digits = .ok headers) ↔ Accepted value)) ∧
    (∀ value, KeysPrint digits value → ¬Accepted value →
      ∃ error, readAll value digits = .error error ∧ error.isMisuse = false ∧
        Refused value error.message) ∧
    (∀ pairs, (∀ pair ∈ pairs, pair.1.Prints digits) →
      ∃ headers, List.Forall₂ Carries pairs headers ∧
        (∀ items, List.Forall₂ Notes items pairs → readAll (.list items) digits = .ok headers) ∧
        (KeysDiffer pairs → readAll (.ofPairs pairs) digits = .ok headers)) ∧
    ∀ value, ¬KeysPrint digits value → ∃ error, readAll value digits = .error error ∧
      (Refused value error.message ∨ ∃ most, digits = some most ∧ error = .longKey most) := by
  refine ⟨fun value hkeys => ?_, fun value hkeys hvalue => ?_, fun pairs hprints => ?_,
    fun value hkeys => ?_⟩
  · rw [exists_readAll_iff, and_iff_left hkeys]
  · cases hread : readAll value digits with
    | ok headers => exact absurd (exists_readAll_iff.mp ⟨headers, hread⟩).1 hvalue
    | error error =>
      refine ⟨error, rfl, reports_readAll hread, ?_⟩
      exact (refused_of_readAll hread).resolve_right fun h => h.1 hkeys
  · refine ⟨_, exists_carries pairs, fun items hitems => ?_, fun hdiffer => ?_⟩
    · exact readItems_eq_ok_iff.mpr (describes_of_notes hitems hprints)
    · rw [Datum.ofPairs_eq_map hdiffer]
      exact readAll_map_eq_ok_iff.mpr ⟨hprints, exists_carries pairs⟩
  · cases hread : readAll value digits with
    | ok headers => exact absurd (exists_readAll_iff.mp ⟨headers, hread⟩).2 hkeys
    | error error => exact ⟨error, rfl, (refused_of_readAll hread).imp_right And.right⟩

/-- Keys of which two have the same text, and two are the keys of a map that notes a pair. -/
def sameTextPairs : List (Datum × Datum) :=
  [(.int 1, .text "a"), (.text "1", .bytes [0xFF]), (.text "key", .null), (.text "value", .int 5)]

/-- The pairs of `sameTextPairs`, each noted in one way or the other. -/
def sameTextItems : List Datum :=
  [.list [.int 1, .text "a"], .map [(.text "value", .bytes [0xFF]), (.text "key", .text "1")],
    .map [(.text "key", .text "key"), (.text "value", .null)], .list [.text "value", .int 5]]

theorem sameTextItems_agree :
    List.Forall₂ Notes sameTextItems sameTextPairs ∧ KeysDiffer sameTextPairs ∧
      (∀ pair ∈ sameTextPairs, pair.1.Prints (some 4300)) ∧
      readAll (.list sameTextItems) (some 4300) = readAll (.ofPairs sameTextPairs) (some 4300) ∧
      (readAll (.list sameTextItems) (some 4300)).map (·.map Header.key) =
        .ok ["1", "1", "key", "value"] := by
  have hitems : List.Forall₂ Notes sameTextItems sameTextPairs :=
    .cons (.pair _ _) (.cons (.map (.swap _ _ _)) (.cons (.map (.refl _)) (.cons (.pair _ _) .nil)))
  have hkeys : KeysDiffer sameTextPairs := by
    simp [KeysDiffer, sameTextPairs, Datum.agrees, Datum.number?, Datum.octets?, Datum.bothEqual]
  have hprints : ∀ pair ∈ sameTextPairs, pair.1.Prints (some 4300) := by
    rintro pair hpair most ⟨⟩
    revert pair
    decide
  obtain ⟨headers, hcarries, hlist, hmap⟩ := (notations_agree (some 4300)).2.2.1 _ hprints
  refine ⟨hitems, hkeys, hprints, (hlist _ hitems).trans (hmap hkeys).symm, by decide⟩

end Header

end TableLayout
