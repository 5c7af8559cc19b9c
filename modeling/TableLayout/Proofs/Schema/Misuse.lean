import TableLayout.Proofs.Schema.Reading

/-!
# Descriptions that cannot be reported on

Whatever is wrong with a description is reported, but for one thing: keys that no schema has are
listed in the report, and keys that are no texts cannot be listed.

- `Datum.exists_keyNames_eq_error_iff`: keys cannot be listed exactly if one of them is no text.
- `Schema.Reports`: a step fails, if at all, with a report.
- `Schema.ComesTo`, `Schema.Reaches`: reading comes to a description that stands right in another
  one, or at any depth of it, with all accepted that is read before.
- `Schema.readEntries_eq_error_iff`, `Schema.read_eq_error_iff`: where reading goes wrong without a
  report.
- `Schema.exists_misuse_iff`: it does so exactly if it reaches a map with a key that is no text.
- `Datum.TextKeyed`, `Schema.reports_read`: whatever is wrong with a description whose keys are
  texts at every depth is reported.
-/

namespace TableLayout

namespace Datum

/-! ## Keys that are texts -/

mutual

/-- All keys of maps are texts, at every depth. -/
def TextKeyed : Datum → Prop
  | .list ds | .tuple ds | .set ds => ItemsTextKeyed ds
  | .map es => EntriesTextKeyed es
  | _ => True

/-- All keys of maps in these values are texts. -/
def ItemsTextKeyed : List Datum → Prop
  | [] => True
  | d :: ds => d.TextKeyed ∧ ItemsTextKeyed ds

/-- All keys of these entries are texts, and so are those of maps in their values. -/
def EntriesTextKeyed : List (Datum × Datum) → Prop
  | [] => True
  | (k, v) :: es => (k.text?.isSome = true ∧ v.TextKeyed) ∧ EntriesTextKeyed es

end

/-- A list has texts as keys throughout exactly if all of its items do. -/
theorem textKeyed_list_iff {ds : List Datum} :
    (Datum.list ds).TextKeyed ↔ ∀ d ∈ ds, d.TextKeyed := by
  rw [TextKeyed]
  induction ds with
  | nil => simp [ItemsTextKeyed]
  | cons d ds ih => rw [ItemsTextKeyed, ih, List.forall_mem_cons]

/-- A map has texts as keys throughout exactly if its own keys are texts and all of its values do.
-/
theorem textKeyed_map_iff {es : List (Datum × Datum)} :
    (Datum.map es).TextKeyed ↔ ∀ k v, (k, v) ∈ es → k.text?.isSome = true ∧ v.TextKeyed := by
  rw [TextKeyed]
  induction es with
  | nil => simp [EntriesTextKeyed]
  | cons entry es ih =>
    obtain ⟨k, v⟩ := entry
    rw [EntriesTextKeyed, ih]
    simp only [List.mem_cons, Prod.mk.injEq]
    constructor
    · rintro ⟨hfirst, hrest⟩ k' v' (⟨rfl, rfl⟩ | hentry)
      · exact hfirst
      · exact hrest k' v' hentry
    · intro h
      exact ⟨h k v (.inl ⟨rfl, rfl⟩), fun k' v' hentry => h k' v' (.inr hentry)⟩

/-- What stands in a map with texts as keys has texts as keys. -/
theorem TextKeyed.find? {es : List (Datum × Datum)} (h : (Datum.map es).TextKeyed) {name : String}
    {d : Datum} (hfound : Datum.find? es name = some d) : d.TextKeyed :=
  (textKeyed_map_iff.mp h _ d (mem_of_find? hfound)).2

/-- So does what a key leads to, or null in its place. -/
theorem TextKeyed.get {es : List (Datum × Datum)} (h : (Datum.map es).TextKeyed) (name : String) :
    (Datum.get es name).TextKeyed := by
  unfold Datum.get
  cases hfound : Datum.find? es name with
  | none => trivial
  | some d => exact h.find? hfound

/-! ## Keys that cannot be listed -/

/-- Keys cannot be named exactly if one of them is no text. -/
theorem exists_keyNames_eq_error_iff {keys : List Datum} :
    (∃ fault, keyNames keys = .error fault) ↔ ∃ key ∈ keys, key.text? = none := by
  unfold keyNames
  rw [List.partition_eq_filter_filter]
  simp only
  split
  · next hothers => simpa using hothers
  · next hothers => simpa using hothers

/-- A key that is no text is always one too many. -/
theorem exists_surplusKeys_iff {allowed : List String} {entries : List (Datum × Datum)} :
    (∃ key ∈ surplusKeys allowed entries, key.text? = none) ↔
      ∃ entry ∈ entries, entry.1.text? = none := by
  constructor
  · rintro ⟨key, hkey, htext⟩
    obtain ⟨entry, hentry, rfl⟩ := List.mem_map.mp (List.mem_filter.mp hkey).1
    exact ⟨entry, hentry, htext⟩
  · rintro ⟨entry, hentry, htext⟩
    refine ⟨entry.1, List.mem_filter.mpr ⟨List.mem_map_of_mem hentry, ?_⟩, htext⟩
    simp only [Bool.not_eq_true', List.any_eq_false, isText_iff]
    intro name _ hname
    rw [hname] at htext
    cases htext

end Datum

namespace Schema

open Datum (find? depthEntries depthItems)

/-! ## Steps that only report -/

/-- A step fails, if at all, with a report. -/
def Reports {α : Type} (x : Except SchemaError α) : Prop :=
  ∀ error, x = .error error → error.isMisuse = false

theorem Reports.of_error {α : Type} {error : SchemaError} (h : error.isMisuse = false) :
    Reports (.error error : Except SchemaError α) := by
  rintro _ ⟨⟩
  exact h

theorem Reports.map {α β : Type} {x : Except SchemaError α} {f : α → β} (h : Reports x) :
    Reports (f <$> x) := by
  cases x with
  | ok a => exact nofun
  | error error => exact .of_error (h error rfl)

/-- A misuse is no report, so no step that only reports ends in it. -/
theorem Reports.ne {α : Type} {x : Except SchemaError α} (h : Reports x) {error : SchemaError}
    (hmisuse : error.isMisuse = true) : x ≠ .error error := by
  intro hx
  rw [h error hx] at hmisuse
  cases hmisuse

/-- A text that spells no type is reported, never misused. -/
theorem reports_type (spec : String) : Reports (Shorthand.type spec) := by
  unfold Shorthand.type
  split
  split
  · split
    · exact nofun
    · exact .of_error rfl
  · exact .of_error rfl

/-- So is a text that spells no field. -/
theorem reports_field (entry : String) : Reports (Shorthand.field entry) := by
  unfold Shorthand.field
  split
  · exact (reports_type _).map
  · exact .of_error rfl

/-- A missing or unknown type is reported. -/
theorem reports_readType (entries : List (Datum × Datum)) : Reports (readType entries) := by
  unfold readType
  split
  · exact .of_error rfl
  · exact reports_type _
  · exact .of_error rfl

/-- A description with two names for the elements is reported. -/
theorem reports_checkElement (entries : List (Datum × Datum)) : Reports (checkElement entries) := by
  unfold checkElement
  split
  · exact .of_error rfl
  · exact nofun

/-- Fields of one name, or parts that do not fit the type, are reported. -/
theorem reports_check (schema : Schema) : Reports schema.check := by
  unfold check
  split
  · exact .of_error rfl
  · split
    · exact nofun
    · exact .of_error rfl

/-! ## Where reading goes wrong without a report -/

section Misuse

variable {error : SchemaError} (hmisuse : error.isMisuse = true)
include hmisuse

/-- The check of the keys is misused exactly if the surplus keys cannot be named. -/
theorem checkKeys_eq_error_iff {entries : List (Datum × Datum)} :
    checkKeys entries = .error error ↔
      ∃ fault, Datum.keyNames (Datum.surplusKeys specKeys entries) = .error fault ∧
        error = .unlistableKeys fault := by
  unfold checkKeys
  split
  · next hkeys =>
    rw [hkeys]
    exact ⟨nofun, fun ⟨fault, h, _⟩ => nomatch h⟩
  · split
    · next hnames =>
      rw [hnames]
      exact ⟨fun h => absurd h (Reports.ne (.of_error rfl) hmisuse), fun ⟨fault, h, _⟩ => nomatch h⟩
    · next hfault =>
      rw [hfault]
      simp [eq_comm]

/-- Then one of the keys is no text. -/
theorem exists_notText_of_checkKeys {entries : List (Datum × Datum)}
    (h : checkKeys entries = .error error) : ∃ entry ∈ entries, entry.1.text? = none := by
  obtain ⟨fault, hfault, -⟩ := (checkKeys_eq_error_iff hmisuse).mp h
  exact Datum.exists_surplusKeys_iff.mp (Datum.exists_keyNames_eq_error_iff.mp ⟨fault, hfault⟩)

/-- A field is misused exactly if its description of a schema is. -/
theorem readField_eq_error_iff {index : Nat} {item : Datum} :
    readField index item = .error error ↔
      ∃ name part, FieldDescribed item name part ∧ read part = .error error := by
  constructor
  · intro h
    cases fieldShape index item with
    | short entry =>
      rw [readField] at h
      exact absurd h ((reports_field entry).map.ne hmisuse)
    | described hitem =>
      rw [hitem.readField_eq] at h
      exact ⟨_, _, hitem, map_eq_error_iff.mp h⟩
    | refused herror hreport =>
      rw [herror] at h
      exact absurd h (Reports.ne (.of_error hreport) hmisuse)
  · rintro ⟨name, part, hitem, hpart⟩
    rw [hitem.readField_eq, hpart]
    rfl

/-- A list of fields is misused at its first field that is. -/
theorem readFields_eq_error_iff {items : List Datum} :
    readFields 0 items = .error error ↔
      ∃ before item after fields name part, items = before ++ item :: after ∧
        readFields 0 before = .ok fields ∧ FieldDescribed item name part ∧
        read part = .error error := by
  simp only [readFields_eq_mapM]
  rw [mapM_eq_error_iff]
  constructor
  · rintro ⟨before, ⟨item, index⟩, after, hsplit, hbefore, hitem⟩
    -- A split of the items that carry their places is one of the items.
    obtain ⟨front, rest, rfl, rfl, hrest⟩ := List.zipIdx_eq_append_iff.mp hsplit
    obtain ⟨item', back, rfl, hitem', -⟩ := List.zipIdx_eq_cons_iff.mp hrest.symm
    obtain ⟨rfl, -⟩ := Prod.mk.inj hitem'
    obtain ⟨fields, hfields⟩ := exists_mapM_eq_ok_iff.mpr hbefore
    obtain ⟨name, part, hdescribed, hpart⟩ := (readField_eq_error_iff hmisuse).mp hitem
    exact ⟨front, item, back, fields, name, part, rfl, hfields, hdescribed, hpart⟩
  · rintro ⟨before, item, after, fields, name, part, rfl, hbefore, hitem, hpart⟩
    rw [List.zipIdx_append, List.zipIdx_cons]
    exact ⟨_, _, _, rfl, exists_mapM_eq_ok_iff.mp ⟨fields, hbefore⟩,
      (readField_eq_error_iff hmisuse).mpr ⟨name, part, hitem, hpart⟩⟩

/-- Only a list of fields can be misused; anything else in its place is reported. -/
theorem readFieldList_eq_error_iff {value? : Option Datum} :
    readFieldList value? = .error error ↔
      ∃ items, value? = some (.list items) ∧ readFields 0 items = .error error := by
  cases value? with
  | none => simp
  | some value =>
    cases value with
    | list items => simp [readFieldList_list]
    | _ =>
      rw [readFieldList]
      · constructor
        · intro h
          exact absurd h (Reports.ne (.of_error rfl) hmisuse)
        · rintro ⟨_, h, -⟩
          cases h
      · simp

omit hmisuse in
/-- A part is misused exactly if there is one and its description is. -/
theorem readPart_eq_error_iff {value? : Option Datum} :
    readPart value? = .error error ↔ ∃ part, value? = some part ∧ read part = .error error := by
  cases value? with
  | none => simp
  | some part => simp [readPart_some, map_eq_error_iff]

end Misuse

/-! ## Descriptions that are reached -/

/-- Reading the entries of a map comes to the description of the schema of a field, of the keys or
of the elements, with all accepted that is read before. -/
inductive ComesTo (entries : List (Datum × Datum)) : Datum → Prop where
  | field {typed : ValueType × Bool} {before after : List Datum} {item part : Datum}
      {fields : List Field} {name : String} (hkeys : checkKeys entries = .ok ())
      (htype : readType entries = .ok typed)
      (hlist : find? entries "fields" = some (.list (before ++ item :: after)))
      (hbefore : readFields 0 before = .ok fields) (hitem : FieldDescribed item name part) :
      ComesTo entries part
  | key {typed : ValueType × Bool} {fields : List Field} {part : Datum}
      (hkeys : checkKeys entries = .ok ()) (htype : readType entries = .ok typed)
      (hfields : readFieldList (find? entries "fields") = .ok fields)
      (hpart : find? entries "keys" = some part) : ComesTo entries part
  | element {typed : ValueType × Bool} {fields : List Field} {key : Option Schema} {part : Datum}
      (hkeys : checkKeys entries = .ok ()) (htype : readType entries = .ok typed)
      (hfields : readFieldList (find? entries "fields") = .ok fields)
      (hkey : readPart (find? entries "keys") = .ok key) (honce : checkElement entries = .ok ())
      (hpart : element? entries = some part) : ComesTo entries part

/-- Reading a description comes to the entries of a map: its own or those of a map at any depth of
it, with all accepted that is read before. -/
inductive Reaches : Datum → List (Datum × Datum) → Prop where
  | here (entries : List (Datum × Datum)) : Reaches (.map entries) entries
  | inside {entries reached : List (Datum × Datum)} {part : Datum} (hpart : ComesTo entries part)
      (h : Reaches part reached) : Reaches (.map entries) reached

/-- The schema of a field is described no deeper than the field. -/
theorem FieldDescribed.depth_le {item part : Datum} {name : String}
    (h : FieldDescribed item name part) : part.depth ≤ item.depth := by
  cases h with
  | @whole entries _ _ _ _ hpart _ =>
    calc part.depth
      _ ≤ depthEntries (fieldSpec entries) := Datum.depth_le_of_find? hpart
      _ ≤ depthEntries entries := depthEntries_fieldSpec_le entries
      _ ≤ (Datum.map entries).depth := by rw [Datum.depth]; exact Nat.le_succ _
  | @spread entries =>
    rw [Datum.depth, Datum.depth]
    exact Nat.succ_le_succ (depthEntries_fieldSpec_le entries)

/-- What reading comes to is less deep than where it starts, so reading ends. -/
theorem ComesTo.depth_lt {entries : List (Datum × Datum)} {part : Datum}
    (h : ComesTo entries part) : part.depth < (Datum.map entries).depth := by
  rw [Datum.depth, Nat.lt_succ_iff]
  cases h with
  | @field _ before after item _ _ _ _ _ hlist _ hitem =>
    have hmem : item ∈ before ++ item :: after := List.mem_append_cons_self
    calc part.depth
      _ ≤ item.depth := hitem.depth_le
      _ ≤ depthItems (before ++ item :: after) := Datum.depth_le_depthItems hmem
      _ ≤ (Datum.list (before ++ item :: after)).depth := by rw [Datum.depth]; exact Nat.le_succ _
      _ ≤ depthEntries entries := Datum.depth_le_of_find? hlist
  | key _ _ _ hpart => exact Datum.depth_le_of_find? hpart
  | element _ _ _ _ _ hpart =>
    have hdepth := depth_element?_le entries
    rw [hpart] at hdepth
    exact hdepth

section Misuse

variable {error : SchemaError} (hmisuse : error.isMisuse = true)
include hmisuse

/-- Reading the entries of a map goes wrong without a report if their own keys cannot be listed or
if a description that it comes to does so. -/
theorem readEntries_eq_error_iff {entries : List (Datum × Datum)} :
    readEntries entries = .error error ↔
      checkKeys entries = .error error ∨
        ∃ part, ComesTo entries part ∧ read part = .error error := by
  rw [readEntries]
  constructor
  · intro h
    -- One step of `readEntries` after the other may be the first to fail. The steps that report on
    -- the description are ruled out by `hmisuse`; the others go down into a part.
    rcases bind_eq_error_iff.mp h with hown | ⟨⟨⟩, hkeys, h⟩
    · exact .inl hown
    rcases bind_eq_error_iff.mp h with htype | ⟨typed, htype, h⟩
    · exact absurd htype ((reports_readType entries).ne hmisuse)
    rcases bind_eq_error_iff.mp h with hfields | ⟨fields, hfields, h⟩
    · obtain ⟨items, hlist, hitems⟩ := (readFieldList_eq_error_iff hmisuse).mp hfields
      obtain ⟨before, item, after, fields, name, part, rfl, hbefore, hitem, hpart⟩ :=
        (readFields_eq_error_iff hmisuse).mp hitems
      exact .inr ⟨part, .field hkeys htype hlist hbefore hitem, hpart⟩
    rcases bind_eq_error_iff.mp h with hkey | ⟨key, hkey, h⟩
    · obtain ⟨part, hfound, hpart⟩ := readPart_eq_error_iff.mp hkey
      exact .inr ⟨part, .key hkeys htype hfields hfound, hpart⟩
    rcases bind_eq_error_iff.mp h with honce | ⟨⟨⟩, honce, h⟩
    · exact absurd honce ((reports_checkElement entries).ne hmisuse)
    rcases bind_eq_error_iff.mp h with hvalue | ⟨value, -, hcheck⟩
    · obtain ⟨part, hfound, hpart⟩ := readPart_eq_error_iff.mp hvalue
      exact .inr ⟨part, .element hkeys htype hfields hkey honce hfound, hpart⟩
    · exact absurd hcheck ((reports_check _).ne hmisuse)
  · rintro (hown | ⟨part, hcomes, hpart⟩)
    · rw [hown]
      rfl
    cases hcomes with
    | field hkeys htype hlist hbefore hitem =>
      have hfields : readFieldList (find? entries "fields") = .error error :=
        (readFieldList_eq_error_iff hmisuse).mpr ⟨_, hlist, (readFields_eq_error_iff hmisuse).mpr
          ⟨_, _, _, _, _, _, rfl, hbefore, hitem, hpart⟩⟩
      rw [hkeys, htype, hfields]
      rfl
    | key hkeys htype hfields hfound =>
      rw [hkeys, htype, hfields, readPart_eq_error_iff.mpr ⟨part, hfound, hpart⟩]
      rfl
    | element hkeys htype hfields hkey honce hfound =>
      rw [hkeys, htype, hfields, hkey, honce, readPart_eq_error_iff.mpr ⟨part, hfound, hpart⟩]
      rfl

/-- A misuse comes from a map somewhere inside, whose keys cannot be named. -/
theorem exists_reaches_of_read {spec : Datum} (h : read spec = .error error) :
    ∃ entries, Reaches spec entries ∧ checkKeys entries = .error error := by
  -- By the depth of the description, as what a map comes to need not be one of its values: it can
  -- be put together from the entries of an item among its fields.
  cases hspec : spec with
  | map entries =>
    rw [hspec, read_map] at h
    rcases (readEntries_eq_error_iff hmisuse).mp h with hown | ⟨part, hcomes, hpart⟩
    · exact ⟨entries, .here entries, hown⟩
    · obtain ⟨reached, hreached, hkeys⟩ := exists_reaches_of_read hpart
      exact ⟨reached, .inside hcomes hreached, hkeys⟩
  | text entry =>
    rw [hspec, read] at h
    exact absurd h ((reports_type entry).map.ne hmisuse)
  | _ =>
    rw [hspec, read] at h
    · exact absurd h (Reports.ne (.of_error rfl) hmisuse)
    · simp
    · simp
termination_by spec.depth
decreasing_by exact hspec ▸ hcomes.depth_lt

/-- Reading goes wrong without a report exactly where it reaches a map whose keys it cannot list. -/
theorem read_eq_error_iff {spec : Datum} :
    read spec = .error error ↔
      ∃ entries, Reaches spec entries ∧ checkKeys entries = .error error := by
  refine ⟨exists_reaches_of_read hmisuse, ?_⟩
  rintro ⟨entries, hreached, hkeys⟩
  induction hreached with
  | here entries => rw [read_map, readEntries_eq_error_iff hmisuse]; exact .inl hkeys
  | inside hpart _ ih =>
    rw [read_map, readEntries_eq_error_iff hmisuse]
    exact .inr ⟨_, hpart, ih hkeys⟩

end Misuse

/-- A description ends in an error that is no report on it exactly if reading reaches a map with a
key that is no text. All else is read or reported on. -/
theorem exists_misuse_iff {spec : Datum} :
    (∃ error, read spec = .error error ∧ error.isMisuse = true) ↔
      ∃ entries, Reaches spec entries ∧ ∃ entry ∈ entries, entry.1.text? = none := by
  constructor
  · rintro ⟨error, herror, hmisuse⟩
    obtain ⟨entries, hreached, hkeys⟩ := (read_eq_error_iff hmisuse).mp herror
    exact ⟨entries, hreached, exists_notText_of_checkKeys hmisuse hkeys⟩
  · rintro ⟨entries, hreached, hentry⟩
    have hkey : ∃ key ∈ Datum.surplusKeys specKeys entries, key.text? = none :=
      Datum.exists_surplusKeys_iff.mpr hentry
    obtain ⟨fault, hfault⟩ := Datum.exists_keyNames_eq_error_iff.mpr hkey
    have hmisuse : (SchemaError.unlistableKeys fault).isMisuse = true := rfl
    have hkeys := (checkKeys_eq_error_iff hmisuse).mpr ⟨fault, hfault, rfl⟩
    exact ⟨_, (read_eq_error_iff hmisuse).mpr ⟨entries, hreached, hkeys⟩, hmisuse⟩

/-- A number among the keys of a description ends its reading without a report on it. -/
theorem read_numberKey :
    read (.map [(.text "type", .text "int64"), (.int 1, .text "x")]) =
      .error (.unlistableKeys (.notText .int)) ∧ ¬∀ spec, Reports (read spec) := by
  have hread : read (.map [(.text "type", .text "int64"), (.int 1, .text "x")]) =
      .error (.unlistableKeys (.notText .int)) := by
    rw [read_map, readEntries]
    rfl
  exact ⟨hread, fun h => absurd (h _ _ hread) (by decide)⟩

/-! ## Descriptions whose keys are texts -/

/-- The description that is left of a field keeps its keys. -/
theorem textKeyed_fieldSpec {entries : List (Datum × Datum)}
    (h : (Datum.map entries).TextKeyed) : (Datum.map (fieldSpec entries)).TextKeyed := by
  rw [Datum.textKeyed_map_iff] at h ⊢
  intro k v hentry
  obtain ⟨hkey, k', hvalue⟩ := mem_fieldSpec hentry
  refine ⟨?_, (h k' v hvalue).2⟩
  rcases hkey with rfl | hkey
  · rfl
  · exact (h k v hkey).1

/-- What describes a field's schema is keyed by texts if the item is. -/
theorem FieldDescribed.textKeyed {item part : Datum} {name : String}
    (h : FieldDescribed item name part) (hitem : item.TextKeyed) : part.TextKeyed := by
  cases h with
  | whole _ _ hpart _ => exact (textKeyed_fieldSpec hitem).find? hpart
  | spread _ _ _ => exact textKeyed_fieldSpec hitem

/-- The parts that reading comes to have texts as keys if the whole has. -/
theorem ComesTo.textKeyed {entries : List (Datum × Datum)} {part : Datum}
    (h : ComesTo entries part) (hentries : (Datum.map entries).TextKeyed) : part.TextKeyed := by
  cases h with
  | @field _ before after item _ _ _ _ _ hlist _ hitem =>
    refine hitem.textKeyed (Datum.textKeyed_list_iff.mp (hentries.find? hlist) item ?_)
    exact List.mem_append_cons_self
  | key _ _ _ hpart => exact hentries.find? hpart
  | element _ _ _ _ _ hpart =>
    obtain ⟨name, hfound⟩ := exists_find?_of_element? hpart
    exact hentries.find? hfound

/-- So has every map that is reached. -/
theorem Reaches.textKeyed {spec : Datum} {entries : List (Datum × Datum)}
    (h : Reaches spec entries) (hspec : spec.TextKeyed) : (Datum.map entries).TextKeyed := by
  induction h with
  | here entries => exact hspec
  | inside hpart _ ih => exact ih (hpart.textKeyed hspec)

/-- Whatever is wrong with a description whose keys are texts is reported. -/
theorem reports_read {spec : Datum} (h : spec.TextKeyed) : Reports (read spec) := by
  intro error herror
  by_contra hmisuse
  rw [Bool.not_eq_false] at hmisuse
  obtain ⟨entries, hreached, hkeys⟩ := (read_eq_error_iff hmisuse).mp herror
  obtain ⟨⟨k, v⟩, hentry, htext⟩ := exists_notText_of_checkKeys hmisuse hkeys
  have hisText := (Datum.textKeyed_map_iff.mp (hreached.textKeyed h) k v hentry).1
  rw [htext] at hisText
  cases hisText

end Schema

end TableLayout
