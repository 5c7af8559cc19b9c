import Mathlib.Logic.Relation
import TableLayout.Proofs.Datum.Entries
import TableLayout.Proofs.Schema.Lawful

/-!
# The order of entries

The entries of a map may come in any order. Wherever a description holds maps that describe schemas
or fields, another order of their entries makes another description, of the same schema.

- `Schema.Reorders`: a description with the entries of one of its maps in another order, at any
  depth. Any number of its maps are reordered along `Relation.ReflTransGen`.
- `Datum.find?_eq_of_perm`: what is found under a key does not depend on the order.
- `Schema.FoundAlike`, `Schema.EntriesAlike`: what is found under a key, and all that is read of the
  entries of a map, gives the same schemas.
- `Schema.find?_fieldSpec`, `Schema.keys_fieldSpec`: the entries of a field without its name.
- `Schema.EntriesAlike.describes`, `Schema.EntriesAlike.fieldDescribed`: such entries describe the
  same schema and the same field.
- `Schema.entriesAlike_of_reorders`: reordering changes nothing that is read.
- `Schema.read_eq_ok_iff_of_reorders`: the order of entries does not matter.
-/

namespace TableLayout

/-! ## Lookups -/

namespace Datum

/-- With distinct keys, what a key leads to is what stands in an entry with it. -/
theorem find?_eq_some_iff {entries : List (Datum × Datum)}
    (hdistinct : (entries.map Prod.fst).Nodup) {name : String} {d : Datum} :
    find? entries name = some d ↔ (.text name, d) ∈ entries :=
  ⟨mem_of_find?, find?_eq_some_of_mem hdistinct⟩

/-- What is found under a key does not depend on the order of entries with distinct keys. -/
theorem find?_eq_of_perm {entries entries' : List (Datum × Datum)}
    (hdistinct : (entries.map Prod.fst).Nodup) (hperm : entries.Perm entries') (name : String) :
    find? entries name = find? entries' name := by
  have hdistinct' : (entries'.map Prod.fst).Nodup := (hperm.map Prod.fst).nodup_iff.mp hdistinct
  refine Option.ext fun d => ?_
  rw [find?_eq_some_iff hdistinct, find?_eq_some_iff hdistinct', hperm.mem_iff]

/-- Without an entry, its key leads nowhere, and all others to where they did. -/
theorem find?_without (entries : List (Datum × Datum)) (dropped name : String) :
    find? (without entries dropped) name =
      if name = dropped then none else find? entries name := by
  rw [find?, without, List.find?_filter]
  by_cases hname : name = dropped
  · subst hname
    simp
  · -- An entry with the one key does not have the other.
    have htest : ∀ key : Datum,
        decide ((!key.isText dropped) = true ∧ key.isText name = true) = key.isText name := by
      intro key
      cases hfound : key.isText name with
      | false => simp
      | true =>
        rw [isText_iff.mp hfound]
        simpa [isText] using hname
    simp only [htest]
    rw [if_neg hname]
    rfl

end Datum

namespace Schema

open Datum (find?)

/-! ## Reorderings -/

/-- The keys under which the description of a part, or of the schema of a field, stands. -/
def partKeys : List String :=
  ["keys", "items", "values", "schema"]

/-- A description with the entries of one of its maps in another order: of its own map, of one that
describes a part of it, or of an item among its fields, and so on at any depth. -/
inductive Reorders : Datum → Datum → Prop where
  | here {entries entries' : List (Datum × Datum)} (hdistinct : (entries.map Prod.fst).Nodup)
      (hperm : entries.Perm entries') : Reorders (.map entries) (.map entries')
  | part {before after : List (Datum × Datum)} {name : String} {part part' : Datum}
      (hname : name ∈ partKeys) (h : Reorders part part') :
      Reorders (.map (before ++ (.text name, part) :: after))
        (.map (before ++ (.text name, part') :: after))
  | field {before after : List (Datum × Datum)} {front back : List Datum} {item item' : Datum}
      (h : Reorders item item') :
      Reorders (.map (before ++ (.text "fields", .list (front ++ item :: back)) :: after))
        (.map (before ++ (.text "fields", .list (front ++ item' :: back)) :: after))

/-! ## What is read -/

/-- What is found under a key in two maps gives the same schemas. -/
inductive FoundAlike (name : String) : Option Datum → Option Datum → Prop where
  | same (found : Option Datum) : FoundAlike name found found
  | part {part part' : Datum} (hname : name ∈ partKeys) (hpart : part.notNull? = some part)
      (hpart' : part'.notNull? = some part')
      (h : ∀ schema, read part = .ok schema ↔ read part' = .ok schema) :
      FoundAlike name (some part) (some part')
  | fields {items items' : List Datum} (hname : name = "fields")
      (h : ∀ fields, readFields 0 items = .ok fields ↔ readFields 0 items' = .ok fields) :
      FoundAlike name (some (.list items)) (some (.list items'))

namespace FoundAlike

variable {name : String} {found found' : Option Datum}

theorem symm (h : FoundAlike name found found') : FoundAlike name found' found := by
  cases h with
  | same => exact .same _
  | part hname hpart hpart' h => exact .part hname hpart' hpart fun schema => (h schema).symm
  | fields hname h => exact .fields hname fun fields => (h fields).symm

/-- Under most keys the very same is found. -/
theorem eq (h : FoundAlike name found found') (hother : name ∉ "fields" :: partKeys) :
    found = found' := by
  cases h with
  | same => rfl
  | part hname => exact absurd (List.mem_cons_of_mem _ hname) hother
  | fields hname => exact absurd (hname ▸ List.mem_cons_self) hother

/-- A value is found on both sides or on neither. -/
theorem isSome_eq (h : FoundAlike name found found') : found.isSome = found'.isSome := by
  cases h <;> rfl

/-- Lists of fields that are found alike are read as the same fields. -/
theorem readFieldList_eq_ok_iff (h : FoundAlike "fields" found found') {fields : List Field} :
    readFieldList found = .ok fields ↔ readFieldList found' = .ok fields := by
  cases h with
  | same => rfl
  | part hname => exact absurd hname (by decide)
  | fields _ h => rw [readFieldList_list, readFieldList_list, h]

/-- Descriptions of parts that are found alike are read as the same schema. -/
theorem readPart_eq_ok_iff (h : FoundAlike name found found') (hname : name ≠ "fields")
    {part : Option Schema} : readPart found = .ok part ↔ readPart found' = .ok part := by
  cases h with
  | same => rfl
  | part _ _ _ h => simp only [readPart_some, map_eq_ok_iff, h]
  | fields hfields => exact absurd hfields hname

/-- The description of an element is looked for under two keys. -/
theorem or {items items' values values' : Option Datum} (hitems : FoundAlike "items" items items')
    (hvalues : FoundAlike "values" values values') :
    FoundAlike "items" ((items.or values).bind Datum.notNull?)
      ((items'.or values').bind Datum.notNull?) := by
  cases hitems with
  | fields hname => exact absurd hname (by decide)
  | part hname hpart hpart' h =>
    rw [Option.some_or, Option.some_or, Option.bind_some, Option.bind_some, hpart, hpart']
    exact .part hname hpart hpart' h
  -- Here the entries under `items` are one value; only if there is none, `values` decides.
  | same =>
    cases items with
    | some part => exact .same _
    | none =>
      cases hvalues with
      | same => exact .same _
      | fields hname => exact absurd hname (by decide)
      | part _ hpart hpart' h =>
        rw [Option.none_or, Option.none_or, Option.bind_some, Option.bind_some, hpart, hpart']
        exact .part (by decide) hpart hpart' h

end FoundAlike

/-- The entries of two maps have the same keys, up to their order, and what is found under each key
gives the same schemas. -/
structure EntriesAlike (entries entries' : List (Datum × Datum)) : Prop where
  keys : (entries.map Prod.fst).Perm (entries'.map Prod.fst)
  found : ∀ name, FoundAlike name (find? entries name) (find? entries' name)

variable {entries entries' : List (Datum × Datum)}

theorem EntriesAlike.symm (h : EntriesAlike entries entries') : EntriesAlike entries' entries :=
  ⟨h.keys.symm, fun name => (h.found name).symm⟩

/-! ## Schemas -/

/-- The keys pass exactly if none of them is surplus. -/
theorem checkKeys_eq_ok_iff :
    checkKeys entries = .ok () ↔ Datum.surplusKeys specKeys entries = [] := by
  unfold checkKeys
  split
  · next hkeys => simp [hkeys]
  · next hkeys =>
    refine iff_of_false (fun h => ?_) hkeys
    split at h <;> cases h

/-- There is a type exactly if a text under its key spells one. -/
theorem readType_eq_ok_iff {typed : ValueType × Bool} :
    readType entries = .ok typed ↔
      ∃ spec, find? entries "type" = some (.text spec) ∧ Shorthand.type spec = .ok typed := by
  unfold readType
  split
  · next hnone => simp [hnone]
  · next spec hspec => simp [hspec]
  · next value hvalue hfound =>
    simp only [hfound, Option.some.injEq, reduceCtorEq, false_iff]
    rintro ⟨spec, rfl, -⟩
    exact hvalue spec rfl

section Alike

variable (h : EntriesAlike entries entries')
include h

/-- Apart from fields and parts, keys lead to the very same values. -/
theorem EntriesAlike.find?_eq {name : String} (hother : name ∉ "fields" :: partKeys) :
    find? entries name = find? entries' name :=
  (h.found name).eq hother

/-- The same for keys with null in place of nothing. -/
theorem EntriesAlike.get_eq {name : String} (hother : name ∉ "fields" :: partKeys) :
    Datum.get entries name = Datum.get entries' name := by
  rw [Datum.get, Datum.get, h.find?_eq hother]

/-- The element of a list is found alike under both of its names. -/
theorem EntriesAlike.element?_alike : FoundAlike "items" (element? entries) (element? entries') :=
  (h.found "items").or (h.found "values")

/-- Entries that are read alike describe the same schemas. -/
theorem EntriesAlike.describes {schema : Schema} (hdescribes : Describes entries schema) :
    Describes entries' schema where
  keys := by
    have hkeys := checkKeys_eq_ok_iff.mp hdescribes.keys
    have hperm : (Datum.surplusKeys specKeys entries).Perm (Datum.surplusKeys specKeys entries') :=
      h.keys.filter _
    rw [hkeys] at hperm
    exact checkKeys_eq_ok_iff.mpr hperm.nil_eq.symm
  type := by
    obtain ⟨marked, htype, hoptional⟩ := hdescribes.type
    refine ⟨marked, ?_, ?_⟩
    · rw [readType_eq_ok_iff, ← h.find?_eq (by decide)]
      exact readType_eq_ok_iff.mp htype
    · rw [hoptional, readOptional, readOptional, h.find?_eq (by decide)]
  fields := (h.found "fields").readFieldList_eq_ok_iff.mp hdescribes.fields
  key := ((h.found "keys").readPart_eq_ok_iff (by decide)).mp hdescribes.key
  element := by
    rw [checkElement, ← (h.found "items").isSome_eq, ← (h.found "values").isSome_eq]
    exact hdescribes.element
  value := (h.element?_alike.readPart_eq_ok_iff (by decide)).mp hdescribes.value
  default := by rw [hdescribes.default, h.get_eq (by decide)]
  name := by rw [hdescribes.name, h.get_eq (by decide)]
  version := by rw [hdescribes.version, h.get_eq (by decide)]
  doc := by rw [hdescribes.doc, h.get_eq (by decide)]
  checked := hdescribes.checked

end Alike

/-- Entries that are alike describe the same schemas. -/
theorem EntriesAlike.readEntries_eq_ok_iff (h : EntriesAlike entries entries') {schema : Schema} :
    readEntries entries = .ok schema ↔ readEntries entries' = .ok schema := by
  rw [Schema.readEntries_eq_ok_iff, Schema.readEntries_eq_ok_iff]
  exact ⟨h.describes, h.symm.describes⟩

/-! ## Fields -/

/-- What is found among the entries of a field without its name: the logical name has taken the
place of the name, and all else is as it was. -/
theorem find?_fieldSpec (entries : List (Datum × Datum)) (name : String) :
    find? (fieldSpec entries) name =
      if name = "name" then find? entries "logical"
      else if name = "logical" then none else find? entries name := by
  -- Removing the name of the field does not touch what stands under `logical`.
  have hlogical : find? (Datum.without entries "name") "logical" = find? entries "logical" := by
    rw [Datum.find?_without, if_neg (by decide)]
  unfold fieldSpec
  simp only [hlogical]
  split
  · next logical hfound =>
    rw [Datum.find?_append, Datum.find?_without, Datum.find?_without, Datum.find?_cons,
      Datum.find?_nil, hfound]
    by_cases hname : name = "name"
    · subst hname
      rfl
    · have hother : ¬(Datum.text "name").isText name = true :=
        fun htext => hname (Datum.text.inj (Datum.isText_iff.mp htext)).symm
      rw [if_neg hname, if_neg hname, if_neg hother, Option.or_none]
  · next hfound =>
    rw [Datum.find?_without, hfound]
    by_cases hname : name = "logical"
    · subst hname
      rw [hfound, if_pos rfl]
    · rw [if_neg hname]

/-- The keys of a field without its name. -/
theorem keys_fieldSpec (entries : List (Datum × Datum)) :
    (fieldSpec entries).map Prod.fst =
      if (find? entries "logical").isSome then
        ((entries.map Prod.fst).filter fun key => !key.isText "name").filter
          (fun key => !key.isText "logical") ++ [.text "name"]
      else (entries.map Prod.fst).filter fun key => !key.isText "name" := by
  have hlogical : find? (Datum.without entries "name") "logical" = find? entries "logical" := by
    rw [Datum.find?_without, if_neg (by decide)]
  unfold fieldSpec
  simp only [hlogical]
  cases find? entries "logical" with
  | none => simp [Datum.without, List.filter_map, Function.comp_def]
  | some logical => simp [Datum.without, List.filter_map, Function.comp_def]

section Alike

variable (h : EntriesAlike entries entries')
include h

/-- What is left of the description of a field without its name is alike as well. -/
theorem EntriesAlike.fieldSpec : EntriesAlike (fieldSpec entries) (fieldSpec entries') where
  keys := by
    rw [keys_fieldSpec, keys_fieldSpec, (h.found "logical").isSome_eq]
    have hrest := h.keys.filter fun key => !key.isText "name"
    split
    · exact (hrest.filter _).append_right _
    · exact hrest
  found := by
    intro name
    have hlogical : find? entries "logical" = find? entries' "logical" :=
      h.find?_eq (by decide)
    rw [find?_fieldSpec, find?_fieldSpec, hlogical]
    split
    · exact .same _
    · split
      · exact .same _
      · exact h.found name

/-- Entries that are read alike describe the same fields. -/
theorem EntriesAlike.fieldDescribed {name : String} {part : Datum}
    (hitem : FieldDescribed (.map entries) name part) :
    ∃ part', FieldDescribed (.map entries') name part' ∧
      ∀ schema, read part = .ok schema ↔ read part' = .ok schema := by
  -- Both descriptions have a `schema` or neither has, as `hfound` says of the entries.
  have hfound := h.fieldSpec.found "schema"
  cases hitem with
  | whole hname hne hpart halone =>
    rw [h.find?_eq (by decide)] at hname
    have hlength : (Schema.fieldSpec entries').length = 1 := by
      rw [← halone]
      simpa using h.fieldSpec.keys.length_eq.symm
    rw [hpart] at hfound
    generalize hpart' : find? (Schema.fieldSpec entries') "schema" = found at hfound
    cases hfound with
    | same => exact ⟨part, .whole hname hne hpart' hlength, fun _ => .rfl⟩
    | part _ _ _ hread => exact ⟨_, .whole hname hne hpart' hlength, hread⟩
    | fields hfields => exact absurd hfields (by decide)
  | spread hname hne hnone =>
    rw [h.find?_eq (by decide)] at hname
    rw [hnone] at hfound
    generalize hnone' : find? (Schema.fieldSpec entries') "schema" = found at hfound
    cases hfound with
    | same =>
      refine ⟨_, .spread hname hne hnone', fun schema => ?_⟩
      rw [read_map, read_map]
      exact h.fieldSpec.readEntries_eq_ok_iff

end Alike

/-- A field is read from the one description if it is read from the other. -/
theorem EntriesAlike.readField_eq_ok (h : EntriesAlike entries entries') {index : Nat}
    {field : Field} (hread : readField index (.map entries) = .ok field) :
    readField index (.map entries') = .ok field := by
  cases readField_eq_ok_iff.mp hread with
  | described hitem hpart =>
    obtain ⟨part', hitem', hparts⟩ := h.fieldDescribed hitem
    exact readField_eq_ok_iff.mpr (.described hitem' ((hparts _).mp hpart))

theorem EntriesAlike.readField_eq_ok_iff (h : EntriesAlike entries entries') {index : Nat}
    {field : Field} :
    readField index (.map entries) = .ok field ↔ readField index (.map entries') = .ok field :=
  ⟨h.readField_eq_ok, h.symm.readField_eq_ok⟩

/-- Items that give the same fields may stand for each other in a list of fields. -/
theorem readFields_eq_ok_iff_of_item {item item' : Datum}
    (h : ∀ index field, readField index item = .ok field ↔ readField index item' = .ok field)
    (front back : List Datum) (index : Nat) (fields : List Field) :
    readFields index (front ++ item :: back) = .ok fields ↔
      readFields index (front ++ item' :: back) = .ok fields := by
  induction front generalizing index fields with
  | nil =>
    simp only [List.nil_append, readFields, bind_eq_ok_iff, h]
  | cons first front ih =>
    simp only [List.cons_append, readFields, bind_eq_ok_iff, ih]

/-! ## Reordered descriptions -/

/-- The order of entries with distinct keys does not matter to what is found. -/
theorem entriesAlike_of_perm (hdistinct : (entries.map Prod.fst).Nodup)
    (hperm : entries.Perm entries') : EntriesAlike entries entries' where
  keys := hperm.map Prod.fst
  found := by
    intro name
    rw [Datum.find?_eq_of_perm hdistinct hperm]
    exact .same _

/-- A value may be replaced under its key by one that is read alike. -/
theorem entriesAlike_of_value {key : String} {value value' : Datum}
    (h : FoundAlike key (some value) (some value')) (before after : List (Datum × Datum)) :
    EntriesAlike (before ++ (.text key, value) :: after)
      (before ++ (.text key, value') :: after) where
  keys := by simp
  found := by
    intro name
    simp only [Datum.find?_append, Datum.find?_cons]
    -- An earlier entry under the same name hides the value that differs.
    cases find? before name with
    | some found => exact .same _
    | none =>
      by_cases hname : (Datum.text key).isText name = true
      · obtain rfl := Datum.text.inj (Datum.isText_iff.mp hname)
        rw [if_pos hname, if_pos hname]
        exact h
      · rw [if_neg hname, if_neg hname]
        exact .same _

/-- Wherever a map is reordered, nothing else is read of the whole. -/
theorem entriesAlike_of_reorders {spec spec' : Datum} (h : Reorders spec spec') :
    ∃ entries entries', spec = .map entries ∧ spec' = .map entries' ∧
      EntriesAlike entries entries' := by
  induction h with
  | here hdistinct hperm => exact ⟨_, _, rfl, rfl, entriesAlike_of_perm hdistinct hperm⟩
  | part hname _ ih =>
    obtain ⟨entries, entries', rfl, rfl, halike⟩ := ih
    refine ⟨_, _, rfl, rfl, entriesAlike_of_value (.part hname rfl rfl fun schema => ?_) _ _⟩
    rw [read_map, read_map]
    exact halike.readEntries_eq_ok_iff
  | field _ ih =>
    obtain ⟨entries, entries', rfl, rfl, halike⟩ := ih
    refine ⟨_, _, rfl, rfl, entriesAlike_of_value (.fields rfl fun fields => ?_) _ _⟩
    exact readFields_eq_ok_iff_of_item (fun _ _ => halike.readField_eq_ok_iff) _ _ 0 fields

/-- One change of order does not change what is read. -/
theorem Reorders.read_eq_ok_iff {spec spec' : Datum} (h : Reorders spec spec') {schema : Schema} :
    read spec = .ok schema ↔ read spec' = .ok schema := by
  obtain ⟨entries, entries', rfl, rfl, halike⟩ := entriesAlike_of_reorders h
  rw [read_map, read_map]
  exact halike.readEntries_eq_ok_iff

/-- However the entries of the maps in a description are ordered that describe schemas and fields,
at any depth, the same schema is read, or none. -/
theorem read_eq_ok_iff_of_reorders {spec spec' : Datum}
    (h : Relation.ReflTransGen Reorders spec spec') (schema : Schema) :
    read spec = .ok schema ↔ read spec' = .ok schema := by
  induction h with
  | refl => rfl
  | tail _ hstep ih => exact ih.trans hstep.read_eq_ok_iff

/-- The description of a struct, with its own entries and those of its second field turned round. -/
def turnedDescription : Datum :=
  .map [(.text "type", .text "struct"), (.text "fields", .list [
      .text " id: INT64",
      .map [(.text "name", .text "amount"), (.text "type", .text "bytes?"),
        (.text "logical", .text "Decimal")]])]

theorem read_turnedDescription :
    Relation.ReflTransGen Reorders lineDescription turnedDescription ∧
      (read lineDescription = .ok lineSchema ↔ read turnedDescription = .ok lineSchema) ∧
      read turnedDescription = .ok lineSchema := by
  -- The map of the second field first, then that of the struct.
  have hfield : Reorders lineDescription _ :=
    @Reorders.field [] [(.text "type", .text "struct")] [.text " id: INT64"] [] _
      (.map [(.text "name", .text "amount"), (.text "type", .text "bytes?"),
        (.text "logical", .text "Decimal")])
      (.here (by simp) (List.reverse_perm _).symm)
  have hreorders : Relation.ReflTransGen Reorders lineDescription turnedDescription :=
    .tail (.single hfield) (.here (by simp) (List.reverse_perm _).symm)
  have hiff := read_eq_ok_iff_of_reorders hreorders lineSchema
  exact ⟨hreorders, hiff, hiff.mp read_lineDescription⟩

end Schema

end TableLayout
