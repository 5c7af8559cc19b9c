import TableLayout.Schema.Shorthand

/-!
# Reading schemas (specification §3.1, `from_dict`)

A schema is described by a type text or by a map of its attributes. Under `fields` stands a list of
fields, each a field text or a map with a `name` and either a whole `schema` or the attributes of
one, where the logical name is given under `logical`. Under `keys`, and under `items` or `values`,
stand the schemas of the parts of a map or an array.

- `Schema.read`: the schema that a value describes, or the first error in it.
- `Schema.readEntries`, `Schema.readFields`, `Schema.readField`: the same for the entries of a map,
  for a list of fields and for one field.
- `Schema.makeStruct`: a struct whose fields are given one by one.
- `Datum.depth`: the depth of nesting, by which reading ends.
-/

namespace TableLayout

namespace Datum

mutual

/-- How deep a value is nested. -/
def depth : Datum → Nat
  | .list ds | .tuple ds | .set ds => depthItems ds + 1
  | .map es => depthEntries es + 1
  | _ => 0

/-- The depth of the deepest of several values. -/
def depthItems : List Datum → Nat
  | [] => 0
  | d :: ds => max d.depth (depthItems ds)

/-- The depth of the deepest value among entries. -/
def depthEntries : List (Datum × Datum) → Nat
  | [] => 0
  | (_, v) :: es => max v.depth (depthEntries es)

end

theorem depth_le_depthEntries {es : List (Datum × Datum)} {k v : Datum} (h : (k, v) ∈ es) :
    v.depth ≤ depthEntries es := by
  induction es with
  | nil => simp at h
  | cons entry es ih =>
    obtain ⟨k', v'⟩ := entry
    rw [depthEntries]
    rcases List.mem_cons.mp h with heq | hmem
    · obtain ⟨rfl, rfl⟩ := Prod.mk.inj heq
      exact Nat.le_max_left ..
    · exact Nat.le_trans (ih hmem) (Nat.le_max_right ..)

theorem depth_le_depthItems {ds : List Datum} {d : Datum} (h : d ∈ ds) :
    d.depth ≤ depthItems ds := by
  induction ds with
  | nil => simp at h
  | cons first ds ih =>
    rw [depthItems]
    rcases List.mem_cons.mp h with rfl | hmem
    · exact Nat.le_max_left ..
    · exact Nat.le_trans (ih hmem) (Nat.le_max_right ..)

theorem depthEntries_le {es : List (Datum × Datum)} {n : Nat}
    (h : ∀ k v, (k, v) ∈ es → v.depth ≤ n) : depthEntries es ≤ n := by
  induction es with
  | nil => simp [depthEntries]
  | cons entry es ih =>
    obtain ⟨k, v⟩ := entry
    rw [depthEntries]
    exact Nat.max_le.mpr ⟨h k v (by simp), ih fun k' v' hmem => h k' v' (by simp [hmem])⟩

theorem depth_le_of_find? {es : List (Datum × Datum)} {name : String} {d : Datum}
    (h : find? es name = some d) : d.depth ≤ depthEntries es :=
  depth_le_depthEntries (mem_of_find? h)

/-- The depth of a value that may be missing. -/
def partDepth : Option Datum → Nat
  | none => 0
  | some d => d.depth

end Datum

namespace Schema

open Datum (find? depthEntries depthItems)

/-- The keys that a description may have. -/
def specKeys : List String :=
  ["type", "optional", "default", "name", "version", "doc", "fields", "keys", "values", "items"]

/-- Passes if a description has no other keys than these. -/
def checkKeys (entries : List (Datum × Datum)) : Except SchemaError Unit :=
  match Datum.surplusKeys specKeys entries with
  | [] => .ok ()
  | keys => match Datum.keyNames keys with
    | .ok names => .error (.surplusKeys names)
    | .error fault => .error (.unlistableKeys fault)

/-- The type that a description gives, and whether it is marked as optional there. -/
def readType (entries : List (Datum × Datum)) : Except SchemaError (ValueType × Bool) :=
  match find? entries "type" with
  | none => .error (.missingType entries)
  | some (.text spec) => Shorthand.type spec
  | some value => .error (.typeNotText value.kind)

/-- Whether the value may be null: as the key `optional` says, or else as the type is marked. -/
def readOptional (entries : List (Datum × Datum)) (marked : Bool) : Bool :=
  ((find? entries "optional").map Datum.isTrue).getD marked

/-- Passes if the schema of an element is given under one key at most. -/
def checkElement (entries : List (Datum × Datum)) : Except SchemaError Unit :=
  if (find? entries "items").isSome && (find? entries "values").isSome then .error .twoElements
  else .ok ()

/-- The description of an element, unless it is null. -/
def element? (entries : List (Datum × Datum)) : Option Datum :=
  ((find? entries "items").or (find? entries "values")).bind Datum.notNull?

/-- The description of a field's schema among the entries of the field: all but its name, with the
logical name where a schema has it. -/
def fieldSpec (entries : List (Datum × Datum)) : List (Datum × Datum) :=
  let rest := Datum.without entries "name"
  match find? rest "logical" with
  -- In a field `name` is the name of the field itself.
  | some logical => Datum.without rest "logical" ++ [(.text "name", logical)]
  | none => rest

theorem depth_find?_le (entries : List (Datum × Datum)) (name : String) :
    Datum.partDepth (find? entries name) ≤ depthEntries entries := by
  cases h : find? entries name with
  | none => exact Nat.zero_le _
  | some d => exact Datum.depth_le_of_find? h

theorem exists_find?_of_element? {entries : List (Datum × Datum)} {d : Datum}
    (h : element? entries = some d) : ∃ name, find? entries name = some d := by
  obtain ⟨d', hor, hnull⟩ := Option.bind_eq_some_iff.mp h
  obtain rfl := (Datum.notNull?_eq_some_iff.mp hnull).1
  rcases Option.or_eq_some_iff.mp hor with h | ⟨-, h⟩ <;> exact ⟨_, h⟩

theorem depth_element?_le (entries : List (Datum × Datum)) :
    Datum.partDepth (element? entries) ≤ depthEntries entries := by
  cases h : element? entries with
  | none => exact Nat.zero_le _
  | some d =>
    obtain ⟨name, hfound⟩ := exists_find?_of_element? h
    exact Datum.depth_le_of_find? hfound

/-- What describes a field's schema stands among the entries of the field, but for one key. -/
theorem mem_fieldSpec {entries : List (Datum × Datum)} {k v : Datum}
    (h : (k, v) ∈ fieldSpec entries) :
    (k = .text "name" ∨ (k, v) ∈ entries) ∧ ∃ k', (k', v) ∈ entries := by
  simp only [fieldSpec] at h
  split at h
  · next logical hlogical =>
    rcases List.mem_append.mp h with hmem | hmem
    · have hentry : (k, v) ∈ entries := (List.mem_filter.mp (List.mem_filter.mp hmem).1).1
      exact ⟨.inr hentry, k, hentry⟩
    · obtain ⟨rfl, rfl⟩ : k = .text "name" ∧ v = logical := by simpa using hmem
      exact ⟨.inl rfl, _, (List.mem_filter.mp (Datum.mem_of_find? hlogical)).1⟩
  · have hentry : (k, v) ∈ entries := (List.mem_filter.mp h).1
    exact ⟨.inr hentry, k, hentry⟩

theorem depthEntries_fieldSpec_le (entries : List (Datum × Datum)) :
    depthEntries (fieldSpec entries) ≤ depthEntries entries := by
  refine Datum.depthEntries_le fun k v hmem => ?_
  obtain ⟨-, k', hentry⟩ := mem_fieldSpec hmem
  exact Datum.depth_le_depthEntries hentry

mutual

/-- The schema that a value describes. -/
def read : Datum → Except SchemaError Schema
  | .text spec => (fun (type, marked) => .ofType type marked) <$> Shorthand.type spec
  | .map entries => readEntries entries
  | value => .error (.notASpec value.kind)
termination_by value => (value.depth, 1, 0)
decreasing_by simp [Datum.depth, Prod.lex_def]

/-- The schema that the entries of a map describe. -/
def readEntries (entries : List (Datum × Datum)) : Except SchemaError Schema := do
  -- Of several errors the first one is reported, so these steps stand in the order of the checks.
  checkKeys entries
  let (type, marked) ← readType entries
  let fields ← readFieldList (find? entries "fields")
  let key ← readPart (find? entries "keys")
  checkElement entries
  let value ← readPart (element? entries)
  check {
    type, fields, key, value
    optional := readOptional entries marked
    default := Datum.get entries "default"
    name := Datum.get entries "name"
    version := Datum.get entries "version"
    doc := Datum.get entries "doc" }
termination_by (depthEntries entries + 1, 0, 0)
decreasing_by
  · have := depth_find?_le entries "fields"
    simp only [Prod.lex_def]
    omega
  · have := depth_find?_le entries "keys"
    simp only [Prod.lex_def]
    omega
  · have := depth_element?_le entries
    simp only [Prod.lex_def]
    omega

/-- The schema of a part, if it is described at all. -/
def readPart : Option Datum → Except SchemaError (Option Schema)
  | none => .ok none
  | some value => some <$> read value
termination_by value? => (Datum.partDepth value?, 2, 0)
decreasing_by simp [Datum.partDepth, Prod.lex_def]

/-- The fields that the value under `fields` describes, and none where there is no such value. -/
def readFieldList : Option Datum → Except SchemaError (List Field)
  | none => .ok []
  | some (.list items) => readFields 0 items
  | some value => .error (.fieldsNotList value.kind)
termination_by value? => (Datum.partDepth value?, 2, 0)
decreasing_by simp [Datum.partDepth, Datum.depth, Prod.lex_def]

/-- The fields that the items of a list describe, the first of them at place `index`. -/
def readFields (index : Nat) : List Datum → Except SchemaError (List Field)
  | [] => .ok []
  | item :: items => do
    let field ← readField index item
    let fields ← readFields (index + 1) items
    return field :: fields
termination_by items => (depthItems items + 1, 0, items.length)
decreasing_by
  · exact .left _ _ (Nat.lt_succ_of_le (Nat.le_max_left ..))
  -- The other items may be as deep as all of them are; then it is their number that falls.
  · rw [depthItems]
    rcases Nat.lt_or_eq_of_le (Nat.le_max_right item.depth (depthItems items)) with h | h
    · exact .left _ _ (Nat.succ_lt_succ h)
    · rw [← h]
      exact .right _ (.right _ (Nat.lt_succ_self _))

/-- The field at place `index` that a value describes. -/
def readField (index : Nat) : Datum → Except SchemaError Field
  | .text entry =>
    (fun (name, type, marked) => ⟨name, index, .ofType type marked⟩) <$> Shorthand.field entry
  | .map entries =>
    match find? entries "name" with
    | some (.text name) =>
      if name = "" then .error (.unnamedField index)
      else (⟨name, index, ·⟩) <$> readFieldSchema index name (fieldSpec entries)
    | _ => .error (.unnamedField index)
  | value => .error (.fieldNotSpec index value.kind)
termination_by value => (value.depth, 2, 0)
decreasing_by
  have := depthEntries_fieldSpec_le entries
  simp only [Prod.lex_def, Datum.depth]
  omega

/-- The schema of the field at place `index`: whole under `schema`, or else by its attributes. -/
def readFieldSchema (index : Nat) (name : String) (entries : List (Datum × Datum)) :
    Except SchemaError Schema :=
  match _h : find? entries "schema" with
  | some value =>
    -- The name is gone from the entries, so `schema` has to stand alone.
    if entries.length ≠ 1 then .error (.mixedField index name) else read value
  | none => readEntries entries
termination_by (depthEntries entries + 1, 1, 0)
decreasing_by
  · have := Datum.depth_le_of_find? _h
    simp only [Prod.lex_def]
    omega
  · simp [Prod.lex_def]

end

/-- The schema of a struct with named schemas as fields. -/
def struct (named : List (String × Schema)) (optional : Bool) (name : Datum) :
    Except SchemaError Schema :=
  check { ofType .struct optional with fields := numbered named, name }

/-- A named schema from a field text or from a name and a description. -/
def readNamed : String ⊕ String × Datum → Except SchemaError (String × Schema)
  | .inl entry => do
    let (name, type, marked) ← Shorthand.namedType entry
    return (name, .ofType type marked)
  | .inr (name, value) => (name, ·) <$> read value

/-- The schema of a struct whose fields are given one by one. -/
def makeStruct (entries : List (String ⊕ String × Datum)) (optional : Bool) (name : Datum) :
    Except SchemaError Schema := do
  struct (← entries.mapM readNamed) optional name

end Schema

end TableLayout
