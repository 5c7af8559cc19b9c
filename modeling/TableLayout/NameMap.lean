/-!
# Maps from names

A map whose keys are names, in the order in which these came in.

- `NameMap`: the entries, with distinct names.
- `NameMap.put`: a value under a name: in the place of the name if it is there, else at the end.
- `NameMap.ofList`: a name given twice keeps its first place and its last value.
- `NameMap.find?`: the value under a name.
-/

namespace TableLayout

/-- A map from names, in order. -/
structure NameMap (α : Type) where
  entries : List (String × α)
  distinct : (entries.map Prod.fst).Nodup

namespace NameMap

variable {α : Type}

/-- The map without entries. -/
def empty : NameMap α :=
  ⟨[], List.nodup_nil⟩

/-- The names, in order. -/
def names (map : NameMap α) : List String :=
  map.entries.map Prod.fst

/-- The number of names. -/
def size (map : NameMap α) : Nat :=
  map.entries.length

/-- The value under a name. -/
def find? (map : NameMap α) (name : String) : Option α :=
  map.entries.lookup name

/-- Entries with a value under a name. -/
def putEntry (name : String) (value : α) : List (String × α) → List (String × α)
  | [] => [(name, value)]
  | (name', value') :: rest =>
    if name' = name then (name', value) :: rest else (name', value') :: putEntry name value rest

theorem map_fst_putEntry (name : String) (value : α) (entries : List (String × α)) :
    (putEntry name value entries).map Prod.fst =
      if name ∈ entries.map Prod.fst then entries.map Prod.fst
      else entries.map Prod.fst ++ [name] := by
  induction entries with
  | nil => simp [putEntry]
  | cons entry rest ih =>
    obtain ⟨name', value'⟩ := entry
    by_cases h : name' = name
    · simp [putEntry, h]
    · have h' : ¬name = name' := fun h' => h h'.symm
      rw [putEntry, if_neg h, List.map_cons, ih]
      by_cases hmem : name ∈ rest.map Prod.fst <;> simp [h', hmem]

/-- A value under a name. -/
def put (map : NameMap α) (name : String) (value : α) : NameMap α where
  entries := putEntry name value map.entries
  distinct := by
    rw [map_fst_putEntry]
    split
    · exact map.distinct
    · next h => exact List.nodup_append.mpr ⟨map.distinct, by simp, by
        intro a ha b hb
        rw [List.mem_singleton.mp hb]
        exact fun heq => h (heq ▸ ha)⟩

/-- The map of a list of entries. -/
def ofList (entries : List (String × α)) : NameMap α :=
  entries.foldl (fun map entry => map.put entry.1 entry.2) empty

@[simp] theorem length_names (map : NameMap α) : map.names.length = map.size := by
  simp [names, size]

theorem names_put (map : NameMap α) (name : String) (value : α) :
    (map.put name value).names = if name ∈ map.names then map.names else map.names ++ [name] :=
  map_fst_putEntry name value map.entries

theorem nodup_names (map : NameMap α) : map.names.Nodup :=
  map.distinct

end NameMap

end TableLayout
