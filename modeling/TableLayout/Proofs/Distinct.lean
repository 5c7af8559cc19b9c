import Mathlib.Data.List.Perm.Subperm
import TableLayout.Column
import TableLayout.NameMap

/-!
# Names without repeats

Columns are told apart by their names. A list of columns or of entries in which a name comes twice
is cut down in two ways, by `Column.firstByName` and by `NameMap.ofList`, and in both the names that
are left are those of the list, each in its first place (`List.eraseDups`).

- `eq_of_map_eq`: lists of the same names are equal if items of the same name are.
- `nodup_eraseDups`, `eraseDups_of_nodup`: a list loses its repeats, and nothing if it has none.
- `perm_eraseDups`: lists of the same items in another order keep the same items.
- `nodup_of_length_eraseDups`: a list that loses no item has no repeats.
- `Column.names_firstByName`, `NameMap.names_ofList`: the names that are left.
- `Column.first_of_mem_firstByName`: the columns that are left are the first of their names.
- `NameMap.entries_ofList`: a map of entries with distinct names holds these entries, in order.
- `NameMap.find?_eq_some_iff`: looking up a name is being an entry.
-/

namespace TableLayout

section Lists

variable {α : Type}

/-- Lists that look the same in some respect are equal if items that do are. -/
theorem eq_of_map_eq {β : Type} {f : α → β} {l l' : List α} (h : l.map f = l'.map f)
    (heq : ∀ a ∈ l, ∀ b ∈ l', f a = f b → a = b) : l = l' := by
  induction l generalizing l' with
  | nil => exact (List.map_eq_nil_iff.mp h.symm).symm
  | cons a l ih =>
    obtain ⟨b, rest, rfl, hb, hrest⟩ := List.map_eq_cons_iff.mp h.symm
    obtain rfl := heq a List.mem_cons_self b List.mem_cons_self hb.symm
    rw [ih hrest.symm fun a ha b hb =>
      heq a (List.mem_cons_of_mem _ ha) b (List.mem_cons_of_mem _ hb)]

variable [DecidableEq α]

/-- Repeats that are dropped do not come back. -/
theorem nodup_eraseDups : ∀ l : List α, l.eraseDups.Nodup
  | [] => List.nodup_nil
  | a :: l => by
    rw [List.eraseDups_cons, List.nodup_cons]
    refine ⟨fun hmem => ?_, nodup_eraseDups _⟩
    -- Repeats are dropped from what is left of `l` once every `a` is gone.
    have hkept := (List.mem_filter.mp (List.mem_eraseDups.mp hmem)).2
    simp at hkept
termination_by l => l.length
decreasing_by exact Nat.lt_succ_of_le (List.length_filter_le ..)

theorem eraseDups_of_nodup {l : List α} (h : l.Nodup) : l.eraseDups = l := by
  induction l with
  | nil => rfl
  | cons a l ih =>
    obtain ⟨hnot, hl⟩ := List.nodup_cons.mp h
    have hkeep : l.filter (fun b => !b == a) = l := by
      refine List.filter_eq_self.mpr fun b hb => ?_
      have hne : b ≠ a := fun heq => hnot (heq ▸ hb)
      simpa using hne
    rw [List.eraseDups_cons, hkeep, ih hl]

/-- Lists that differ in the order of their items do so when they have lost their repeats. -/
theorem perm_eraseDups {l l' : List α} (h : l.Perm l') : l.eraseDups.Perm l'.eraseDups := by
  refine (List.perm_ext_iff_of_nodup (nodup_eraseDups l) (nodup_eraseDups l')).mpr fun a => ?_
  rw [List.mem_eraseDups, List.mem_eraseDups, h.mem_iff]

/-- Filtering and dropping repeats may be done in either order. -/
theorem eraseDups_filter (p : α → Bool) :
    ∀ l : List α, (l.filter p).eraseDups = l.eraseDups.filter p
  | [] => rfl
  | a :: l => by
    have ih := eraseDups_filter p (l.filter fun b => !b == a)
    rw [List.filter_filter] at ih
    rw [List.eraseDups_cons, List.filter_cons, List.filter_cons, ← ih]
    -- The repeats of `a` go by one filter and what fails `p` by another; they only change places.
    by_cases ha : p a = true
    · rw [if_pos ha, if_pos ha, List.eraseDups_cons, List.filter_filter]
      congr 3
      exact funext fun b => Bool.and_comm ..
    · rw [if_neg ha, if_neg ha]
      congr 1
      refine List.filter_congr fun b _ => ?_
      by_cases hb : b = a
      · rw [hb, Bool.eq_false_iff.mpr ha]
        rfl
      · simp [hb]
termination_by l => l.length
decreasing_by exact Nat.lt_succ_of_le (List.length_filter_le ..)

/-- A list that loses no item when its repeats are dropped has none. -/
theorem nodup_of_length_eraseDups {l : List α} (h : l.length ≤ l.eraseDups.length) : l.Nodup := by
  -- The list without repeats is a part of the list up to order, and is all of it if not shorter.
  have hsub : l.eraseDups.Subperm l :=
    (nodup_eraseDups l).subperm fun _ hmem => List.mem_eraseDups.mp hmem
  exact (hsub.perm_of_length_le h).nodup_iff.mp (nodup_eraseDups l)

end Lists

/-! ## Columns -/

namespace Column

/-- The names of the columns that are left are those of all, each in its first place. -/
theorem names_firstByName (columns : List Column) :
    (firstByName columns).map Column.name = (columns.map Column.name).eraseDups := by
  induction columns with
  | nil => rfl
  | cons column columns ih =>
    -- Dropping columns of a name drops that name from the names.
    have hfilter : ((firstByName columns).filter fun c => c.name != column.name).map Column.name =
        ((firstByName columns).map Column.name).filter (fun name => !name == column.name) := by
      rw [List.filter_map]
      rfl
    rw [firstByName, List.map_cons, List.map_cons, List.eraseDups_cons, hfilter, ih,
      eraseDups_filter]

theorem nodup_names_firstByName (columns : List Column) :
    ((firstByName columns).map Column.name).Nodup :=
  names_firstByName columns ▸ nodup_eraseDups _

theorem mem_of_mem_firstByName {columns : List Column} {column : Column}
    (h : column ∈ firstByName columns) : column ∈ columns := by
  induction columns with
  | nil => exact absurd h List.not_mem_nil
  | cons first columns ih =>
    rcases List.mem_cons.mp h with rfl | h
    · exact List.mem_cons_self
    · exact List.mem_cons_of_mem _ (ih (List.mem_filter.mp h).1)

/-- A column that is left is the first of its name. -/
theorem first_of_mem_firstByName {columns : List Column} {column : Column}
    (h : column ∈ firstByName columns) :
    ∃ before after, columns = before ++ column :: after ∧
      ∀ earlier ∈ before, earlier.name ≠ column.name := by
  induction columns with
  | nil => exact absurd h List.not_mem_nil
  | cons first columns ih =>
    rcases List.mem_cons.mp h with rfl | h
    · exact ⟨[], columns, rfl, fun _ hearlier => absurd hearlier List.not_mem_nil⟩
    · obtain ⟨hmem, hother⟩ := List.mem_filter.mp h
      obtain ⟨before, after, rfl, hbefore⟩ := ih hmem
      have hne : first.name ≠ column.name := fun heq => by simp [heq] at hother
      exact ⟨first :: before, after, rfl, List.forall_mem_cons.mpr ⟨hne, hbefore⟩⟩

end Column

/-! ## Maps -/

namespace NameMap

variable {α : Type}

/-- A new name is put at the end. -/
theorem putEntry_of_not_mem {name : String} {value : α} {entries : List (String × α)}
    (h : name ∉ entries.map Prod.fst) :
    putEntry name value entries = entries ++ [(name, value)] := by
  induction entries with
  | nil => rfl
  | cons entry entries ih =>
    rw [List.map_cons, List.mem_cons, not_or] at h
    rw [putEntry, if_neg (Ne.symm h.1), ih h.2]
    rfl

theorem names_foldl_put (entries : List (String × α)) (map : NameMap α) :
    (entries.foldl (fun map entry => map.put entry.1 entry.2) map).names =
      (map.names ++ entries.map Prod.fst).eraseDups := by
  induction entries generalizing map with
  | nil => rw [List.map_nil, List.append_nil, eraseDups_of_nodup map.nodup_names]; rfl
  | cons entry entries ih =>
    rw [List.foldl_cons, ih, names_put, List.map_cons]
    -- A known name keeps its place, so it drops out of the names that follow.
    by_cases h : entry.1 ∈ map.names
    · rw [if_pos h, List.eraseDups_append, List.eraseDups_append, List.removeAll,
        List.removeAll, List.filter_cons, if_neg (by simpa using h)]
    · rw [if_neg h, List.append_assoc]
      rfl

/-- The names of a map of entries are those of the entries, each in its first place. -/
theorem names_ofList (entries : List (String × α)) :
    (ofList entries).names = (entries.map Prod.fst).eraseDups :=
  names_foldl_put entries empty

theorem entries_foldl_put (entries : List (String × α)) (map : NameMap α)
    (h : (map.names ++ entries.map Prod.fst).Nodup) :
    (entries.foldl (fun map entry => map.put entry.1 entry.2) map).entries =
      map.entries ++ entries := by
  induction entries generalizing map with
  | nil => rw [List.append_nil]; rfl
  | cons entry entries ih =>
    rw [List.map_cons] at h
    have hnot : entry.1 ∉ map.names := by
      intro hmem
      exact (List.nodup_append.mp h).2.2 _ hmem _ List.mem_cons_self rfl
    -- The name is new, so its entry goes to the end.
    have hput : (map.put entry.1 entry.2).entries = map.entries ++ [entry] :=
      putEntry_of_not_mem hnot
    have hnext : ((map.put entry.1 entry.2).names ++ entries.map Prod.fst).Nodup := by
      rw [names_put, if_neg hnot, List.append_assoc]
      exact h
    rw [List.foldl_cons, ih _ hnext, hput, List.append_assoc]
    rfl

/-- A map of entries with distinct names holds these entries, in order. -/
theorem entries_ofList {entries : List (String × α)} (h : (entries.map Prod.fst).Nodup) :
    (ofList entries).entries = entries :=
  entries_foldl_put entries empty h

/-- A map has a value under a name exactly if that is one of its entries. -/
theorem find?_eq_some_iff {map : NameMap α} {name : String} {value : α} :
    map.find? name = some value ↔ (name, value) ∈ map.entries := by
  rw [find?, List.lookup_eq_some_iff]
  constructor
  · rintro ⟨front, back, hsplit, -⟩
    exact hsplit ▸ List.mem_append_cons_self
  · intro hmem
    obtain ⟨front, back, hsplit⟩ := List.append_of_mem hmem
    -- Names in a map are distinct, so no entry before this one has its name.
    refine ⟨front, back, hsplit, fun entry hentry => ?_⟩
    have hdistinct := map.distinct
    rw [hsplit, List.map_append] at hdistinct
    have hne : entry.1 ≠ name :=
      (List.nodup_append.mp hdistinct).2.2 _ (List.mem_map_of_mem hentry) _ List.mem_cons_self
    simpa using hne.symm

end NameMap

end TableLayout
