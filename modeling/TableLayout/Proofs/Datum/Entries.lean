import TableLayout.Datum.Agreement

/-!
# Entries under text keys

Looking up texts in the entries of a map into which others were put.

- `Datum.agrees_text_iff`: the only key that counts as equal to a text is that text.
- `Datum.find?_put`, `Datum.find?_foldl_put`: what is found after one entry, and after several with
  distinct keys, were put: the last value that a key was given.
- `Datum.exists_key_of_mem_foldl_put`: no other keys come in.
- `Datum.find?_eq_some_of_mem`: where keys are distinct, every entry is found.
- `Datum.find?_append`: what is found in entries that follow others.
-/

namespace TableLayout.Datum

theorem agrees_text_iff {key : Datum} {name : String} :
    key.agrees (.text name) = true ↔ key = .text name := by
  cases key <;> simp [agrees, number?, octets?, bothEqual]

/-- Entries that follow others are looked at only where these hold nothing. -/
theorem find?_append (entries entries' : List (Datum × Datum)) (name : String) :
    find? (entries ++ entries') name = (find? entries name).or (find? entries' name) := by
  rw [find?, List.find?_append, Option.map_or]
  rfl

/-- After an entry was put, its key has its value and all others have what they had. -/
theorem find?_put (entries : List (Datum × Datum)) (name other : String) (value : Datum) :
    find? (put entries (.text name) value) other =
      if name = other then some value else find? entries other := by
  induction entries with
  | nil => simp [put, find?_cons, isText]
  | cons entry entries ih =>
    obtain ⟨key, old⟩ := entry
    rw [put]
    split
    · next hkey =>
      obtain rfl := agrees_text_iff.mp hkey
      rw [find?_cons, find?_cons]
      simp only [isText, beq_iff_eq]
      split <;> rfl
    · next hkey =>
      rw [find?_cons, find?_cons, ih]
      -- The key found before differs from the one that was put.
      by_cases hother : key.isText other
      · have hne : ¬name = other := by
          rintro rfl
          exact hkey (agrees_text_iff.mpr (isText_iff.mp hother))
        rw [if_pos hother, if_pos hother, if_neg hne]
      · rw [if_neg hother, if_neg hother]

/-- The only key that can come in is the one that was put. -/
theorem key_of_mem_put {entries : List (Datum × Datum)} {new key value : Datum}
    (h : key ∈ (put entries new value).map Prod.fst) : key = new ∨ key ∈ entries.map Prod.fst := by
  induction entries with
  | nil => exact .inl (List.mem_singleton.mp h)
  | cons entry entries ih =>
    obtain ⟨first, old⟩ := entry
    rw [put] at h
    split at h
    · exact .inr h
    · rcases List.mem_cons.mp h with rfl | hrest
      · exact .inr List.mem_cons_self
      · exact (ih hrest).imp_right (List.mem_cons_of_mem _)

/-- Every entry is found under its key, where no two keys are the same. -/
theorem find?_eq_some_of_mem {entries : List (Datum × Datum)} {name : String} {value : Datum}
    (hdistinct : (entries.map Prod.fst).Nodup) (hmem : (.text name, value) ∈ entries) :
    find? entries name = some value := by
  induction entries with
  | nil => exact absurd hmem List.not_mem_nil
  | cons entry entries ih =>
    obtain ⟨key, first⟩ := entry
    obtain ⟨hnot, hdistinct⟩ := List.nodup_cons.mp hdistinct
    rw [find?_cons]
    rcases List.mem_cons.mp hmem with h | h
    · obtain ⟨rfl, rfl⟩ := Prod.mk.inj h
      exact if_pos (isText_iff.mpr rfl)
    · have hne : ¬key.isText name := by
        intro hkey
        exact hnot (List.mem_map.mpr ⟨_, h, (isText_iff.mp hkey).symm⟩)
      rw [if_neg hne, ih hdistinct h]

/-- Entries with distinct text keys that are put over others hide what these hold under the same
keys, and nothing else. -/
theorem find?_foldl_put {added : List (Datum × Datum)}
    (htext : ∀ entry ∈ added, ∃ name, entry.1 = .text name)
    (hdistinct : (added.map Prod.fst).Nodup) (entries : List (Datum × Datum)) (name : String) :
    find? (added.foldl (fun es entry => put es entry.1 entry.2) entries) name =
      (find? added name).or (find? entries name) := by
  induction added generalizing entries with
  | nil => rfl
  | cons entry added ih =>
    obtain ⟨key, value⟩ := entry
    obtain ⟨⟨first, hfirst⟩, hrest⟩ := List.forall_mem_cons.mp htext
    obtain ⟨hnot, hdistinctRest⟩ := List.nodup_cons.mp hdistinct
    obtain rfl : key = .text first := hfirst
    rw [List.foldl_cons, ih hrest hdistinctRest, find?_put, find?_cons]
    by_cases hname : first = name
    · -- The key does not come again, so the value that it was given here stays.
      have hnone : find? added name = none := by
        refine Option.eq_none_iff_forall_not_mem.mpr fun other hother => hnot ?_
        exact List.mem_map.mpr ⟨_, mem_of_find? hother, by rw [hname]⟩
      simp [hname, hnone, isText]
    · simp [hname, isText]

/-- Entries that are put over others bring in no keys but their own. -/
theorem exists_key_of_mem_foldl_put {added entries : List (Datum × Datum)} {key : Datum}
    (h : key ∈ (added.foldl (fun es entry => put es entry.1 entry.2) entries).map Prod.fst) :
    key ∈ added.map Prod.fst ∨ key ∈ entries.map Prod.fst := by
  induction added generalizing entries with
  | nil => exact .inr h
  | cons entry added ih =>
    rcases ih h with hadded | hput
    · exact .inl (List.mem_cons_of_mem _ hadded)
    · rcases key_of_mem_put hput with rfl | hold
      · exact .inl List.mem_cons_self
      · exact .inr hold

end TableLayout.Datum
