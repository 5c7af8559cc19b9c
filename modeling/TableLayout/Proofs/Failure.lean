import Mathlib.Data.List.Forall2
import TableLayout.Rejection

/-!
# Steps that may fail

Whatever may fail here is a chain of steps that ends with its first failure, or a loop over a list
that ends with the first item that fails.

- `exists_eq_ok_iff`: a step ends in a result unless it fails.
- `bind_eq_ok_iff`, `bind_eq_error_iff`, `map_eq_ok_iff`, `map_eq_error_iff`, `mapError_eq_ok_iff`,
  `mapError_eq_error_iff`: how a chain of two steps ends.
- `mapM_eq_ok_iff`: a loop succeeds exactly if it does so on every item, with the results in order.
- `mapM_eq_error_iff`: a loop fails exactly as its earliest failing item does.
- `mapM_eq_of_forall₂`: loops over related items end in the same way if the step does not tell the
  items apart.
- `Settles`: a step ends in a result with a given property or in a rejection, and in no defect but
  that of a number which is too long to be written. `Settles.bind` and `Settles.mapM` carry this
  along chains and loops.
- `FailsBy`: a step fails, if at all, by a rejection with a given property, which is carried along
  chains and loops in the same way.
- `Alike`: two runs of a step end in related results or in one and the same failure. `Alike.bind`
  and `Alike.mapM` carry this along chains and loops.
- `exists_getElem?_of_forall₂`, `map_eq_of_forall₂`, `filter_of_forall₂`, `find?_of_forall₂`,
  `split_of_forall₂`: lists of related items, gone through in the same way.
-/

namespace TableLayout

/-! ## Lists side by side -/

section Lists

variable {α β : Type}

/-- Every item of a list has its partner in a related list. -/
theorem exists_of_forall₂ {R : α → β → Prop} {items : List α} {results : List β}
    (h : List.Forall₂ R items results) : ∀ item ∈ items, ∃ result ∈ results, R item result := by
  induction h with
  | nil => exact fun item hitem => absurd hitem List.not_mem_nil
  | cons hresult _ ih =>
    refine List.forall_mem_cons.mpr ⟨⟨_, List.mem_cons_self, hresult⟩, fun item hitem => ?_⟩
    obtain ⟨result, hmem, hrel⟩ := ih item hitem
    exact ⟨result, List.mem_cons_of_mem _ hmem, hrel⟩

/-- Where a list has an item, a related list has a related one. -/
theorem exists_getElem?_of_forall₂ {R : α → β → Prop} {items : List α} {results : List β}
    (h : List.Forall₂ R items results) {place : Nat} {item : α}
    (hitem : items[place]? = some item) :
    ∃ result, results[place]? = some result ∧ R item result := by
  induction h generalizing place with
  | nil => cases hitem
  | @cons first result items results hresult _ ih =>
    cases place with
    | zero =>
      obtain rfl := Option.some.inj hitem
      exact ⟨result, rfl, hresult⟩
    | succ place => exact ih hitem

/-- A relation that looks at results only is a property of all of them. -/
theorem forall_of_forall₂ {P : β → Prop} {items : List α} {results : List β}
    (h : List.Forall₂ (fun _ => P) items results) : ∀ result ∈ results, P result := by
  induction h with
  | nil => exact fun result hresult => absurd hresult List.not_mem_nil
  | cons hresult _ ih => exact List.forall_mem_cons.mpr ⟨hresult, ih⟩

section Forall₂

variable {R : α → β → Prop} {items : List α} {results : List β} (h : List.Forall₂ R items results)
include h

/-- Related items that look the same in some respect make lists that look the same in it. -/
theorem map_eq_of_forall₂ {γ : Type} {f : α → γ} {g : β → γ}
    (hfg : ∀ item result, R item result → f item = g result) : items.map f = results.map g := by
  induction h with
  | nil => rfl
  | cons hresult _ ih => rw [List.map_cons, List.map_cons, hfg _ _ hresult, ih]

variable {p : α → Bool} {q : β → Bool} (hpq : ∀ item result, R item result → p item = q result)
include hpq

/-- A test that does not tell related items apart keeps related ones. -/
theorem filter_of_forall₂ : List.Forall₂ R (items.filter p) (results.filter q) := by
  refine List.rel_filter (fun item result hresult => ?_) h
  show p item = true ↔ q result = true
  rw [hpq item result hresult]

/-- A test that does not tell related items apart finds nothing in both lists, or related items. -/
theorem find?_of_forall₂ :
    (items.find? p = none ∧ results.find? q = none) ∨
      ∃ item result, items.find? p = some item ∧ results.find? q = some result ∧
        R item result := by
  induction h with
  | nil => exact .inl ⟨rfl, rfl⟩
  | @cons item result _ _ hresult _ ih =>
    have htest : p item = q result := hpq item result hresult
    rw [List.find?_cons, List.find?_cons, htest]
    cases q result with
    | true => exact .inr ⟨item, result, rfl, rfl, hresult⟩
    | false => exact ih

end Forall₂

/-- Where a list of results falls into parts, so does the list of items. -/
theorem split_of_forall₂ {R : α → β → Prop} {items : List α} {before after : List β} {result : β}
    (h : List.Forall₂ R items (before ++ result :: after)) :
    ∃ before' item after', items = before' ++ item :: after' ∧ List.Forall₂ R before' before ∧
      R item result := by
  -- The induction is on what stands before the item; it comes off both lists.
  induction before generalizing items with
  | nil =>
    obtain ⟨item, rest, hitem, -, rfl⟩ := List.forall₂_cons_right_iff.mp h
    exact ⟨[], item, rest, rfl, .nil, hitem⟩
  | cons first before ih =>
    obtain ⟨item, rest, hitem, hrest, rfl⟩ := List.forall₂_cons_right_iff.mp h
    obtain ⟨before', found, after', rfl, hbefore, hfound⟩ := ih hrest
    exact ⟨item :: before', found, after', rfl, .cons hitem hbefore, hfound⟩

/-- A list is related to some list item by item exactly if each of its items is related to
something. -/
theorem exists_forall₂_iff {R : α → β → Prop} {items : List α} :
    (∃ results, List.Forall₂ R items results) ↔ ∀ item ∈ items, ∃ result, R item result := by
  constructor
  · rintro ⟨results, h⟩ item hitem
    obtain ⟨result, -, hresult⟩ := exists_of_forall₂ h item hitem
    exact ⟨result, hresult⟩
  · intro h
    -- The partners are picked item by item.
    induction items with
    | nil => exact ⟨[], .nil⟩
    | cons item items ih =>
      obtain ⟨⟨result, hresult⟩, hrest⟩ := List.forall_mem_cons.mp h
      obtain ⟨rest, hrest⟩ := ih hrest
      exact ⟨result :: rest, .cons hresult hrest⟩

end Lists

/-! ## Chains and loops -/

section Steps

variable {ε α β : Type}

/-- A chain succeeds exactly if both of its steps do. -/
theorem bind_eq_ok_iff {x : Except ε α} {f : α → Except ε β} {b : β} :
    x >>= f = .ok b ↔ ∃ a, x = .ok a ∧ f a = .ok b := by
  cases x with
  | error e => simp [bind, Except.bind]
  | ok a => simp [bind, Except.bind]

/-- A chain fails with its first step, or with the second where the first succeeds. -/
theorem bind_eq_error_iff {x : Except ε α} {f : α → Except ε β} {e : ε} :
    x >>= f = .error e ↔ x = .error e ∨ ∃ a, x = .ok a ∧ f a = .error e := by
  cases x with
  | error e' => simp [bind, Except.bind]
  | ok a => simp [bind, Except.bind]

theorem exists_eq_ok_iff {x : Except ε α} : (∃ a, x = .ok a) ↔ ∀ e, x ≠ .error e := by
  cases x with
  | error e => exact iff_of_false nofun fun h => h e rfl
  | ok a => exact iff_of_true ⟨a, rfl⟩ nofun

/-- What is done with a result changes the result, not whether there is one. -/
theorem map_eq_ok_iff {x : Except ε α} {f : α → β} {b : β} :
    f <$> x = .ok b ↔ ∃ a, x = .ok a ∧ f a = b := by
  cases x with
  | error e => simp [Functor.map, Except.map]
  | ok a => simp [Functor.map, Except.map]

/-- Nor does it change with what a step fails. -/
theorem map_eq_error_iff {x : Except ε α} {f : α → β} {e : ε} :
    f <$> x = .error e ↔ x = .error e := by
  cases x <;> simp [Functor.map, Except.map]

/-- Other words for errors leave results alone. -/
theorem mapError_eq_ok_iff {δ : Type} {x : Except ε α} {f : ε → δ} {a : α} :
    x.mapError f = .ok a ↔ x = .ok a := by
  cases x <;> simp [Except.mapError]

/-- A step with other words for its errors fails exactly if it did before. -/
theorem mapError_eq_error_iff {δ : Type} {x : Except ε α} {f : ε → δ} {e : δ} :
    x.mapError f = .error e ↔ ∃ e', x = .error e' ∧ f e' = e := by
  cases x <;> simp [Except.mapError]

theorem eq_ok_of_toOption {x : Except ε α} {a : α} (h : x.toOption = some a) : x = .ok a := by
  cases x with
  | error e => cases h
  | ok a' => exact congrArg Except.ok (Option.some.inj h)

/-- A loop over a list succeeds exactly if it does so on every item. -/
theorem mapM_eq_ok_iff {f : α → Except ε β} {items : List α} {results : List β} :
    items.mapM f = .ok results ↔
      List.Forall₂ (fun item result => f item = .ok result) items results := by
  induction items generalizing results with
  | nil =>
    rw [List.mapM_nil, List.forall₂_nil_left_iff]
    exact ⟨fun h => (Except.ok.inj h).symm, fun h => h ▸ rfl⟩
  | cons item items ih =>
    rw [List.mapM_cons, bind_eq_ok_iff, List.forall₂_cons_left_iff]
    -- Both sides take the list apart at its first item.
    constructor
    · rintro ⟨result, hresult, h⟩
      obtain ⟨rest, hrest, h⟩ := bind_eq_ok_iff.mp h
      exact ⟨result, rest, hresult, ih.mp hrest, (Except.ok.inj h).symm⟩
    · rintro ⟨result, rest, hresult, hrest, rfl⟩
      exact ⟨result, hresult, bind_eq_ok_iff.mpr ⟨rest, ih.mpr hrest, rfl⟩⟩

/-- A loop over a list succeeds if it does so on every item. -/
theorem exists_mapM_eq_ok_iff {f : α → Except ε β} {items : List α} :
    (∃ results, items.mapM f = .ok results) ↔ ∀ item ∈ items, ∃ result, f item = .ok result := by
  simp only [mapM_eq_ok_iff]
  exact exists_forall₂_iff

/-- A loop over a list fails exactly as its earliest failing item does. -/
theorem mapM_eq_error_iff {f : α → Except ε β} {items : List α} {e : ε} :
    items.mapM f = .error e ↔
      ∃ before item after, items = before ++ item :: after ∧
        (∀ earlier ∈ before, ∃ result, f earlier = .ok result) ∧ f item = .error e := by
  induction items with
  | nil =>
    rw [List.mapM_nil]
    constructor
    · rintro ⟨⟩
    · rintro ⟨before, item, after, h, -⟩
      exact absurd h.symm (by simp)
  | cons first items ih =>
    rw [List.mapM_cons, bind_eq_error_iff]
    -- The loop ends at the first item or, with that one passed, at an item of the rest.
    constructor
    · rintro (h | ⟨result, hresult, h⟩)
      · exact ⟨[], first, items, rfl, by simp, h⟩
      · rcases bind_eq_error_iff.mp h with h | ⟨rest, -, h⟩
        · obtain ⟨before, item, after, rfl, hbefore, hitem⟩ := ih.mp h
          exact ⟨first :: before, item, after, rfl,
            List.forall_mem_cons.mpr ⟨⟨result, hresult⟩, hbefore⟩, hitem⟩
        · cases h
    · rintro ⟨before, item, after, hsplit, hbefore, hitem⟩
      cases before with
      | nil =>
        obtain ⟨rfl, rfl⟩ := List.cons.inj hsplit
        exact .inl hitem
      | cons earlier before =>
        obtain ⟨rfl, rfl⟩ := List.cons.inj hsplit
        obtain ⟨⟨result, hresult⟩, hbefore⟩ := List.forall_mem_cons.mp hbefore
        have hrest := ih.mpr ⟨before, item, after, rfl, hbefore, hitem⟩
        exact .inr ⟨result, hresult, bind_eq_error_iff.mpr (.inl hrest)⟩

/-- Loops over related items end in the same way if those of the items do. -/
theorem mapM_eq_of_forall₂ {γ : Type} {R : α → γ → Prop} {f : α → Except ε β}
    {g : γ → Except ε β} {items : List α} {others : List γ} (h : List.Forall₂ R items others)
    (hfg : ∀ item other, R item other → f item = g other) : items.mapM f = others.mapM g :=
  calc items.mapM f = (items.map f).mapM id := by rw [List.mapM_map, Function.id_comp]
    _ = (others.map g).mapM id := by rw [map_eq_of_forall₂ h hfg]
    _ = others.mapM g := by rw [List.mapM_map, Function.id_comp]

end Steps

/-! ## Steps without defects -/

/-- A step ends in a result with a property or in a rejection, or it fails to write a number that is
too long in the sense of `Long`, for the limit that the number goes beyond. -/
inductive Settles {α : Type} (Long : Nat → Prop) (P : α → Prop) : Except Failure α → Prop where
  | ok {a : α} (holds : P a) : Settles Long P (.ok a)
  | rejected (rejection : Rejection) : Settles Long P (.error (.rejected rejection))
  | longNumber {most : Nat} (long : Long most) :
      Settles Long P (.error (.defect (.longNumber most)))

namespace Settles

variable {α β : Type} {Long : Nat → Prop} {P Q : α → Prop} {x : Except Failure α}

/-- The result of a step that settles has the property. -/
theorem of_ok {a : α} (h : Settles Long P (.ok a)) : P a := by
  cases h with
  | ok holds => exact holds

/-- A step that fails only with rejections settles. -/
theorem of_error (h : ∀ failure, x = .error failure → ∃ rejection, failure = .rejected rejection) :
    Settles Long (fun a => x = .ok a) x := by
  cases x with
  | ok a => exact .ok rfl
  | error failure =>
    obtain ⟨rejection, rfl⟩ := h failure rfl
    exact .rejected rejection

/-- Writing a value settles, unless that goes beyond the limit. -/
theorem requirePrints (limit : Option Nat) (d : Datum) :
    Settles (fun most => limit = some most ∧ d.fits most = false)
      (fun _ => d.Prints limit) (d.requirePrints limit) := by
  cases h : d.requirePrints limit with
  | ok => exact .ok (Datum.requirePrints_eq_ok_iff.mp h)
  | error failure =>
    obtain ⟨most, hlong, rfl⟩ := Datum.requirePrints_eq_error_iff.mp h
    exact .longNumber hlong

/-- The ways to end: with a result, in a rejection, or at a long number. -/
theorem cases (h : Settles Long P x) :
    (∃ a, x = .ok a) ∨ (∃ rejection, x = .error (.rejected rejection)) ∨
      ∃ most, x = .error (.defect (.longNumber most)) ∧ Long most := by
  cases h with
  | ok holds => exact .inl ⟨_, rfl⟩
  | rejected rejection => exact .inr (.inl ⟨rejection, rfl⟩)
  | longNumber long => exact .inr (.inr ⟨_, rfl, long⟩)

/-- Where no number is too long, there is a result or a rejection. -/
theorem ok_or_rejected (h : Settles Long P x) (hshort : ∀ most, ¬Long most) :
    (∃ a, x = .ok a) ∨ ∃ rejection, x = .error (.rejected rejection) := by
  rcases h.cases with hok | hrejected | ⟨most, -, hlong⟩
  · exact .inl hok
  · exact .inr hrejected
  · exact absurd hlong (hshort most)

/-- The only defect is that of a long number. -/
theorem of_defect {defect : Defect} (h : Settles Long P x) (hdefect : x = .error (.defect defect)) :
    ∃ most, Long most ∧ defect = .longNumber most := by
  rw [hdefect] at h
  cases h with
  | longNumber long => exact ⟨_, long, rfl⟩

/-- A weaker property of the result. -/
theorem imp (h : Settles Long P x) (hPQ : ∀ a, P a → Q a) : Settles Long Q x := by
  cases h with
  | ok holds => exact .ok (hPQ _ holds)
  | rejected rejection => exact .rejected rejection
  | longNumber long => exact .longNumber long

/-- A sense in which more numbers are too long allows for as much. -/
theorem weaken {Long' : Nat → Prop} (h : Settles Long P x)
    (hlong : ∀ most, Long most → Long' most) :
    Settles Long' P x := by
  cases h with
  | ok holds => exact .ok holds
  | rejected rejection => exact .rejected rejection
  | longNumber long => exact .longNumber (hlong _ long)

/-- A chain settles if its first step does, and the second does after every result of the first. -/
theorem bind {R : β → Prop} {f : α → Except Failure β} (h : Settles Long P x)
    (hf : ∀ a, P a → Settles Long R (f a)) : Settles Long R (x >>= f) := by
  cases h with
  | ok holds => exact hf _ holds
  | rejected rejection => exact .rejected rejection
  | longNumber long => exact .longNumber long

/-- A loop settles if its step does on every item. -/
theorem mapM {R : α → β → Prop} {f : α → Except Failure β} {items : List α}
    (hf : ∀ item ∈ items, Settles Long (R item) (f item)) :
    Settles Long (List.Forall₂ R items) (items.mapM f) := by
  induction items with
  | nil => exact .ok .nil
  | cons item items ih =>
    rw [List.mapM_cons]
    refine (hf item List.mem_cons_self).bind fun result hresult => ?_
    refine (ih fun item hitem => hf item (List.mem_cons_of_mem _ hitem)).bind fun rest hrest => ?_
    exact .ok (.cons hresult hrest)

end Settles

/-! ## Steps that fail for a reason -/

/-- A rejection that a step ends in, if it does, has a property. Other failures are left open. -/
def FailsBy {α : Type} (P : Rejection → Prop) (x : Except Failure α) : Prop :=
  ∀ rejection, x = .error (.rejected rejection) → P rejection

namespace FailsBy

variable {α β : Type} {P : Rejection → Prop} {x : Except Failure α}

theorem of_ok {a : α} (h : x = .ok a) : FailsBy P x := by
  intro rejection hrejection
  rw [h] at hrejection
  cases hrejection

/-- A rejection with the property is all that a step may end in. -/
theorem of_rejected {rejection : Rejection} (h : x = .error (.rejected rejection))
    (holds : P rejection) : FailsBy P x := by
  rintro _ hrejection
  rw [h] at hrejection
  cases hrejection
  exact holds

/-- Writing a value ends in no rejection. -/
theorem requirePrints (limit : Option Nat) (d : Datum) : FailsBy P (d.requirePrints limit) := by
  intro rejection hrejection
  obtain ⟨most, -, hdefect⟩ := Datum.requirePrints_eq_error_iff.mp hrejection
  cases hdefect

/-- A chain fails for a reason if both of its steps do. -/
theorem bind {f : α → Except Failure β} (h : FailsBy P x)
    (hf : ∀ a, x = .ok a → FailsBy P (f a)) : FailsBy P (x >>= f) := by
  intro rejection hrejection
  rcases bind_eq_error_iff.mp hrejection with hx | ⟨a, ha, hfa⟩
  · exact h rejection hx
  · exact hf a ha rejection hfa

/-- A loop fails as one of its items does. -/
theorem mapM {f : α → Except Failure β} {items : List α}
    (hf : ∀ item ∈ items, FailsBy P (f item)) : FailsBy P (items.mapM f) := by
  intro rejection hrejection
  obtain ⟨before, item, after, rfl, -, hitem⟩ := mapM_eq_error_iff.mp hrejection
  exact hf item List.mem_append_cons_self rejection hitem

end FailsBy

/-! ## Two runs of a step -/

/-- Two runs end in related results, or in one and the same failure. -/
inductive Alike {ε α β : Type} (R : α → β → Prop) : Except ε α → Except ε β → Prop where
  | ok {a : α} {b : β} (related : R a b) : Alike R (.ok a) (.ok b)
  | error (e : ε) : Alike R (.error e) (.error e)

namespace Alike

variable {ε α β γ δ : Type} {R : α → β → Prop} {x : Except ε α} {y : Except ε β}

/-- Related results that are carried on alike end alike. -/
theorem bind {S : γ → δ → Prop} {f : α → Except ε γ} {g : β → Except ε δ} (h : Alike R x y)
    (hfg : ∀ a b, R a b → Alike S (f a) (g b)) : Alike S (x >>= f) (y >>= g) := by
  cases h with
  | ok related => exact hfg _ _ related
  | error e => exact .error e

theorem cases (h : Alike R x y) :
    (∃ a b, x = .ok a ∧ y = .ok b ∧ R a b) ∨ ∃ e, x = .error e ∧ y = .error e := by
  cases h with
  | ok related => exact .inl ⟨_, _, rfl, rfl, related⟩
  | error e => exact .inr ⟨e, rfl, rfl⟩

/-- Two runs that start with the same step end alike if they go on alike. -/
theorem bind_same {S : γ → δ → Prop} {f : α → Except ε γ} {g : α → Except ε δ}
    (hfg : ∀ a, Alike S (f a) (g a)) : Alike S (x >>= f) (x >>= g) := by
  cases x with
  | ok a => exact hfg a
  | error e => exact .error e

/-- Two runs of a loop over one list end alike if those of its step do on every item. -/
theorem mapM {items : List γ} {f : γ → Except ε α} {g : γ → Except ε β}
    (hfg : ∀ item ∈ items, Alike R (f item) (g item)) :
    Alike (List.Forall₂ R) (items.mapM f) (items.mapM g) := by
  induction items with
  | nil => exact .ok .nil
  | cons item items ih =>
    rw [List.mapM_cons, List.mapM_cons]
    have hfirst : Alike R (f item) (g item) := hfg item List.mem_cons_self
    refine hfirst.bind fun a b hab => ?_
    have hrest : Alike (List.Forall₂ R) (items.mapM f) (items.mapM g) :=
      ih fun item' hitem' => hfg item' (List.mem_cons_of_mem _ hitem')
    exact hrest.bind fun as bs habs => .ok (.cons hab habs)

end Alike

end TableLayout
