import TableLayout.Datum.Decimal
import TableLayout.Text.Quoted

/-!
# The characters of numbers

Numbers are written with digits, a point, signs and the letter of an exponent. A property of these
characters is one of all the characters that a number is written with.

- `HoldsOfNumerals`: a property of the characters that numbers are written with.
- `HoldsOfNumerals.toDigits`, `HoldsOfNumerals.hexDigits`: natural numbers in a base.
- `HoldsOfNumerals.toString`, `HoldsOfNumerals.layoutDigits`: whole numbers, and the digits of
  floating-point numbers.
-/

namespace TableLayout

/-- A property of the characters that numbers are written with. -/
structure HoldsOfNumerals (P : Char → Prop) : Prop where
  digit : ∀ digit < 16, P (Nat.digitChar digit)
  point : P '.'
  letter : P 'e'
  plus : P '+'
  minus : P '-'

namespace HoldsOfNumerals

variable {P : Char → Prop}

/-- What is put before characters to fill a width has the property if the filling has. -/
theorem leftpad {fill : Char} (hfill : P fill) {cs : List Char} (hcs : ∀ c ∈ cs, P c)
    (width : Nat) : ∀ c ∈ cs.leftpad width fill, P c := by
  intro c hc
  rcases List.mem_append.mp hc with hpad | hmem
  · exact List.eq_of_mem_replicate hpad ▸ hfill
  · exact hcs c hmem

variable (h : HoldsOfNumerals P)
include h

theorem zero : P '0' := h.digit 0 (by decide)

/-! ## Natural numbers -/

section Base

variable {base : Nat} (hpositive : 0 < base) (hbase : base ≤ 16)
include hpositive hbase

/-- The digits that are put before the others one by one are remainders, and so they are below
sixteen. -/
theorem toDigitsCore (fuel n : Nat) {cs : List Char} (hcs : ∀ c ∈ cs, P c) :
    ∀ c ∈ Nat.toDigitsCore base fuel n cs, P c := by
  induction fuel generalizing n cs with
  | zero => exact hcs
  -- Digits are put in front, so the characters that are there already have to be arbitrary.
  | succ fuel ih =>
    have hdigit : n % base < 16 := Nat.lt_of_lt_of_le (Nat.mod_lt n hpositive) hbase
    have hcons : ∀ c ∈ Nat.digitChar (n % base) :: cs, P c :=
      List.forall_mem_cons.mpr ⟨h.digit _ hdigit, hcs⟩
    rw [Nat.toDigitsCore]
    split
    · exact hcons
    · exact ih _ hcons

theorem toDigits (n : Nat) : ∀ c ∈ Nat.toDigits base n, P c :=
  h.toDigitsCore hpositive hbase (n + 1) n (List.forall_mem_nil _)

end Base

theorem decimal (n : Nat) : ∀ c ∈ Nat.toDigits 10 n, P c :=
  h.toDigits (by decide) (by decide) n

/-- Numbers in hexadecimal digits, filled with zeros to a width. -/
theorem hexDigits (width n : Nat) : ∀ c ∈ Text.hexDigits width n, P c :=
  leftpad h.zero (h.toDigits (by decide : 0 < 16) (by decide) n) width

/-! ## Whole numbers -/

/-- Whole numbers, with a sign before them if they are negative. -/
theorem toString (n : Int) : ∀ c ∈ (ToString.toString n).toList, P c := by
  cases n with
  | ofNat n =>
    show ∀ c ∈ (String.ofList (Nat.toDigits 10 n)).toList, P c
    rw [String.toList_ofList]
    exact h.decimal n
  | negSucc n =>
    show ∀ c ∈ ("-" ++ String.ofList (Nat.toDigits 10 (n + 1))).toList, P c
    simp only [String.toList_append, String.toList_ofList, List.forall_mem_append]
    exact ⟨List.forall_mem_singleton.mpr h.minus, h.decimal (n + 1)⟩

/-! ## Floating-point numbers -/

theorem zeros (n : Nat) : ∀ c ∈ Decimal.zeros n, P c :=
  fun _ hc => List.eq_of_mem_replicate hc ▸ h.zero

/-- Digits with a point before, behind or among them. -/
theorem positional {digits : List Char} (hdigits : ∀ c ∈ digits, P c) (point : Int) :
    ∀ c ∈ Decimal.positional digits point, P c := by
  unfold Decimal.positional
  split
  · simp only [List.forall_mem_append, List.forall_mem_cons]
    exact ⟨⟨h.zero, h.point, h.zeros _⟩, hdigits⟩
  · split
    · simp only [List.forall_mem_append, List.forall_mem_cons]
      exact ⟨⟨hdigits, h.zeros _⟩, h.point, h.zero, List.forall_mem_nil _⟩
    · simp only [List.forall_mem_append, List.forall_mem_cons]
      exact ⟨fun c hc => hdigits c (List.mem_of_mem_take hc), h.point,
        fun c hc => hdigits c (List.mem_of_mem_drop hc)⟩

/-- One digit before the point, if there is one, and an exponent with its sign. -/
theorem scientific {digits : List Char} (hdigits : ∀ c ∈ digits, P c) (exponent : Int) :
    ∀ c ∈ Decimal.scientific digits exponent, P c := by
  have hfraction : ∀ c ∈ if digits.length ≤ 1 then [] else '.' :: digits.drop 1, P c := by
    split
    · exact List.forall_mem_nil _
    · exact List.forall_mem_cons.mpr ⟨h.point, fun c hc => hdigits c (List.mem_of_mem_drop hc)⟩
  have hmark : P (if exponent < 0 then '-' else '+') := by
    split
    · exact h.minus
    · exact h.plus
  unfold Decimal.scientific
  simp only [List.forall_mem_append, List.forall_mem_cons]
  exact ⟨⟨fun c hc => hdigits c (List.mem_of_mem_take hc), hfraction⟩, h.letter, hmark,
    leftpad h.zero (h.decimal _) 2⟩

/-- The digits of a floating-point number in whichever way they are laid out. -/
theorem layoutDigits (digits : Nat) (exponent : Int) :
    ∀ c ∈ Decimal.layoutDigits digits exponent, P c := by
  unfold Decimal.layoutDigits
  simp only
  split
  · simp only [List.forall_mem_cons]
    exact ⟨h.zero, h.point, h.zero, List.forall_mem_nil _⟩
  · split
    · exact h.positional (h.decimal digits) _
    · exact h.scientific (h.decimal digits) _

theorem sign (negative : Bool) : ∀ c ∈ (Decimal.sign negative).toList, P c := by
  cases negative with
  | false => exact List.forall_mem_nil _
  | true => exact List.forall_mem_cons.mpr ⟨h.minus, List.forall_mem_nil _⟩

end HoldsOfNumerals

end TableLayout
