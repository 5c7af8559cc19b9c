import TableLayout.Datum.Moment
import TableLayout.Text.Quoted

/-!
# The text of a value

- `Datum.quoted`: the text of a value inside others and in messages: texts and bytes stand between
  quote marks, dates and times as calls, lists in brackets, tuples in parentheses, sets and maps in
  braces.
- `Datum.shown`: the text of a value on its own: a text is its own text, and a date or a time stands
  as it is written; all else is as `quoted`.
- `Datum.Prints`: a value has such texts. There may be a limit on the digits of whole numbers, and a
  value that holds a longer one is not written at all.
- `Datum.exceeds?`, `Datum.anyExceeds?`: the limit that a value, or one of several, goes beyond.
-/

namespace TableLayout.Datum

/-- Words with a comma and a blank between them. -/
def commas (words : List String) : String :=
  String.intercalate ", " words

mutual

/-- The text of a value inside others, if the value prints. -/
def quoted : Datum → String
  | .null => "None"
  | .bool b => if b then "True" else "False"
  | .int n => toString n
  | .float x => x.text
  | .text s => Text.quoted s
  | .bytes bs => Text.quotedBytes bs
  | .buffer bs => "bytearray(" ++ Text.quotedBuffer bs ++ ")"
  | .moment sort written => sort.quoted written
  | .list ds => "[" ++ commas (quotedItems ds) ++ "]"
  | .tuple [d] => "(" ++ d.quoted ++ ",)"
  | .tuple ds => "(" ++ commas (quotedItems ds) ++ ")"
  | .set [] => "set()"
  | .set ds => "\x7b" ++ commas (quotedItems ds) ++ "\x7d"
  | .map es => "\x7b" ++ commas (quotedEntries es) ++ "\x7d"

/-- The texts of the values of a list. -/
def quotedItems : List Datum → List String
  | [] => []
  | d :: ds => d.quoted :: quotedItems ds

/-- The texts of the entries of a map. -/
def quotedEntries : List (Datum × Datum) → List String
  | [] => []
  | (k, v) :: es => (k.quoted ++ ": " ++ v.quoted) :: quotedEntries es

end

/-- The text of a value on its own, if the value prints. -/
def shown : Datum → String
  | .text s => s
  | .moment _ written => written
  | d => d.quoted

/-! ## Long numbers -/

/-- Whether a whole number has no more digits than there may be. The sign does not count. -/
def fitsNumber (most : Nat) (n : Int) : Bool :=
  (Nat.toDigits 10 n.natAbs).length ≤ most

mutual

/-- Whether no whole number in a value has more digits than there may be. -/
def fits (most : Nat) : Datum → Bool
  | .int n => fitsNumber most n
  | .list ds | .tuple ds | .set ds => fitItems most ds
  | .map es => fitEntries most es
  | _ => true

/-- Whether this holds for all values of a list. -/
def fitItems (most : Nat) : List Datum → Bool
  | [] => true
  | d :: ds => d.fits most && fitItems most ds

/-- Whether this holds for all keys and values of a map. -/
def fitEntries (most : Nat) : List (Datum × Datum) → Bool
  | [] => true
  | (k, v) :: es => k.fits most && v.fits most && fitEntries most es

end

/-- A value can be written where whole numbers may have `limit` digits. Without a limit every value
can. -/
def Prints (limit : Option Nat) (d : Datum) : Prop :=
  ∀ most ∈ limit, d.fits most = true

/-- The limit that a value goes beyond. -/
def exceeds? (limit : Option Nat) (d : Datum) : Option Nat :=
  limit.filter fun most => !d.fits most

/-- The limit that one of several values goes beyond. -/
def anyExceeds? (limit : Option Nat) (ds : List Datum) : Option Nat :=
  ds.findSome? fun d => d.exceeds? limit

/-- The words for a value that goes beyond a limit. -/
def tooLong (most : Nat) : String :=
  s!"Exceeds the limit ({most} digits) for integer string conversion; "
    ++ "use sys.set_int_max_str_digits() to increase the limit"

theorem exceeds?_eq_some_iff {limit : Option Nat} {d : Datum} {most : Nat} :
    d.exceeds? limit = some most ↔ limit = some most ∧ d.fits most = false := by
  simp [exceeds?, Option.filter_eq_some_iff]

theorem exceeds?_eq_none_iff {limit : Option Nat} {d : Datum} :
    d.exceeds? limit = none ↔ d.Prints limit := by
  simp [exceeds?, Prints, Option.filter_eq_none_iff]

instance (limit : Option Nat) (d : Datum) : Decidable (d.Prints limit) :=
  decidable_of_iff _ exceeds?_eq_none_iff

theorem anyExceeds?_eq_findSome?_map {limit : Option Nat} {ds : List Datum} :
    anyExceeds? limit ds = (ds.map (·.exceeds? limit)).findSome? id := by
  rw [List.findSome?_map, anyExceeds?]
  rfl

theorem anyExceeds?_eq_none_iff {limit : Option Nat} {ds : List Datum} :
    anyExceeds? limit ds = none ↔ ∀ d ∈ ds, d.Prints limit := by
  simp [anyExceeds?, exceeds?_eq_none_iff]

@[simp] theorem prints_none (d : Datum) : d.Prints none :=
  fun _ h => nomatch h

@[simp] theorem prints_text (limit : Option Nat) (s : String) : (text s).Prints limit :=
  fun _ _ => rfl

/-- What goes beyond a limit is no text. -/
theorem ne_text_of_fits_eq_false {most : Nat} {d : Datum} (h : d.fits most = false) (s : String) :
    d ≠ .text s := by
  rintro rfl
  cases h

end TableLayout.Datum
