import TableLayout.Datum.Decimal

/-!
# Data

Schemas, settings and record files are given as data: the values that a configuration file loads to.
Texts are sequences of characters, so no half of a surrogate pair stands in one alone, and no value
is a part of itself.

- `Datum`: a value: null, a truth value, a number, a text, bytes in one of two carriers, a date or a
  time, a list, a tuple, a set, or a map in the order of its entries.
- `Datum.Kind`, `Datum.kind`: what a value is called in messages.
- `Datum.isTrue`: whether a value counts as true.
- `Datum.find?`: the value under a text key in the entries of a map.
-/

namespace TableLayout

/-- What a date or a time fixes. -/
inductive Moment where
  | date | time | dateTime
deriving DecidableEq, Repr

/-- A value. -/
inductive Datum where
  | null
  | bool (value : Bool)
  | int (value : Int)
  | float (value : Decimal)
  | text (value : String)
  | bytes (value : List UInt8)
  /-- Bytes in a buffer that its owner may still change. -/
  | buffer (value : List UInt8)
  /-- A date or a time, as somebody wrote it. -/
  | moment (sort : Moment) (written : String)
  | list (items : List Datum)
  | tuple (items : List Datum)
  | set (items : List Datum)
  | map (entries : List (Datum × Datum))
deriving Inhabited, Repr

namespace Datum

/-- The kinds of values. -/
inductive Kind where
  | null | bool | int | float | text | bytes | buffer | date | time | dateTime
  | list | tuple | set | map
deriving DecidableEq, Repr

/-- The word for a kind in messages. -/
def Kind.name : Kind → String
  | .null => "NoneType"
  | .bool => "bool"
  | .int => "int"
  | .float => "float"
  | .text => "str"
  | .bytes => "bytes"
  | .buffer => "bytearray"
  | .date => "date"
  | .time => "time"
  | .dateTime => "datetime"
  | .list => "list"
  | .tuple => "tuple"
  | .set => "set"
  | .map => "dict"

/-- The kind of a value. -/
def kind : Datum → Kind
  | .null => .null
  | .bool _ => .bool
  | .int _ => .int
  | .float _ => .float
  | .text _ => .text
  | .bytes _ => .bytes
  | .buffer _ => .buffer
  | .moment .date _ => .date
  | .moment .time _ => .time
  | .moment .dateTime _ => .dateTime
  | .list _ => .list
  | .tuple _ => .tuple
  | .set _ => .set
  | .map _ => .map

/-- Null, false, zero and whatever is empty count as false, all else as true. -/
def isTrue : Datum → Bool
  | .null => false
  | .bool b => b
  | .int n => n != 0
  | .float x => !x.isZero
  | .text s => s != ""
  | .bytes bs | .buffer bs => !bs.isEmpty
  | .moment _ _ => true
  | .list ds | .tuple ds | .set ds => !ds.isEmpty
  | .map es => !es.isEmpty

/-- The value, unless it is null. -/
def notNull? : Datum → Option Datum
  | .null => none
  | d => some d

/-- A text's characters, and nothing for other values. -/
def text? : Datum → Option String
  | .text s => some s
  | _ => none

/-- Whether a value is the given text. -/
def isText (name : String) : Datum → Bool
  | .text s => s == name
  | _ => false

/-- The value of the first entry under a text key. -/
def find? (entries : List (Datum × Datum)) (name : String) : Option Datum :=
  (entries.find? fun entry => entry.1.isText name).map Prod.snd

/-- The value under a text key, or null. -/
def get (entries : List (Datum × Datum)) (name : String) : Datum :=
  (find? entries name).getD .null

/-- The entries without those under a text key. -/
def without (entries : List (Datum × Datum)) (name : String) : List (Datum × Datum) :=
  entries.filter fun entry => !entry.1.isText name

@[simp] theorem isText_iff {name : String} {d : Datum} : d.isText name = true ↔ d = .text name := by
  cases d <;> simp [isText]

theorem notNull?_eq_some_iff {d d' : Datum} : d.notNull? = some d' ↔ d = d' ∧ d' ≠ .null := by
  cases d with
  | null =>
    refine iff_of_false nofun ?_
    rintro ⟨rfl, hnull⟩
    exact hnull rfl
  | _ =>
    refine Option.some_inj.trans (iff_self_and.mpr ?_)
    rintro rfl
    exact nofun

@[simp] theorem find?_nil (name : String) : find? [] name = none := rfl

theorem find?_cons (k v : Datum) (es : List (Datum × Datum)) (name : String) :
    find? ((k, v) :: es) name = if k.isText name then some v else find? es name := by
  by_cases h : k.isText name <;> simp [find?, h]

theorem mem_of_find? {es : List (Datum × Datum)} {name : String} {d : Datum}
    (h : find? es name = some d) : (.text name, d) ∈ es := by
  simp only [find?, Option.map_eq_some_iff] at h
  obtain ⟨⟨k, v⟩, hfound, rfl⟩ := h
  have hk := List.find?_some hfound
  simp only [isText_iff] at hk
  exact hk ▸ List.mem_of_find?_eq_some hfound

end Datum

end TableLayout
