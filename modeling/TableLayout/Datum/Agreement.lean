import TableLayout.Datum.Basic

/-!
# Agreement of values

When two values count as equal.

- `Datum.Number`, `Datum.number?`: the number that a value stands for: a truth value stands for one
  or zero, and a floating-point number without fraction for a whole number.
- `Datum.octets?`: the bytes of a value in either carrier.
- `Datum.agrees`: equality. Numbers agree by value and bytes by content, lists agree with lists and
  tuples with tuples, item by item, and neither sets nor maps care about order. Dates and times
  agree if they are written alike: one instant that is written for two zones makes two values here.
- `Datum.ofPairs`: the map of a list of pairs: a key given twice keeps its first place and its last
  value.
- `Datum.unhashable?`: the first part of a value that cannot serve as a key.
-/

namespace TableLayout.Datum

/-- A number by its value. -/
inductive Number where
  | whole (n : Int)
  | other (x : Decimal)
deriving DecidableEq, Repr

/-- The number that a value stands for. -/
def number? : Datum → Option Number
  | .bool b => some (.whole (if b then 1 else 0))
  | .int n => some (.whole n)
  | .float x => some (match x.whole? with
    | some n => .whole n
    | none => .other x)
  | _ => none

/-- The bytes of a value. -/
def octets? : Datum → Option (List UInt8)
  | .bytes bs | .buffer bs => some bs
  | _ => none

/-- Both are there and equal. -/
def bothEqual {α : Type} [DecidableEq α] : Option α → Option α → Bool
  | some a, some b => a == b
  | _, _ => false

mutual

/-- Whether two values count as equal. Instants are not compared, only how they are written. -/
def agrees : Datum → Datum → Bool
  | .null, .null => true
  | .text s, .text t => s == t
  | .moment m s, .moment n t => m == n && s == t
  | .list ds, .list ds' => agreeItems ds ds'
  | .tuple ds, .tuple ds' => agreeItems ds ds'
  -- The members of a set are distinct, so it is enough to look from one side.
  | .set ds, .set ds' => ds.length == ds'.length && agreeMembers ds ds'
  | .map es, .map es' => es.length == es'.length && agreeEntries es es'
  | d, d' => bothEqual d.number? d'.number? || bothEqual d.octets? d'.octets?

/-- Whether two lists agree item by item. -/
def agreeItems : List Datum → List Datum → Bool
  | [], [] => true
  | d :: ds, d' :: ds' => d.agrees d' && agreeItems ds ds'
  | _, _ => false

/-- Whether every member of the first list agrees with one of the second. -/
def agreeMembers : List Datum → List Datum → Bool
  | [], _ => true
  | d :: ds, ds' => ds'.any d.agrees && agreeMembers ds ds'

/-- Whether every entry of the first list agrees with one of the second. -/
def agreeEntries : List (Datum × Datum) → List (Datum × Datum) → Bool
  | [], _ => true
  | (k, v) :: es, es' =>
    (es'.any fun entry => k.agrees entry.1 && v.agrees entry.2) && agreeEntries es es'

end

/-- Puts a value under a key: in the place of the key if it is there, else at the end. -/
def put : List (Datum × Datum) → Datum → Datum → List (Datum × Datum)
  | [], k, v => [(k, v)]
  | (k', v') :: es, k, v => if k'.agrees k then (k', v) :: es else (k', v') :: put es k v

/-- The map of a list of pairs. -/
def ofPairs (pairs : List (Datum × Datum)) : Datum :=
  .map (pairs.foldl (fun es pair => put es pair.1 pair.2) [])

mutual

/-- The kind of the first part of a value that cannot serve as a key. -/
def unhashable? : Datum → Option Kind
  | .buffer _ => some .buffer
  | .list _ => some .list
  | .set _ => some .set
  | .map _ => some .map
  | .tuple ds => unhashableItem? ds
  | _ => none

/-- The first among several values. -/
def unhashableItem? : List Datum → Option Kind
  | [] => none
  | d :: ds => d.unhashable?.or (unhashableItem? ds)

end

end TableLayout.Datum
