import TableLayout.Datum.Basic
import TableLayout.Text.Names

/-!
# Keys that do not belong

A map with a fixed set of keys is checked for keys outside of it, and a message lists these in
order.

- `Datum.surplusKeys`: the keys of a map outside an allowed list.
- `Datum.keyNames`: the texts of keys, sorted. Only texts can be listed: other keys are a
  `KeyFault`.
-/

namespace TableLayout.Datum

/-- Why keys cannot be listed. -/
inductive KeyFault where
  /-- The first key in order is not a text. -/
  | notText (kind : Kind)
  /-- Two keys have no order. -/
  | unordered (left right : Kind)
deriving DecidableEq, Repr

/-- The words for a fault. -/
def KeyFault.message : KeyFault → String
  | .notText kind => s!"sequence item 0: expected str instance, {kind.name} found"
  | .unordered left right =>
    s!"'<' not supported between instances of '{left.name}' and '{right.name}'"

/-- The keys of a map that are not among the allowed texts. -/
def surplusKeys (allowed : List String) (entries : List (Datum × Datum)) : List Datum :=
  (entries.map Prod.fst).filter fun key => !allowed.any key.isText

/-- A number by the digits of its value. -/
def decimal? : Datum → Option Decimal
  | .bool b => some (.ofInt (if b then 1 else 0))
  | .int n => some (.ofInt n)
  | .float x => some x.exact
  | _ => none

/-- Whether two values have an order: numbers with numbers, and otherwise bytes or tuples with
their like. -/
def ordered (a b : Datum) : Bool :=
  (a.decimal?.isSome && b.decimal?.isSome)
    || (a.kind == b.kind && (a.kind == .bytes || a.kind == .tuple))

/-- The lesser of two keys. -/
def lesser (a b : Datum) : Datum :=
  match a.decimal?, b.decimal? with
  | some x, some y => if y.below x then b else a
  | _, _ => a

/-- The fault of keys of which not all are texts, the others first. -/
def keyFault : List Datum → KeyFault
  | [] => .notText .null
  | first :: rest =>
    match (first :: rest).zip rest |>.find? fun pair => !ordered pair.1 pair.2 with
    | some (left, right) => .unordered right.kind left.kind
    | none => .notText (rest.foldl lesser first).kind

/-- The texts of keys, sorted. -/
def keyNames (keys : List Datum) : Except KeyFault (List String) :=
  let (texts, others) := keys.partition fun key => key.text?.isSome
  if others.isEmpty then .ok (Text.sorted (texts.filterMap text?))
  else .error (keyFault (others ++ texts))

end TableLayout.Datum
