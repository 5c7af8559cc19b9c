import TableLayout.Schema.Basic

/-!
# Columns (specification §3.3)

- `Column`: a column of the destination table: its name, the schema of its values, and whether it
  belongs to the key.
- `Column.isOptional`: whether the column may be null; a key column never is.
- `Column.firstByName`: of the columns of one name the first.
-/

namespace TableLayout

/-- A column of a table. -/
structure Column where
  name : String
  schema : Schema
  isKey : Bool

namespace Column

/-- Whether the column may be null. -/
def isOptional (column : Column) : Bool :=
  !column.isKey && column.schema.optional

/-- Equality of columns, with schemas compared by `Schema.agrees`. -/
def agrees (a b : Column) : Bool :=
  a.name == b.name && a.schema.agrees b.schema && a.isKey == b.isKey

/-- The columns without those that have the name of an earlier one. -/
def firstByName : List Column → List Column
  | [] => []
  | column :: columns => column :: (firstByName columns).filter fun c => c.name != column.name

theorem isOptional_of_isKey {column : Column} (h : column.isKey) : column.isOptional = false := by
  simp [isOptional, h]

end Column

end TableLayout
