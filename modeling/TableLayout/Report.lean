import TableLayout.Datum.Json
import TableLayout.Layout.Basic
import TableLayout.Text.Blank

/-!
# Reports (specification §3.4, §7.4)

- `Column.document`, `Layout.document`: a column and a layout as values.
- `Report.text`: a layout as text: a title, and a line for each column with its name, its type and
  its flags, the types below each other.
- `Report.Prints`: all that this text shows can be written.
- `Report.json`: a layout as JSON.
-/

namespace TableLayout

/-- A map with texts as keys. -/
def Datum.object (entries : List (String × Datum)) : Datum :=
  .map (entries.map fun entry => (.text entry.1, entry.2))

/-- Names as a list. -/
def Datum.names (names : List String) : Datum :=
  .list (names.map .text)

/-- A column as a value. -/
def Column.document (column : Column) : Datum :=
  .object [
    ("name", .text column.name),
    ("type", .text column.schema.type.text),
    ("logical_name", column.schema.name),
    ("primary_key", .bool column.isKey),
    ("optional", .bool column.isOptional),
    ("default", column.schema.default)]

namespace Layout

/-- The key columns that are read from the record's key, as a value. -/
def keySourcedDocument (layout : Layout) : Datum :=
  match layout.keySourced with
  | some names => .names names
  | none => .null

/-- The entries of a layout as a value. -/
def documentEntries (layout : Layout) : List (String × Datum) := [
  ("key_field_names", .names layout.keyNames),
  ("key_field_names_in_key", layout.keySourcedDocument),
  ("non_key_field_names", .names layout.otherNames),
  ("fields", .list (layout.allColumns.map Column.document))]

/-- A layout as a value. -/
def document (layout : Layout) : Datum :=
  .object layout.documentEntries

end Layout

namespace Report

/-- A text with blanks after it, up to a width. -/
def padded (width : Nat) (s : String) : String :=
  s ++ String.ofList (List.replicate (width - s.length) ' ')

/-- The width of the longest name. -/
def width (layout : Layout) : Nat :=
  (layout.columns.names.map String.length).foldl max 0

/-- The type of a column, with its logical name. -/
def typeLabel (column : Column) : String :=
  match column.schema.name with
  | .null => column.schema.type.text
  | name => s!"{column.schema.type.text} ({name.shown})"

/-- What else there is to say of a column. -/
def flags (layout : Layout) (column : Column) : List String :=
  let source := match layout.keySourced with
    -- Only where headers name the columns is there a source to tell.
    | some _ => [if layout.isKeySourced column.name then "from key" else "from value"]
    | none => []
  let key := if column.isKey then "PRIMARY KEY" :: source
    else if column.isOptional then ["nullable"] else []
  let default := match column.schema.default with
    | .null => []
    | value => ["default=" ++ value.quoted]
  key ++ default

/-- The line for a column. -/
def line (layout : Layout) (column : Column) : String :=
  Text.stripEnd ("  " ++ padded (width layout) column.name ++ "  " ++ typeLabel column ++ "  "
    ++ String.intercalate ", " (flags layout column))

/-- The title of a report. -/
def title (table : String) (mode : KeyMode) : String :=
  s!"Table: {table} (pk_mode={mode.text})"

/-- The values that the line for a column shows: its logical name and its default. -/
def shownValues (column : Column) : List Datum :=
  [column.schema.name, column.schema.default]

/-- A layout as text, where whole numbers of `digits` digits at most can be written. -/
def text (table : String) (mode : KeyMode) (layout : Layout) (digits : Option Nat := none) :
    Except Defect String :=
  match Datum.anyExceeds? digits (layout.allColumns.flatMap shownValues) with
  | some most => .error (.longNumber most)
  | none =>
    .ok (String.intercalate "\n" (title table mode :: layout.allColumns.map (line layout)))

/-- The logical names and the defaults of all columns can be written. -/
def Prints (digits : Option Nat) (layout : Layout) : Prop :=
  ∀ column ∈ layout.allColumns,
    column.schema.name.Prints digits ∧ column.schema.default.Prints digits

instance (digits : Option Nat) (layout : Layout) : Decidable (Prints digits layout) :=
  inferInstanceAs (Decidable (∀ column ∈ layout.allColumns, _))

theorem text_eq_of_prints {digits : Option Nat} {layout : Layout} (h : Prints digits layout)
    (table : String) (mode : KeyMode) : text table mode layout digits =
      .ok (String.intercalate "\n" (title table mode :: layout.allColumns.map (line layout))) := by
  have hnone : Datum.anyExceeds? digits (layout.allColumns.flatMap shownValues) = none := by
    refine Datum.anyExceeds?_eq_none_iff.mpr fun value hvalue => ?_
    obtain ⟨column, hcolumn, hshown⟩ := List.mem_flatMap.mp hvalue
    simp only [shownValues, List.mem_cons, List.not_mem_nil, or_false] at hshown
    rcases hshown with rfl | rfl
    · exact (h column hcolumn).1
    · exact (h column hcolumn).2
  rw [text, hnone]

theorem prints_unlimited (layout : Layout) : Prints none layout :=
  fun column _ => ⟨column.schema.name.prints_none, column.schema.default.prints_none⟩

/-- A layout as JSON, or the kind of a key in a default value that has no form in JSON. -/
def json (table : String) (mode : KeyMode) (layout : Layout) : Except Datum.Kind String :=
  (Datum.object (("table", .text table) :: ("pk_mode", .text mode.text) ::
    layout.documentEntries)).jsonText

end Report

end TableLayout
