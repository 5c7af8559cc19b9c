import TableLayout.Proofs.Datum.Printed
import TableLayout.Proofs.Resolve.Lawful
import TableLayout.Report

/-!
# Reports in full

The report of a layout has a line for every column. Its types stand below each other, and trimming
takes no more than the blanks after a line without flags, since neither labels nor flags end in one.

- `Report.Label`, `Report.Flags`: all there is to say of a column beside its name.
- `Report.Shows`: a line shows a column in full.
- `Report.max?_lengths`: there is a longest name.
- `Report.line_shows`: the line for a column shows it.
- `Report.Complete`, `Report.complete_of_resolve`: the report of a layout that was resolved shows
  all of its columns.
-/

namespace TableLayout

open Text (EndsSolid)

namespace Report

/-! ## What a line shows -/

/-- What comes before the label of a column: its name between blanks, with more blanks after it up
to the width. All labels begin at the same place then. -/
structure Lead (width : Nat) (name lead : String) : Prop where
  name : ∃ n, name.length + n = width ∧
    lead = "  " ++ name ++ String.ofList (List.replicate n ' ') ++ "  "
  length : lead.length = width + 4

/-- The label of a column: its type, and its logical name in parentheses if it has one. -/
inductive Label (column : Column) : String → Prop
  | plain (hname : column.schema.name = .null) : Label column column.schema.type.text
  | named (hname : column.schema.name ≠ .null) :
    Label column (column.schema.type.text ++ " (" ++ column.schema.name.shown ++ ")")

/-- The flags that say how a column stands to the key. Only where headers name the columns do they
say where the value of a key column is read from. -/
inductive Standing (mode : KeyMode) (layout : Layout) (column : Column) : List String → Prop
  | key (hkey : column.name ∈ layout.keyNames) (hmode : mode ≠ .flatten) :
    Standing mode layout column ["PRIMARY KEY"]
  | fromKey {sourced : List String} (hkey : column.name ∈ layout.keyNames)
    (hmode : mode = .flatten) (hsourced : layout.keySourced = some sourced)
    (hname : column.name ∈ sourced) : Standing mode layout column ["PRIMARY KEY", "from key"]
  | fromValue {sourced : List String} (hkey : column.name ∈ layout.keyNames)
    (hmode : mode = .flatten) (hsourced : layout.keySourced = some sourced)
    (hname : column.name ∉ sourced) : Standing mode layout column ["PRIMARY KEY", "from value"]
  | nullable (hother : column.name ∉ layout.keyNames) (hoptional : column.schema.optional = true) :
    Standing mode layout column ["nullable"]
  | required (hother : column.name ∉ layout.keyNames) (hoptional : column.schema.optional = false) :
    Standing mode layout column []

/-- The flag that gives the default of a column, if it has one. -/
inductive Default (column : Column) : List String → Prop
  | absent (hdefault : column.schema.default = .null) : Default column []
  | given (hdefault : column.schema.default ≠ .null) :
    Default column ["default=" ++ column.schema.default.quoted]

/-- The flags of a column. Those of key columns alone are marked as such. -/
structure Flags (mode : KeyMode) (layout : Layout) (column : Column) (flags : List String) :
    Prop where
  parts : ∃ standing default, flags = standing ++ default ∧
    Standing mode layout column standing ∧ Default column default
  marked : "PRIMARY KEY" ∈ flags ↔ column.name ∈ layout.keyNames

/-- A line shows a column in full. It ends with the label if there are no flags. -/
inductive Shows (mode : KeyMode) (layout : Layout) (width : Nat) (column : Column) : String → Prop
  | plain {lead label : String} (hlead : Lead width column.name lead) (hlabel : Label column label)
    (hflags : Flags mode layout column []) : Shows mode layout width column (lead ++ label)
  | flagged {lead label : String} {flags : List String} (hlead : Lead width column.name lead)
    (hlabel : Label column label) (hflags : Flags mode layout column flags) (hne : flags ≠ []) :
    Shows mode layout width column (lead ++ label ++ "  " ++ String.intercalate ", " flags)

variable {mode : KeyMode} {layout : Layout} {column : Column}

/-! ## Names -/

/-- If there is a name, there is a longest one. -/
theorem max?_lengths (hne : layout.columns.names ≠ []) :
    (layout.columns.names.map String.length).max? = some (width layout) := by
  obtain ⟨name, names, hnames⟩ := List.exists_cons_of_ne_nil hne
  rw [width, hnames, List.map_cons, List.max?_cons', List.foldl_cons, Nat.zero_max]

theorem length_le_width (hne : layout.columns.names ≠ []) {name : String}
    (hname : name ∈ layout.columns.names) : name.length ≤ width layout :=
  (List.max?_eq_some_iff.mp (max?_lengths hne)).2 _ (List.mem_map_of_mem hname)

/-- Names are filled up to the width, so that all labels begin at the same place. -/
theorem lead_padded {width : Nat} {name : String} (h : name.length ≤ width) :
    Lead width name ("  " ++ padded width name ++ "  ") := by
  have hlength : name.length + (width - name.length) = width := Nat.add_sub_of_le h
  have hblanks : "  ".length = 2 := by decide
  refine ⟨⟨_, hlength, by simp only [padded, String.append_assoc]⟩, ?_⟩
  simp only [padded, String.length_append, String.length_ofList, List.length_replicate, hblanks]
  omega

/-! ## Labels and flags -/

theorem endsSolid_text (type : ValueType) : EndsSolid type.text := by
  cases type <;> decide

theorem Label.endsSolid {label : String} (h : Label column label) : EndsSolid label := by
  cases h with
  | plain => exact endsSolid_text _
  | named => exact EndsSolid.append_left (by decide : EndsSolid ")") _

/-- The label gives the type and, if there is one, the logical name. -/
theorem label_typeLabel (column : Column) : Label column (typeLabel column) := by
  unfold typeLabel
  split
  · next hname => exact .plain hname
  · next hname => exact .named hname

/-- No flag on the key ends in a blank, since these are words. -/
theorem Standing.endsSolid {standing : List String} (h : Standing mode layout column standing) :
    ∀ flag ∈ standing, EndsSolid flag := by
  cases h <;> decide

/-- The flag of a default does not end in a blank either, whatever the default is. -/
theorem Default.endsSolid {default : List String} (h : Default column default) :
    ∀ flag ∈ default, EndsSolid flag := by
  cases h with
  | absent => exact nofun
  | given =>
    refine List.forall_mem_singleton.mpr ?_
    exact (Datum.endsSolid_quoted _).append_left _

theorem Flags.endsSolid {flags : List String} (h : Flags mode layout column flags) :
    ∀ flag ∈ flags, EndsSolid flag := by
  obtain ⟨standing, default, rfl, hstanding, hdefault⟩ := h.parts
  exact List.forall_mem_append.mpr ⟨hstanding.endsSolid, hdefault.endsSolid⟩

/-- The mark of a key column stands for a name of the key. -/
theorem Standing.marked_iff {standing : List String} (h : Standing mode layout column standing) :
    "PRIMARY KEY" ∈ standing ↔ column.name ∈ layout.keyNames := by
  cases h with
  | key hkey => exact iff_of_true (by decide) hkey
  | fromKey hkey => exact iff_of_true (by decide) hkey
  | fromValue hkey => exact iff_of_true (by decide) hkey
  | nullable hother => exact iff_of_false (by decide) hother
  | required hother => exact iff_of_false (by decide) hother

/-- No default is taken for the mark of a key column. -/
theorem Default.not_marked {default : List String} (h : Default column default) :
    "PRIMARY KEY" ∉ default := by
  cases h with
  | absent => exact List.not_mem_nil
  | given =>
    intro hmem
    -- The flag of a default begins with another letter than the mark.
    have hchars := congrArg String.toList (List.mem_singleton.mp hmem)
    rw [String.toList_append] at hchars
    exact absurd (List.cons.inj hchars).1 (by decide)

theorem Standing.flags {standing default : List String}
    (hstanding : Standing mode layout column standing) (hdefault : Default column default) :
    Flags mode layout column (standing ++ default) := by
  refine ⟨⟨standing, default, rfl, hstanding, hdefault⟩, ?_⟩
  rw [List.mem_append, or_iff_left hdefault.not_marked, hstanding.marked_iff]

/-! ## Lines -/

section Lawful

variable (hlayout : layout.Lawful mode)
  (hentry : (column.name, column) ∈ layout.columns.entries)
include hlayout hentry

/-- The flags that are written are those of the column. -/
theorem flags_of_lawful : Flags mode layout column (flags layout column) := by
  have hisKey : column.isKey = true ↔ column.name ∈ layout.keyNames :=
    hlayout.isKey_iff column.name column hentry
  refine Standing.flags ?standing ?default
  case standing =>
    -- Is the column one of the key, do headers name it, and is it read from the record's key?
    by_cases hkey : column.name ∈ layout.keyNames
    · rw [if_pos (hisKey.mpr hkey)]
      by_cases hmode : mode = .flatten
      · obtain ⟨sourced, hsourced, -⟩ := hlayout.sourced hmode
        simp only [Layout.isKeySourced, hsourced, Option.getD_some, List.contains_iff_mem]
        by_cases hname : column.name ∈ sourced
        · rw [if_pos hname]
          exact .fromKey hkey hmode hsourced hname
        · rw [if_neg hname]
          exact .fromValue hkey hmode hsourced hname
      · rw [hlayout.plain hmode]
        exact .key hkey hmode
    · have hother : column.isKey = false := Bool.eq_false_iff.mpr (mt hisKey.mp hkey)
      rw [if_neg (mt hisKey.mp hkey), Column.isOptional, hother, Bool.not_false, Bool.true_and]
      cases hoptional : column.schema.optional
      · exact .required hkey hoptional
      · exact .nullable hkey hoptional
  case default =>
    split
    · next hdefault => exact .absent hdefault
    · next hdefault => exact .given hdefault

/-- The line for a column shows it: what trimming takes away are the blanks after a label without
flags. -/
theorem line_shows : Shows mode layout (width layout) column (line layout column) := by
  have hname : column.name ∈ layout.columns.names := List.mem_map_of_mem hentry
  have hlead := lead_padded (length_le_width hlayout.nonempty hname)
  have hlabel := label_typeLabel column
  have hflags := flags_of_lawful hlayout hentry
  rw [line]
  cases hnone : flags layout column with
  -- Without flags the two blanks after the label are trimmed, but nothing before them.
  | nil =>
    rw [hnone] at hflags
    have hblanks : ∀ c ∈ ("  " ++ String.intercalate ", " []).toList, Text.isBlank c = true :=
      List.all_eq_true.mp (by decide)
    rw [String.append_assoc, Text.stripEnd_append_blanks _ hblanks,
      (hlabel.endsSolid.append_left _).stripEnd_eq]
    exact .plain hlead hlabel hflags
  -- The last flag ends solid, so there is nothing to trim.
  | cons flag rest =>
    have hne : flag :: rest ≠ [] := List.cons_ne_nil _ _
    rw [hnone] at hflags
    rw [((EndsSolid.intercalate ", " hne hflags.endsSolid).append_left _).stripEnd_eq]
    exact .flagged hlead hlabel hflags hne

end Lawful

/-! ## Reports -/

/-- Lines for the columns of a layout: one for each, those of the key first, as in the layout's
list of fields. There is a column under every name and a longest name, so nothing stands in the way
of writing the lines. -/
structure Complete (mode : KeyMode) (layout : Layout) (width : Nat) (lines : List String) :
    Prop where
  found : (layout.keyNames ++ layout.otherNames).mapM layout.columns.find? = some layout.allColumns
  once : layout.columns.entries = layout.allColumns.map fun column => (column.name, column)
  ordered : ("fields", .list (layout.allColumns.map Column.document)) ∈ layout.documentEntries
  longest : (layout.columns.names.map String.length).max? = some width
  shows : List.Forall₂ (Shows mode layout width) layout.allColumns lines

/-- The lines that are written show all columns of a lawful layout. -/
theorem complete_lines {key : KeyColumns} {others : List Column}
    (hjoins : layout.Joins key others) (hlayout : layout.Lawful mode) :
    Complete mode layout (width layout) (layout.allColumns.map (line layout)) := by
  have hall : layout.allColumns = key.columns ++ others := hjoins.allColumns_eq
  have honce : layout.columns.entries = layout.allColumns.map fun column => (column.name, column) :=
    hall ▸ hjoins.entries
  constructor
  -- The names in the order of the lists are those of all columns.
  case found =>
    have hnames : layout.keyNames ++ layout.otherNames = layout.allColumns.map Column.name := by
      rw [hjoins.keyNames, hjoins.otherNames, hall, List.map_append]
      rfl
    rw [hnames]
    exact hjoins.mapM_find? fun column hcolumn => List.mem_append.mp (hall ▸ hcolumn)
  case once => exact honce
  case ordered => simp [Layout.documentEntries]
  case longest => exact max?_lengths hlayout.nonempty
  case shows =>
    refine List.forall₂_map_right_iff.mpr (List.forall₂_same.mpr fun column hcolumn => ?_)
    exact line_shows hlayout (honce ▸ List.mem_map_of_mem hcolumn)

/-- The report of a layout that was resolved is its title and then, for each of its columns, a line
that shows it in full. It is taken for granted that logical names and defaults can be written, which
is so for all of them unless there is a limit on the digits of numbers. -/
theorem complete_of_resolve {given : Datum} {whitelist : List String} {request : KeyRequest}
    (h : (resolve given whitelist request).outcome = .ok layout) (table : String)
    (titled : KeyMode) (digits : Option Nat) (hprints : Prints digits layout) :
    ∃ mode : KeyMode, given = .text mode.text ∧ ∃ width lines, Complete mode layout width lines ∧
      text table titled layout digits =
        .ok (String.intercalate "\n" (title table titled :: lines)) := by
  obtain ⟨mode, key, hmode, hleads⟩ := Resolve.outcome_eq_ok_iff_leadsTo.mp h
  have hlayout : layout.Lawful mode :=
    hleads.joins.lawful (Key.lawful_of_derive hleads.derives) (fun _ => Resolve.mem_remaining)
      hleads.distinct hleads.nonempty
  exact ⟨mode, hmode, width layout, _, complete_lines hleads.joins hlayout,
    text_eq_of_prints hprints table titled⟩

/-- A record with two key columns that headers name, one of them read from the record's key. Its
default ends in a blank, that of the other one is a number, and the last column has no flags. -/
def reportedRequest : KeyRequest where
  table := "orders"
  key := some { Schema.ofType .struct false with
    fields := Schema.numbered [("id", .ofType .int32 false)] }
  value := some { Schema.ofType .struct false with
    fields := Schema.numbered [("id", { Schema.ofType .int32 false with default := .int (-1) }),
      ("region", { Schema.ofType .string true with default := .text "eu " }),
      ("note", { Schema.ofType .string true with name := .text "free text" }),
      ("count", .ofType .int64 false)] }
  headers := [⟨"id", .text "region"⟩, ⟨"x", .text "id"⟩]

theorem complete_reportedRequest :
    ∃ layout, (resolve (.text "flatten") [] reportedRequest).outcome = .ok layout ∧
      Prints (some 4300) layout ∧
      text "orders" .flatten layout (some 4300) = .ok (String.intercalate "\n" [
        "Table: orders (pk_mode=flatten)",
        "  region  string  PRIMARY KEY, from key, default='eu '",
        "  id      int32  PRIMARY KEY, from value, default=-1",
        "  note    string (free text)  nullable",
        "  count   int64"]) ∧
      ∃ mode : KeyMode, Datum.text "flatten" = .text mode.text ∧ ∃ width lines,
        Complete mode layout width lines ∧
          text "orders" .flatten layout (some 4300) =
            .ok (String.intercalate "\n" (title "orders" .flatten :: lines)) := by
  have houtcome : (resolve (.text "flatten") [] reportedRequest).outcome = .ok _ := rfl
  refine ⟨_, houtcome, by decide, rfl, ?_⟩
  exact complete_of_resolve houtcome "orders" .flatten (some 4300) (by decide)

end Report

end TableLayout
