import TableLayout.Proofs.Resolve.Lawful
import TableLayout.SqlColumn

/-!
# Columns for a database

Which columns have a type in a database, and what the columns of a database have from the layout
that they stand for.

- `SqlType.logicalNames`: the logical names that stand for types.
- `Schema.Unfit`: what has no column: an array, a map or a struct without such a name.
- `SqlType.ofSchema_eq_error_iff`, `SqlColumn.ofColumn_eq_ok_iff`,
  `SqlColumn.ofColumn_eq_error_iff`: how the description of one column ends.
- `SqlColumn.rejected_by_first_unfit`: the columns of a layout are rejected for the first of them
  that is unfit, and only for such a one.
- `SqlColumn.Follows`: what columns have from a layout: names, their order, flags and defaults.
- `SqlColumn.follows_of_ofLayout`: the columns of a resolved layout follow it.
-/

namespace TableLayout

/-! ## Types -/

namespace SqlType

/-- The logical names that stand for types. -/
def logicalNames : List String :=
  ["org.apache.kafka.connect.data.Decimal", "org.apache.kafka.connect.data.Date",
    "org.apache.kafka.connect.data.Time", "org.apache.kafka.connect.data.Timestamp"]

theorem ofLogicalName?_eq_none_iff {name : String} :
    ofLogicalName? name = none ↔ name ∉ logicalNames := by
  unfold ofLogicalName? logicalNames
  split_ifs <;> simp_all

theorem ofValueType?_eq_none_iff {type : ValueType} :
    ofValueType? type = none ↔ type.isPrimitive = false := by
  rw [← ofValueType?_isSome, Option.isSome_eq_false_iff, Option.isNone_iff_eq_none]

end SqlType

/-- No column holds values of the schema: it is an array, a map or a struct, and it has no logical
name that stands for a type. -/
structure Schema.Unfit (schema : Schema) : Prop where
  container : schema.type = .array ∨ schema.type = .map ∨ schema.type = .struct
  unnamed : ∀ name ∈ SqlType.logicalNames, schema.name ≠ .text name

theorem ValueType.isPrimitive_eq_false_iff {type : ValueType} :
    type.isPrimitive = false ↔ type = .array ∨ type = .map ∨ type = .struct := by
  cases type <;> simp [isPrimitive]

theorem SqlType.bind_ofLogicalName?_eq_none_iff {name : Datum} :
    name.text?.bind ofLogicalName? = none ↔ ∀ known ∈ logicalNames, name ≠ .text known := by
  cases name with
  | text given =>
    show ofLogicalName? given = none ↔ _
    rw [ofLogicalName?_eq_none_iff]
    simp only [ne_eq, Datum.text.injEq]
    exact ⟨fun h known hknown heq => h (heq ▸ hknown), fun h hgiven => h given hgiven rfl⟩
  | _ => simp [Datum.text?]

/-- With a logical name that can be looked up, only unfit schemas have no type. -/
theorem SqlType.ofSchema_eq_error_iff {schema : Schema} {error : SqlError}
    (hname : schema.name.unhashable? = none) :
    ofSchema schema = .error error ↔ schema.Unfit ∧ error = .noType schema.type := by
  -- Neither the logical name nor the type stands for a type of the database.
  have hnone : (schema.name.text?.bind ofLogicalName?).or (ofValueType? schema.type) = none ↔
      schema.Unfit := by
    rw [Option.or_eq_none_iff, bind_ofLogicalName?_eq_none_iff, ofValueType?_eq_none_iff,
      ValueType.isPrimitive_eq_false_iff]
    exact ⟨fun h => ⟨h.2, h.1⟩, fun h => ⟨h.unnamed, h.container⟩⟩
  rw [← hnone]
  unfold ofSchema
  rw [hname]
  cases (schema.name.text?.bind ofLogicalName?).or (ofValueType? schema.type) with
  | none => simp [eq_comm]
  | some type => simp

namespace SqlColumn

variable {table : String} {column : Column} {sqlColumn : SqlColumn} {error : SqlError}

/-! ## One column -/

/-- A column of a database has all but its type from the column that it stands for. -/
theorem ofColumn_eq_ok_iff :
    ofColumn table column = .ok sqlColumn ↔
      SqlType.ofSchema column.schema = .ok sqlColumn.type ∧ sqlColumn.name = column.name ∧
        sqlColumn.primaryKey = column.isKey ∧ sqlColumn.nullable = column.isOptional ∧
        sqlColumn.default = column.schema.default.notNull? := by
  unfold ofColumn
  cases hschema : SqlType.ofSchema column.schema with
  | ok type =>
    constructor
    · intro h
      obtain rfl := Except.ok.inj h
      exact ⟨rfl, rfl, rfl, rfl, rfl⟩
    · rintro ⟨htype, hname, hkey, hnullable, hdefault⟩
      obtain rfl := Except.ok.inj htype
      rw [← hname, ← hkey, ← hnullable, ← hdefault]
  | error error => cases error <;> simp

/-- A column with a logical name that can be looked up is rejected exactly if it is unfit. -/
theorem ofColumn_eq_error_iff (hname : column.schema.name.unhashable? = none) :
    ofColumn table column = .error error ↔
      column.schema.Unfit ∧
        error = .rejected ⟨table, .columnShape column.name column.schema.type⟩ := by
  unfold ofColumn
  cases hschema : SqlType.ofSchema column.schema with
  | ok type =>
    -- A type was found, so the schema is not unfit.
    have hfit : ¬column.schema.Unfit := by
      intro hunfit
      rw [(SqlType.ofSchema_eq_error_iff hname).mpr ⟨hunfit, rfl⟩] at hschema
      cases hschema
    simp [hfit]
  | error error =>
    obtain ⟨hunfit, rfl⟩ := (SqlType.ofSchema_eq_error_iff hname).mp hschema
    simp [hunfit, eq_comm]

/-- It is described exactly if it is not unfit. -/
theorem exists_ofColumn_iff (hname : column.schema.name.unhashable? = none) :
    (∃ sqlColumn, ofColumn table column = .ok sqlColumn) ↔ ¬column.schema.Unfit := by
  rw [exists_eq_ok_iff]
  simp only [ne_eq, ofColumn_eq_error_iff hname, not_and]
  exact ⟨fun h hunfit => h _ hunfit rfl, fun h error hunfit => absurd hunfit h⟩

theorem exists_ofColumn_eq_rejected_iff (hname : column.schema.name.unhashable? = none) :
    (∃ rejection, ofColumn table column = .error (.rejected rejection) ∧
      rejection.kind = .schemaShape) ↔ column.schema.Unfit := by
  constructor
  · rintro ⟨rejection, h, -⟩
    exact ((ofColumn_eq_error_iff hname).mp h).1
  · intro hunfit
    exact ⟨_, (ofColumn_eq_error_iff hname).mpr ⟨hunfit, rfl⟩, rfl⟩

/-- A struct with a logical name that stands for a type. -/
def decimalStruct : Schema :=
  { Schema.ofType .struct false with
    name := .text "org.apache.kafka.connect.data.Decimal"
    fields := Schema.numbered [("scale", .ofType .int32 false), ("value", .ofType .bytes false)] }

/-- Not every array, map or struct is rejected: a logical name goes before the type. -/
theorem ofColumn_decimalStruct :
    ¬∀ table column, (column.schema.name = .null ∨ ∃ text, column.schema.name = .text text) →
      ((∃ rejection, ofColumn table column = .error (.rejected rejection) ∧
          rejection.kind = .schemaShape) ↔
        column.schema.type = .array ∨ column.schema.type = .map ∨
          column.schema.type = .struct) := by
  intro h
  have hrejected := (h "orders" ⟨"amount", decimalStruct, false⟩ (.inr ⟨_, rfl⟩)).mpr
    (.inr (.inr rfl))
  obtain ⟨rejection, hrejection, -⟩ := hrejected
  have hok : ofColumn "orders" ⟨"amount", decimalStruct, false⟩ =
      .ok ⟨"amount", .numeric, false, false, none⟩ := rfl
  rw [hok] at hrejection
  cases hrejection

/-! ## All columns -/

/-- With logical names that can be looked up, as texts and absent names can, exactly the unfit
columns are rejected, each for its shape. The columns of a layout are then described unless one of
them is unfit, and the first such one, with those of the key in front, is named by the rejection. -/
theorem rejected_by_first_unfit (table : String) :
    (∀ column : Column, column.schema.name.unhashable? = none →
      ((∃ rejection, ofColumn table column = .error (.rejected rejection) ∧
          rejection.kind = .schemaShape) ↔ column.schema.Unfit) ∧
        ((∃ sqlColumn, ofColumn table column = .ok sqlColumn) ↔ ¬column.schema.Unfit)) ∧
    ∀ layout : Layout, (∀ column ∈ layout.allColumns, column.schema.name.unhashable? = none) →
      ((∃ columns, ofLayout table layout = .ok columns) ↔
        ∀ column ∈ layout.allColumns, ¬column.schema.Unfit) ∧
      ∀ error, ofLayout table layout = .error error ↔
        ∃ before column after, layout.allColumns = before ++ column :: after ∧
          (∀ earlier ∈ before, ¬earlier.schema.Unfit) ∧ column.schema.Unfit ∧
            error = .rejected ⟨table, .columnShape column.name column.schema.type⟩ := by
  refine ⟨fun column hname =>
    ⟨exists_ofColumn_eq_rejected_iff hname, exists_ofColumn_iff hname⟩, fun layout hnames => ?_⟩
  have hok : ∀ column ∈ layout.allColumns,
      ((∃ sqlColumn, ofColumn table column = .ok sqlColumn) ↔ ¬column.schema.Unfit) :=
    fun column hcolumn => exists_ofColumn_iff (hnames column hcolumn)
  constructor
  -- The columns are described one by one, so all of them have to be fit.
  · rw [ofLayout, exists_mapM_eq_ok_iff]
    exact forall₂_congr hok
  · intro error
    -- The loop fails at the first column that fails, and those before it are described.
    rw [ofLayout, mapM_eq_error_iff]
    refine exists_congr fun before => exists_congr fun column => exists_congr fun after => ?_
    refine and_congr_right fun hsplit => and_congr ?_ ?_
    · refine forall₂_congr fun earlier hearlier => hok earlier ?_
      rw [hsplit]
      exact List.mem_append_left _ hearlier
    · refine ofColumn_eq_error_iff (hnames column ?_)
      rw [hsplit]
      exact List.mem_append_cons_self

/-- A layout with a struct that has a column, an array and a map. -/
def basketLayout : Layout where
  keyNames := ["id"]
  otherNames := ["price", "tags", "notes"]
  columns := .ofList [("id", ⟨"id", .ofType .int64 false, true⟩),
    ("price", ⟨"price", decimalStruct, false⟩), ("tags", ⟨"tags", .ofType .array true, false⟩),
    ("notes", ⟨"notes", .ofType .map true, false⟩)]
  keySourced := none

theorem rejected_basketLayout :
    (∀ column ∈ basketLayout.allColumns, column.schema.name.unhashable? = none) ∧
      ofLayout "orders" basketLayout =
        .error (.rejected ⟨"orders", .columnShape "tags" .array⟩) := by
  have hnames : ∀ column ∈ basketLayout.allColumns, column.schema.name.unhashable? = none := by
    decide
  refine ⟨hnames, (((rejected_by_first_unfit "orders").2 basketLayout hnames).2 _).mpr ?_⟩
  refine ⟨[⟨"id", .ofType .int64 false, true⟩, ⟨"price", decimalStruct, false⟩],
    ⟨"tags", .ofType .array true, false⟩, [⟨"notes", .ofType .map true, false⟩], rfl, ?_, ?_, rfl⟩
  · refine List.forall_mem_cons.mpr ⟨fun id => ?_, List.forall_mem_singleton.mpr fun price => ?_⟩
    · rcases id.container with h | h | h <;> cases h
    · exact price.unnamed _ List.mem_cons_self rfl
  · exact ⟨.inl rfl, nofun⟩

/-! ## What columns have from a layout -/

section Follows

variable {request : KeyRequest} {key : KeyColumns} {others : List Column} {layout : Layout}
  {columns : List SqlColumn}

/-- The columns of a database that stand for a layout of a record. -/
structure Follows (request : KeyRequest) (key : KeyColumns) (layout : Layout)
    (columns : List SqlColumn) : Prop where
  names : columns.map SqlColumn.name = layout.keyNames ++ layout.otherNames
  distinct : (columns.map SqlColumn.name).Nodup
  covers : ∀ name, name ∈ columns.map SqlColumn.name ↔ name ∈ layout.columns.names
  primaryKey : columns.map SqlColumn.primaryKey =
    List.replicate layout.keyNames.length true ++ List.replicate layout.otherNames.length false
  required : ∀ column ∈ columns, column.primaryKey = true → column.nullable = false
  /-- A column outside the key may be null where the field of the record's value may. -/
  nullable : ∀ column ∈ columns, column.primaryKey = false →
    ∃ value field, request.value = some value ∧ value.field? column.name = some field ∧
      column.nullable = field.schema.optional
  /-- Null is the only default that is left out. -/
  default : ∀ column ∈ columns, ∃ resolved, layout.columns.find? column.name = some resolved ∧
    ∀ d, column.default = some d ↔ resolved.schema.default = d ∧ d ≠ .null
  /-- A field of the value with the name of a key column has no part in it. -/
  keySide : ∀ column ∈ columns, column.primaryKey = true →
    ∃ resolved ∈ key.columns, layout.columns.find? column.name = some resolved

section Joins

variable (hjoins : layout.Joins key others) (hcolumns : ofLayout table layout = .ok columns)
include hjoins hcolumns

theorem forall₂_of_joins :
    List.Forall₂ (fun column sqlColumn => ofColumn table column = .ok sqlColumn)
      (key.columns ++ others) columns := by
  rw [← hjoins.allColumns_eq]
  exact mapM_eq_ok_iff.mp hcolumns

theorem names_of_joins : columns.map SqlColumn.name = layout.keyNames ++ layout.otherNames := by
  rw [hjoins.keyNames, hjoins.otherNames, KeyColumns.names, ← List.map_append]
  exact (map_eq_of_forall₂ (forall₂_of_joins hjoins hcolumns)
    fun _ _ h => (ofColumn_eq_ok_iff.mp h).2.1.symm).symm

variable (hkey : ∀ column ∈ key.columns, column.isKey = true)
  (hothers : ∀ column ∈ others, column.isKey = false)
include hkey hothers

/-- The flags of the key come first, as many as there are names, and then those of the others. -/
theorem primaryKeys_of_joins :
    columns.map SqlColumn.primaryKey =
      List.replicate layout.keyNames.length true ++
        List.replicate layout.otherNames.length false := by
  have hflags : (key.columns ++ others).map Column.isKey = columns.map SqlColumn.primaryKey :=
    map_eq_of_forall₂ (forall₂_of_joins hjoins hcolumns)
      fun _ _ h => (ofColumn_eq_ok_iff.mp h).2.2.1.symm
  rw [← hflags, List.map_append, hjoins.keyNames, hjoins.otherNames, KeyColumns.names,
    List.length_map, List.length_map]
  exact congrArg₂ _ (List.map_eq_replicate_iff.mpr hkey) (List.map_eq_replicate_iff.mpr hothers)

/-- Each column stands for the one that the layout has under its name, on the side of its flag. -/
theorem exists_resolved : ∀ column ∈ columns, ∃ resolved,
    layout.columns.find? column.name = some resolved ∧ ofColumn table resolved = .ok column ∧
      (column.primaryKey = true → resolved ∈ key.columns) ∧
      (column.primaryKey = false → resolved ∈ others) := by
  intro column hcolumn
  obtain ⟨resolved, hmem, h⟩ :=
    exists_of_forall₂ (forall₂_of_joins hjoins hcolumns).flip column hcolumn
  obtain ⟨-, hname, hflag, -⟩ := ofColumn_eq_ok_iff.mp h
  have hside := List.mem_append.mp hmem
  -- The layout has one column of that name, so it is this one.
  have hentry := hjoins.mem_entries_iff.mpr ⟨hname.symm, hside⟩
  refine ⟨resolved, NameMap.find?_eq_some_iff.mpr hentry, h, ?_⟩
  rw [hflag]
  rcases hside with hmem | hmem
  · rw [hkey resolved hmem]
    exact ⟨fun _ => hmem, nofun⟩
  · rw [hothers resolved hmem]
    exact ⟨nofun, fun _ => hmem⟩

end Joins

/-- The columns that a database gets for a resolved record follow its layout. -/
theorem follows_of_ofLayout {given : Datum} {whitelist : List String}
    (h : (resolve given whitelist request).outcome = .ok layout)
    (hcolumns : ofLayout table layout = .ok columns) :
    ∃ mode key, given = .text mode.text ∧ Key.derive mode request = .ok key ∧
      Follows request key layout columns := by
  obtain ⟨mode, key, others, hsplit, hlayout⟩ := Resolve.outcome_eq_ok_iff.mp h
  obtain ⟨hmode, -, hderive, rfl, -⟩ := Resolve.split_eq_ok_iff.mp hsplit
  obtain ⟨hjoins, hdistinct, -⟩ := Resolve.layout_eq_ok_iff.mp hlayout
  -- The flag of a column tells its side, because no column of either side has the flag of the
  -- other.
  have hkey : ∀ column ∈ key.columns, column.isKey = true := (Key.lawful_of_derive hderive).isKey
  have hothers : ∀ column ∈ Resolve.remaining mode whitelist request key, column.isKey = false :=
    fun _ hcolumn => (Resolve.mem_remaining hcolumn).2
  have hnames := names_of_joins hjoins hcolumns
  have hresolved := exists_resolved hjoins hcolumns hkey hothers
  refine ⟨mode, key, hmode, hderive, ?_⟩
  constructor
  case names => exact hnames
  case distinct =>
    rw [hnames, hjoins.keyNames, hjoins.otherNames]
    exact hdistinct
  case covers =>
    intro name
    rw [hnames, hjoins.names_eq]
  case primaryKey => exact primaryKeys_of_joins hjoins hcolumns hkey hothers
  -- A key column is not optional, whatever its schema says.
  case required =>
    intro column hcolumn hprimary
    obtain ⟨resolved, -, h, -⟩ := hresolved column hcolumn
    obtain ⟨-, -, hflag, hnullable, -⟩ := ofColumn_eq_ok_iff.mp h
    rw [hnullable]
    exact Column.isOptional_of_isKey (hflag ▸ hprimary)
  case nullable =>
    intro column hcolumn hprimary
    obtain ⟨resolved, -, h, -, hside⟩ := hresolved column hcolumn
    obtain ⟨-, hname, -, hnullable, -⟩ := ofColumn_eq_ok_iff.mp h
    have hdistinctOthers := (List.nodup_append.mp hdistinct).2.1
    obtain ⟨value, field, hvalue, hfield, hresolved⟩ :=
      Resolve.exists_field?_of_mem_remaining hdistinctOthers (hside hprimary)
    refine ⟨value, field, hvalue, hname ▸ hfield, ?_⟩
    rw [hnullable, hresolved]
    rfl
  case default =>
    intro column hcolumn
    obtain ⟨resolved, hfind, h, -⟩ := hresolved column hcolumn
    obtain ⟨-, -, -, -, hdefault⟩ := ofColumn_eq_ok_iff.mp h
    refine ⟨resolved, hfind, fun d => ?_⟩
    rw [hdefault]
    exact Datum.notNull?_eq_some_iff
  case keySide =>
    intro column hcolumn hprimary
    obtain ⟨resolved, hfind, -, hside, -⟩ := hresolved column hcolumn
    exact ⟨resolved, hside hprimary, hfind⟩

end Follows

/-- A record whose key and value both have a field of one name, and whose value has defaults that
count as false. -/
def shadowedRequest : KeyRequest where
  table := "orders"
  key := some { Schema.ofType .struct false with
    fields := Schema.numbered [("id", .ofType .int64 true)] }
  value := some { Schema.ofType .struct false with
    fields := Schema.numbered [("note", { Schema.ofType .string true with default := .text "" }),
      ("id", { Schema.ofType .int32 true with default := .int 5 }),
      ("done", { Schema.ofType .boolean false with default := .bool false })] }

theorem follows_shadowedRequest :
    ∃ layout columns, (resolve (.text "record_key") [] shadowedRequest).outcome = .ok layout ∧
      ofLayout "orders" layout = .ok columns ∧
      columns = [⟨"id", .bigInteger, true, false, none⟩,
        ⟨"note", .text, false, true, some (.text "")⟩,
        ⟨"done", .boolean, false, false, some (.bool false)⟩] ∧
      ∃ mode key, Datum.text "record_key" = .text mode.text ∧
        Key.derive mode shadowedRequest = .ok key ∧
        Follows shadowedRequest key layout columns := by
  have hlayout : (resolve (.text "record_key") [] shadowedRequest).outcome = .ok _ := rfl
  refine ⟨_, _, hlayout, rfl, rfl, ?_⟩
  exact follows_of_ofLayout hlayout (rfl : ofLayout "orders" _ = .ok _)

end SqlColumn

end TableLayout
