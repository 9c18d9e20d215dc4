/-
This file makes a database that answers the questions of its dictionary from a catalog. It is one of
those that plans are made for, whatever the catalog holds, as long as the types in it have room in
what they are read as.
-/

import Mathlib.Algebra.Group.Int.Defs
import OracleSql.Proofs.Migration.Dictionary

namespace OracleSql

/-! ### Rows about columns -/

namespace ColumnType

/-- What the dictionary says about a type. -/
def reported (columnType : ColumnType) : Reported :=
  match columnType with
  | number precision scale =>
    { dataType := "NUMBER", precision := precision.map Int.ofNat, scale }
  | binaryFloat => { dataType := "BINARY_FLOAT" }
  | binaryDouble => { dataType := "BINARY_DOUBLE" }
  | varchar size => { dataType := "VARCHAR2", charLength := some size }
  | char size => { dataType := "CHAR", charLength := some size }
  | clob => { dataType := "CLOB" }
  | raw size => { dataType := "RAW", dataLength := some size }
  | blob => { dataType := "BLOB" }
  | timestamp zone precision =>
    { dataType := (timestamp zone precision).sql, scale := some precision }
  | date => { dataType := "DATE" }
  | boolean => { dataType := "BOOLEAN" }
  | other name => { dataType := name }

theorem reportedAs_reported (columnType : ColumnType) :
    columnType.ReportedAs columnType.reported := by
  cases columnType with
  | number _ _ | timestamp _ _ | varchar _ | char _ | raw _ => simp [ReportedAs, reported]
  | _ => rfl

end ColumnType

/-- A number in a cell; nothing is the null. -/
def cellOf (number : Option Int) : Value :=
  number.elim .null fun number => .int (Int64.ofInt number)

/-- The row that describes a column. -/
def LiveColumn.row (column : LiveColumn) : Row :=
  let reported := column.columnType.reported
  ⟨[("COLUMN_NAME", .text column.name), ("DATA_TYPE", .text reported.dataType),
    ("DATA_PRECISION", cellOf reported.precision), ("DATA_SCALE", cellOf reported.scale),
    ("CHAR_LENGTH", cellOf reported.charLength), ("DATA_LENGTH", cellOf reported.dataLength),
    ("NULLABLE", .text (if column.nullable then "Y" else "N"))]⟩

/-- A number of 64 bits is read from its cell. -/
theorem optionalNumber_of_value? {row : Row} {column : String} {number : Option Int}
    (cell : row.value? column = some (cellOf number))
    (bounds : ∀ known ∈ number, -2 ^ 63 ≤ known ∧ known < 2 ^ 63) :
    Dictionary.optionalNumber row column = .ok number := by
  unfold Dictionary.optionalNumber Row.get
  rw [cell]
  cases number with
  | none => rfl
  | some known =>
    obtain ⟨least, greatest⟩ := bounds known rfl
    have same : (Int64.ofInt known).toInt = known := Int64.toInt_ofInt_of_le least greatest
    have read : Value.readInt64 (.int (Int64.ofInt known)) = .ok known := by
      unfold Value.readInt64 Value.readWhole
      dsimp only
      rw [same]
      exact if_pos ⟨least, Int.le_of_lt_add_one greatest⟩
    have valued : (ofValue (cellOf (some known)) : Except DecodeFault (Option Int64)) =
        .ok (some (Int64.ofInt known)) := by
      show Except.map some (Except.map Int64.ofInt (Value.readInt64 (.int (Int64.ofInt known)))) = _
      rw [read]
      rfl
    dsimp only
    rw [valued]
    exact congrArg (fun number => Except.ok (some number)) same

/-- The numbers of a type that fits have 64 bits. -/
theorem ColumnType.bounds_reported {columnType : ColumnType} (fits : columnType.Fits) :
    ∀ number ∈ [columnType.reported.precision, columnType.reported.scale,
      columnType.reported.charLength, columnType.reported.dataLength],
      ∀ known ∈ number, -2 ^ 63 ≤ known ∧ known < 2 ^ 63 := by
  cases columnType with
  | number precision scale =>
    obtain ⟨digits, places⟩ := fits
    cases precision <;> cases scale <;> simp [reported] at digits places ⊢ <;> omega
  | varchar size | char size | raw size => simp [reported, Fits, UInt32.size] at fits ⊢; omega
  | timestamp zone precision => simp [reported, Fits] at fits ⊢; omega
  | other name => exact fits.elim
  | _ => simp [reported]

theorem LiveColumn.shownBy_row {column : LiveColumn} (fits : column.columnType.Fits) :
    column.ShownBy column.row column.columnType.reported :=
  have bounds := ColumnType.bounds_reported fits
  { reportedAs := column.columnType.reportedAs_reported
    dataType := rfl
    precision := optionalNumber_of_value? rfl (bounds _ (by simp))
    scale := optionalNumber_of_value? rfl (bounds _ (by simp))
    charLength := optionalNumber_of_value? rfl (bounds _ (by simp))
    dataLength := optionalNumber_of_value? rfl (bounds _ (by simp))
    nullable := rfl
    name := rfl }

/-! ### Answers -/

namespace Question

/-- All questions. -/
def all : List Question :=
  [tables, columns, indexes, constraints, tableComment, columnComments]

/-- The comments of columns that are looked up. -/
def recorded (live : LiveTable) : List (String × Option String) :=
  (live.columnComments.filter fun entry => live.columnComment? entry.1 == some entry.2).map
    fun entry => (entry.1, some entry.2)

/-- A text in a cell; nothing is the null. -/
def textCell (content : Option String) : Value :=
  content.elim .null .text

/-- The rows that answer a question about a live table. -/
def rows (name : String) (live : LiveTable) : Question → List Row
  | tables => [⟨[("TABLE_NAME", .text name)]⟩]
  | columns => live.columns.map LiveColumn.row
  | indexes => live.indexes.map fun index => ⟨[("INDEX_NAME", .text index)]⟩
  | constraints => live.constraints.map fun constraint => ⟨[("CONSTRAINT_NAME", .text constraint)]⟩
  | tableComment => [⟨[("COMMENTS", textCell live.comment)]⟩]
  | columnComments => (recorded live).map fun entry =>
    ⟨[("COLUMN_NAME", .text entry.1), ("COMMENTS", textCell entry.2)]⟩

theorem get_textCell (content : Option String) {row : Row}
    (cell : row.value? "COMMENTS" = some (textCell content)) :
    row.get "COMMENTS" = .ok content := by
  unfold Row.get
  rw [cell]
  cases content <;> rfl

theorem names_of_map {column : String} {known : List String} {row : String → Row}
    (each : ∀ name, (row name).get column = .ok name) : Row.Names (known.map row) column known := by
  refine ⟨known, ?_, fun _ => Iff.rfl⟩
  rw [List.forall₂_map_left_iff, List.forall₂_same]
  exact fun name _ => each name

theorem mem_recorded {live : LiveTable} {name comment : String} :
    (name, some comment) ∈ recorded live ↔ live.columnComment? name = some comment := by
  simp only [recorded, List.mem_map, List.mem_filter, beq_iff_eq, Prod.mk.injEq, Option.some.injEq]
  constructor
  · rintro ⟨entry, ⟨_, known⟩, rfl, rfl⟩
    exact known
  · intro known
    obtain ⟨entry, found, rfl⟩ := Option.map_eq_some_iff.mp known
    have same : entry.1 = name := by simpa using List.find?_some found
    exact ⟨entry, ⟨List.mem_of_find?_eq_some found, same ▸ known⟩, same, rfl⟩

/-- The rows answer the question. -/
theorem answered_rows (question : Question) (name : String) {live : LiveTable}
    (fits : ∀ column ∈ live.columns, column.columnType.Fits) :
    question.Answered live (question.rows name live) := by
  cases question with
  | tables => exact List.cons_ne_nil _ _
  | columns =>
    show List.Forall₂ _ live.columns (live.columns.map LiveColumn.row)
    rw [List.forall₂_map_right_iff, List.forall₂_same]
    exact fun column member => ⟨_, LiveColumn.shownBy_row (fits column member)⟩
  | indexes => exact names_of_map fun _ => rfl
  | constraints => exact names_of_map fun _ => rfl
  | tableComment => exact ⟨_, rfl, get_textCell live.comment rfl⟩
  | columnComments =>
    refine ⟨recorded live, ?_, fun _ _ => mem_recorded⟩
    show List.Forall₂ _ ((recorded live).map _) _
    rw [List.forall₂_map_left_iff, List.forall₂_same]
    exact fun entry _ => ⟨rfl, get_textCell entry.2 rfl⟩

/-- A question is known by its text. -/
theorem find?_sql (question : Question) (style : MarkerStyle) :
    all.find? (fun other => other.sql style == question.sql style) = some question := by
  cases question <;> cases style <;> decide +kernel

end Question

/-! ### A database -/

/-- The text that is bound alone. -/
def Binds.text? : Binds → Option String
  | positional [.text content] => some content
  | named [(_, .text content)] => some content
  | _ => Option.none

/-- A database that knows its dictionary and nothing else. -/
def Connection.ofCatalog {σ : Type} (catalogOf : σ → Catalog) (style : MarkerStyle) :
    Connection σ where
  now _ := 0
  query sql binds state := .settled (.ok (
    match Question.all.find? (fun question => question.sql style == sql), binds.text? with
    | some question, some name => (catalogOf state name).elim [] (question.rows name ·)
    | _, _ => [])) state
  execute _ _ := .settled (.ok 0)
  executeBatch _ _ := .settled (.ok 0)
  executeReturning _ _ _ := .settled (.ok [])
  begin := .settled (.ok ())
  commit := .settled (.ok ())
  rollback := .settled (.ok ())
  inTransaction _ := false
  invalidate := id

/-- The database shows its catalog. -/
theorem Executor.shows_ofCatalog {σ : Type} {catalogOf : σ → Catalog} (dialect : Dialect)
    (fits : ∀ state name live, catalogOf state name = some live →
      ∀ column ∈ live.columns, column.columnType.Fits) :
    Executor.Shows { dialect, connection := .ofCatalog catalogOf dialect.markerStyle }
      catalogOf where
  valid _ := rfl
  answers question name state := by
    have asked : (dialect.markerStyle.bindsOne (.text name)).text? = some name := by
      cases dialect.markerStyle <;> rfl
    refine ⟨Executor.inTime_of_unlimited rfl _ _, rfl, _, rfl, ?_⟩
    dsimp only
    rw [Question.find?_sql, asked]
    dsimp only
    cases present : catalogOf state name with
    | none => rfl
    | some live => exact question.answered_rows name (fits state name live present)

end OracleSql
