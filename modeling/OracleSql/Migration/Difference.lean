/-
This file compares declared tables with live ones. What is missing is added, and what is too small
is made larger. A change that could lose or refuse rows is never among the steps: it is listed as
skipped, with the reason, and needs a call of its own. Foreign keys are left out here, since they
may refer to tables that are still to come.
-/

import OracleSql.Migration.Definition

namespace OracleSql

/-! ### Live tables -/

/-- A column as the dictionary reports it. -/
structure LiveColumn where
  /-- The stored name. -/
  name : String
  columnType : ColumnType
  nullable : Bool
  deriving DecidableEq

/-- What the dictionary says about a table. All names are stored ones. -/
structure LiveTable where
  columns : List LiveColumn := []
  indexes : List String := []
  constraints : List String := []
  comment : Option String := none
  columnComments : List (String × String) := []
  deriving DecidableEq

namespace LiveTable

/-- The column with this stored name. -/
def column? (live : LiveTable) (name : String) : Option LiveColumn :=
  live.columns.find? fun column => column.name == name

/-- The comment of the column with this stored name. -/
def columnComment? (live : LiveTable) (name : String) : Option String :=
  (live.columnComments.find? fun comment => comment.1 == name).map Prod.snd

end LiveTable

/-! ### Skipped changes -/

/-- Why a change is not made. -/
inductive SkipReason where
  /-- Some live value has no place in the declared type. -/
  | narrowing (live declared : ColumnType)
  /-- The types are of different families. -/
  | changing (live declared : ColumnType)
  /-- There may be nulls in the column. -/
  | tightening
  deriving DecidableEq

/-- The wording of a reason. -/
def SkipReason.message : SkipReason → String
  | narrowing live declared => "narrowing " ++ live.sql ++ " to " ++ declared.sql
  | changing live declared => "changing " ++ live.sql ++ " to " ++ declared.sql
  | tightening => "tightening NULL to NOT NULL"

/-- A declared change that is not made. -/
structure Skipped where
  table : String
  column : String
  reason : SkipReason
  deriving DecidableEq

/-! ### Comparing -/

/-- What a comparison yields. -/
structure Difference where
  steps : List MigrationStep := []
  skipped : List Skipped := []
  deriving DecidableEq

namespace Difference

/-- One difference after the other. -/
def append (first second : Difference) : Difference :=
  ⟨first.steps ++ second.steps, first.skipped ++ second.skipped⟩

/-- The steps of some definitions, and nothing skipped. -/
def ofDefinitions (dialect : Dialect) (definitions : List Definition) : Except Error Difference :=
  (dialect.steps definitions).map fun steps => { steps }

/-- A skipped change of a column. -/
def skip (table column : String) (reason : SkipReason) : Difference :=
  { skipped := [⟨table, column, reason⟩] }

/-- How the type of a live column is brought to the declared one. -/
def ofType (dialect : Dialect) (table : String) (column : String) (live declared : ColumnType) :
    Except Error Difference :=
  match live.compare declared with
  | .same => .ok {}
  | .widen => ofDefinitions dialect [.modifyType table column declared]
  | .narrow => .ok (skip table column (.narrowing live declared))
  | .incompatible => .ok (skip table column (.changing live declared))

/-- How a live column is brought to hold nulls or not. -/
def ofNullness (dialect : Dialect) (table column : String) (live declared : Bool) :
    Except Error Difference :=
  if declared && !live then ofDefinitions dialect [.modifyNullness table column true]
  else if !declared && live then .ok (skip table column .tightening)
  else .ok {}

/-- How a live column gets its comment. -/
def ofComment (dialect : Dialect) (table column : String) (live declared : Option String) :
    Except Error Difference :=
  match declared with
  | some comment =>
    if live = some comment then .ok {}
    else ofDefinitions dialect [.commentColumn table column comment]
  | none => .ok {}

/-- How a column comes to be as declared. -/
def ofColumn (dialect : Dialect) (table : Table) (live : LiveTable) (column : Column) :
    Except Error Difference := do
  let stored ← dialect.stored column.name
  match live.column? stored with
  | none => ofDefinitions dialect (dialect.columnDefinitions table column)
  | some current =>
    let declared ← Error.ofColumn column (dialect.columnType column)
    let types ← ofType dialect table.name column.name current.columnType declared
    let nulls ← ofNullness dialect table.name column.name current.nullable
      (table.allowsNull column)
    let comment ← ofComment dialect table.name column.name (live.columnComment? stored)
      column.comment
    .ok ((types.append nulls).append comment)

/-- How a table gets its primary key. -/
def ofPrimaryKey (dialect : Dialect) (table : Table) (live : LiveTable) :
    Except Error Difference :=
  match table.primaryKey with
  | none => .ok {}
  | some key => do
    let name ← dialect.primaryKeyName table.name key
    if live.constraints.contains name then .ok {}
    else ofDefinitions dialect [.addPrimaryKey table.name key]

/-- How a table gets an index. -/
def ofIndex (dialect : Dialect) (table : Table) (live : LiveTable) (index : Index) :
    Except Error Difference := do
  let name ← dialect.stored index.name
  if live.indexes.contains name then .ok {}
  else ofDefinitions dialect [.createIndex table.name index]

/-- How a table gets its comment. -/
def ofTableComment (dialect : Dialect) (table : Table) (live : LiveTable) :
    Except Error Difference :=
  match table.comment with
  | some comment =>
    if live.comment = some comment then .ok {}
    else ofDefinitions dialect [.commentTable table.name comment]
  | none => .ok {}

/-- How a live table comes to be as declared, but for its foreign keys. -/
def ofTable (dialect : Dialect) (table : Table) (live : LiveTable) :
    Except Error Difference := do
  let columns ← table.columns.mapM (ofColumn dialect table live)
  let key ← ofPrimaryKey dialect table live
  let indexes ← table.indexes.mapM (ofIndex dialect table live)
  let comment ← ofTableComment dialect table live
  .ok ((columns ++ [key] ++ indexes ++ [comment]).foldl append {})

end Difference

end OracleSql
