/-
This file asks the dictionary of the database what is there. Without an owner the views of the
user's own objects are read; with an owner, from the settings or from the name of the table, those
of all objects, restricted to this owner. Names are compared as they are stored.
-/

import OracleSql.Migration.Difference
import OracleSql.Session.Executor
import OracleSql.Template

namespace OracleSql

/-! ### Names of tables -/

/-- A stored name of a table, with the stored name of its owner if one is given. -/
structure StoredTable where
  owner : Option String
  name : String
  deriving DecidableEq

namespace Dialect

/-- The stored name of the owner in the settings. -/
def storedOwner (dialect : Dialect) : Except Error (Option String) :=
  dialect.schema.elim (.ok none) fun owner => (dialect.stored owner).map some

/-- The stored spelling of a segment; a star has none. -/
def storedSegment (dialect : Dialect) (text : String) (part : IdentifierPart) :
    Except Error String :=
  match dialect.stored? part with
  | some stored => .ok stored
  | none => .error (.validation (.noTableName text))

/-- The stored table that a name stands for. -/
def storedTable (dialect : Dialect) (text : String) : Except Error StoredTable := do
  let identifier ← Error.ofName (Identifier.parse text)
  match identifier.parts with
  | [name] =>
    let owner ← dialect.storedOwner
    let stored ← dialect.storedSegment text name
    .ok ⟨owner, stored⟩
  | [owner, name] =>
    let storedOwner ← dialect.storedSegment text owner
    let stored ← dialect.storedSegment text name
    .ok ⟨some storedOwner, stored⟩
  | _ => .error (.validation (.tooManySegments text))

end Dialect

/-! ### Questions -/

namespace Dictionary

/-- The operation of a question. -/
def operation : String := "introspect"

/-- A question about columns of a view, with an optional condition on the name of the table. -/
def statement (dialect : Dialect) (owner table : Option String) (view columns : String) :
    Except Error Statement := do
  let whose := if owner.isSome then "ALL_" else "USER_"
  let conditions := (table.toList.map fun _ => "TABLE_NAME = ?") ++
    owner.toList.map fun _ => "OWNER = ?"
  let filter := if conditions.isEmpty then "" else " WHERE " ++ Text.join " AND " conditions
  let values := (table.toList ++ owner.toList).map Value.text
  let asked ← dialect.translate ("SELECT " ++ columns ++ " FROM " ++ whose ++ view ++ filter)
    { positional := values }
  .ok { asked with operation }

variable {σ : Type}

/-- The rows of a view about a table, in an order that follows the question. -/
def tableRows (executor : Executor σ) (table : StoredTable) (view columns order : String) :
    Session σ (List Row) := do
  let asked ← Session.ofExcept
    (statement executor.dialect table.owner (some table.name) view columns)
  executor.query { asked with sql := asked.sql ++ order }

/-- The columns of a view that describe a column. -/
def columnFields : String :=
  "COLUMN_NAME, DATA_TYPE, DATA_PRECISION, DATA_SCALE, CHAR_LENGTH, DATA_LENGTH, NULLABLE"

/-- A number that may be absent. -/
def optionalNumber (row : Row) (column : String) : Except Error (Option Int) := do
  let number : Option Int64 ← row.get column
  .ok (number.map Int64.toInt)

/-- The column that a row describes. -/
def liveColumn (row : Row) : Except Error LiveColumn := do
  let dataType ← row.get "DATA_TYPE"
  let precision ← optionalNumber row "DATA_PRECISION"
  let scale ← optionalNumber row "DATA_SCALE"
  let charLength ← optionalNumber row "CHAR_LENGTH"
  let dataLength ← optionalNumber row "DATA_LENGTH"
  let nullable : String ← row.get "NULLABLE"
  let name ← row.get "COLUMN_NAME"
  let columnType :=
    ColumnType.ofReported { dataType, precision, scale, charLength, dataLength }
  .ok { name, columnType, nullable := nullable == "Y" }

/-- The columns of a table or a view in the order of their declaration; none where it is absent. -/
def columns (executor : Executor σ) (table : StoredTable) : Session σ (List LiveColumn) := do
  let rows ← tableRows executor table "TAB_COLUMNS" columnFields " ORDER BY COLUMN_ID"
  Session.ofExcept (rows.mapM liveColumn)

/-- Whether there is a table, and not a view, of this name. -/
def hasTable (executor : Executor σ) (table : StoredTable) : Session σ Bool := do
  return !(← tableRows executor table "TABLES" "TABLE_NAME" "").isEmpty

/-- The texts of one column of a view about a table. -/
def names (executor : Executor σ) (table : StoredTable) (view column : String) :
    Session σ (List String) := do
  let rows ← tableRows executor table view column ""
  Session.ofExcept (rows.mapM (·.get column))

/-- The names of the indexes of a table. -/
def indexNames (executor : Executor σ) (table : StoredTable) : Session σ (List String) :=
  names executor table "INDEXES" "INDEX_NAME"

/-- The names of the constraints of a table. -/
def constraintNames (executor : Executor σ) (table : StoredTable) : Session σ (List String) :=
  names executor table "CONSTRAINTS" "CONSTRAINT_NAME"

/-- The comment of a table. -/
def tableComment (executor : Executor σ) (table : StoredTable) : Session σ (Option String) := do
  match ← tableRows executor table "TAB_COMMENTS" "COMMENTS" "" with
  | [] => return none
  | row :: _ => Session.ofExcept (row.get "COMMENTS")

/-- The comment that a row describes, with the name of its column. -/
def columnComment (row : Row) : Except Error (Option (String × String)) := do
  let comment : Option String ← row.get "COMMENTS"
  match comment with
  | none => .ok none
  | some content =>
    let column ← row.get "COLUMN_NAME"
    .ok (some (column, content))

/-- The comments of the columns of a table. -/
def columnComments (executor : Executor σ) (table : StoredTable) :
    Session σ (List (String × String)) := do
  let rows ← tableRows executor table "COL_COMMENTS" "COLUMN_NAME, COMMENTS" ""
  let comments ← Session.ofExcept (rows.mapM columnComment)
  return comments.filterMap id

/-- What the dictionary says about a table, if it is there. Comments are read only where they are
wanted. -/
def liveTable (executor : Executor σ) (table : StoredTable) (withComments : Bool) :
    Session σ (Option LiveTable) := do
  if !(← hasTable executor table) then return none
  let live : LiveTable := {
    columns := ← columns executor table
    indexes := ← indexNames executor table
    constraints := ← constraintNames executor table }
  if !withComments then return some live
  return some { live with
    comment := ← tableComment executor table
    columnComments := ← columnComments executor table }

/-- The stored names of all tables of the owner. -/
def tableNames (executor : Executor σ) : Session σ (List String) := do
  let owner ← Session.ofExcept executor.dialect.storedOwner
  let asked ← Session.ofExcept (statement executor.dialect owner none "TABLES" "TABLE_NAME")
  let rows ← executor.query { asked with sql := asked.sql ++ " ORDER BY TABLE_NAME" }
  Session.ofExcept (rows.mapM (·.get "TABLE_NAME"))

/-- The owner whose objects the session sees without naming it. -/
def currentSchema (executor : Executor σ) : Session σ String := do
  let row ← executor.queryOne {
    sql := "SELECT SYS_CONTEXT('USERENV', 'CURRENT_SCHEMA') FROM DUAL"
    shape := .rows
    operation }
  Session.ofExcept (row.getAt 0)

end Dictionary

end OracleSql
