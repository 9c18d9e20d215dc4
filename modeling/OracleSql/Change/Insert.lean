/-
This file builds insertions of rows. One row is inserted by a list of values. Several rows are
inserted by selecting each of them from nothing, as many in one statement as the limits of the
dialect allow. Where columns of the inserted rows are to be returned, either one call carries a
batch of rows, or every row has a statement of its own; then all of them take effect or none.
-/

import OracleSql.Change.Rows

namespace OracleSql

/-- An insertion of rows. -/
structure Insert where
  table : String
  /-- The declaration of the table, where values are to be checked against it. -/
  declared : Option Table := none
  rows : Rows := {}
  /-- The columns of the inserted rows that are wanted back. -/
  returning : List String := []
  deriving DecidableEq

namespace Insert

/-- An insertion into a declared table. -/
def into (table : Table) : Insert :=
  { table := table.name, declared := some table }

/-- The insertion with a value for a column of its single row. -/
def set {α : Type} [ToValue α] (insert : Insert) (column : String) (value : α) : Insert :=
  { insert with rows := insert.rows.set column (toValue value) }

/-- The insertion with its columns named. -/
def columns (insert : Insert) (columns : List String) : Insert :=
  { insert with rows := insert.rows.setColumns columns }

/-- The insertion with one more row. -/
def row (insert : Insert) (values : List Value) : Insert :=
  { insert with rows := insert.rows.addRow values }

/-! ### Statements -/

/-- The table and its columns. -/
def headPieces (dialect : Dialect) (insert : Insert) : Draft := do
  let table ← dialect.namePiece insert.table
  let columns ← dialect.namePieces insert.rows.columns
  .ok (.text "INSERT INTO " :: (table ++ Piece.enclosed " (" ")" columns))

/-- The statement of pieces. -/
def statement (dialect : Dialect) (insert : Insert) (pieces : List Piece) : Statement :=
  { dialect.assemble pieces .rowsAffected with
    operation := "insert", table := some insert.table }

/-- The statement of one row, with room for the returned columns of so many. -/
def oneRow (dialect : Dialect) (insert : Insert) (returned : Nat) (values : List Value) :
    Except Error Statement := do
  let head ← insert.headPieces dialect
  let tail ← dialect.returningPieces insert.declared insert.returning returned
  .ok (insert.statement dialect
    (head ++ Piece.enclosed " VALUES (" ")" (Rows.valuePieces values) ++ tail))

/-- The pieces that select a row from nothing. -/
def selectPieces (values : List Value) : List Piece :=
  Piece.enclosed "SELECT " " FROM DUAL" (Rows.valuePieces values)

/-- The statement of several rows. -/
def severalRows (dialect : Dialect) (insert : Insert) (rows : List (List Value)) :
    Except Error Statement := do
  let head ← insert.headPieces dialect
  .ok (insert.statement dialect
    (head ++ (.text " " :: Piece.join " UNION ALL " (rows.map selectPieces))))

/-- One statement for each chunk of rows, after `offset` earlier rows. -/
def bulkStatements (dialect : Dialect) (insert : Insert) :
    (offset : Nat) → List (List (List Value)) → Except Error (List Statement)
  | _, [] => .ok []
  | offset, chunk :: rest => do
    let first ← insert.oneRow dialect chunk.length (chunk.headD [])
    let others ← insert.bulkStatements dialect (offset + chunk.length) rest
    .ok ({ first with binds := .batch chunk, inputOffset := offset } :: others)

/-- One statement for each row. -/
def rowStatements (dialect : Dialect) (insert : Insert) (rows : List (List Value)) :
    Except Error (List Statement) :=
  rows.zipIdx.mapM fun (values, offset) =>
    (insert.oneRow dialect 1 values).map fun statement => { statement with inputOffset := offset }

/-! ### Plans -/

/-- How returned rows are collected. -/
def mode (dialect : Dialect) : ReturningMode :=
  if dialect.bulkReturning then .bulk else .perRow

/-- The plan of rows from which nothing is wanted back. -/
def plainPlan (dialect : Dialect) (insert : Insert) : List (List Value) → Except Error Plan
  | [values] => (insert.oneRow dialect 0 values).map Plan.single
  | rows => do
    let size ← Rows.perStatement dialect insert.rows.columns.length
    let statements ← (chunks size rows).mapM (insert.severalRows dialect)
    .ok (.ofStatements statements)

/-- The plan of rows from which columns are wanted back. -/
def returningPlan (dialect : Dialect) (insert : Insert) : List (List Value) → Except Error Plan
  | [values] => do
    let statement ← insert.oneRow dialect 1 values
    .ok ((Plan.single statement).withReturning (mode dialect) 1)
  | rows => do
    let statements ←
      if dialect.bulkReturning then
        insert.bulkStatements dialect 0 (chunks dialect.batchSize rows)
      else insert.rowStatements dialect rows
    .ok ({ Plan.ofStatements statements with atomic := true }.withReturning (mode dialect)
      rows.length)

/-- The plan of the insertion, its errors without their place. -/
def planUnplaced (dialect : Dialect) (insert : Insert) : Except Error Plan := do
  insert.rows.check "INSERT"
  dialect.checkReturning "INSERT" insert.returning
  let rows ← insert.rows.stored dialect insert.declared
  if insert.returning.isEmpty then insert.plainPlan dialect rows
  else insert.returningPlan dialect rows

/-- The plan of the insertion. -/
def plan (dialect : Dialect) (insert : Insert) : Except Error Plan :=
  (insert.planUnplaced dialect).mapError (Error.within (.on "insert" insert.table))

end Insert

end OracleSql
