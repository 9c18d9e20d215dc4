/-
This file builds mergers of rows: a row whose keys are there already changes the row it meets, and
any other row is inserted. The rows are selected from nothing, as many in one statement as the
limits of the dialect allow. A met row takes over every column that is no key, or only the columns
that are named, or none. The server cannot return rows from a merger.
-/

import OracleSql.Change.Rows

namespace OracleSql

/-- A merger of rows. -/
structure Merge where
  table : String
  /-- The declaration of the table, where values are to be checked against it. -/
  declared : Option Table := none
  /-- The columns by which a row is met. -/
  keys : List String
  rows : Rows := {}
  /-- The columns that a met row takes over, if not every one that is no key. -/
  updated : Option (List String) := none
  /-- Whether a met row stays as it is. -/
  insertOnly : Bool := false
  returning : List String := []
  deriving DecidableEq

namespace Merge

/-- A merger into a declared table. -/
def into (table : Table) (keys : List String) : Merge :=
  { table := table.name, declared := some table, keys }

/-- The merger with a value for a column of its single row. -/
def set {α : Type} [ToValue α] (merge : Merge) (column : String) (value : α) : Merge :=
  { merge with rows := merge.rows.set column (toValue value) }

/-- The merger with its columns named. -/
def columns (merge : Merge) (columns : List String) : Merge :=
  { merge with rows := merge.rows.setColumns columns }

/-- The merger with one more row. -/
def row (merge : Merge) (values : List Value) : Merge :=
  { merge with rows := merge.rows.addRow values }

/-! ### Columns -/

/-- Whether a column is one of the keys. -/
def isKey (merge : Merge) (column : String) : Bool :=
  Text.memFolded column merge.keys

/-- A named column as the rows spell it, if it is no key and has values. -/
def updatedColumn (merge : Merge) (name : String) : Except MergeFault String :=
  if merge.isKey name then .error (.keyUpdated name)
  else match merge.rows.columns.find? (Text.sameFolded · name) with
    | some column => .ok column
    | none => .error (.updateWithoutValue name)

/-- The columns that a met row takes over. -/
def updatedColumns (merge : Merge) : Except MergeFault (List String) :=
  if merge.insertOnly then .ok []
  else match merge.updated with
    | none => .ok (merge.rows.columns.filter fun column => !merge.isKey column)
    | some names => names.mapM merge.updatedColumn

/-- The first key that has no values. -/
def bareKey? (merge : Merge) : Option String :=
  merge.keys.find? fun key => !Text.memFolded key merge.rows.columns

/-! ### Statements -/

/-- The column of a side: the table `t` or the rows `s`. -/
def sidePieces (dialect : Dialect) (side column : String) : Draft :=
  (dialect.nameText column).map fun name => [.text (side ++ "." ++ name)]

/-- The same column of both sides with an equals sign between them. -/
def equalPieces (dialect : Dialect) (column : String) : Draft :=
  (dialect.nameText column).map fun name => [.text ("t." ++ name ++ " = s." ++ name)]

/-- The values of the first row with the names of their columns. -/
def namedRowPieces (dialect : Dialect) (columns : List String) (values : List Value) : Draft :=
  ((values.zip columns).mapM fun (value, column) =>
    (dialect.nameText column).map fun name => [Piece.value value, .text (" " ++ name)]).map
    (Piece.join ", ")

/-- The selection of the rows from nothing; the first of them names the columns. -/
def sourcePieces (dialect : Dialect) (columns : List String) : List (List Value) → Draft
  | [] => .ok []
  | first :: rest => do
    let named ← namedRowPieces dialect columns first
    let others := rest.map Rows.valuePieces
    .ok (Piece.join " UNION ALL "
      ((named :: others).map (Piece.enclosed "SELECT " " FROM DUAL")))

/-- What a met row takes over, nothing where there are no such columns. -/
def matchedPieces (dialect : Dialect) (updated : List String) : Draft :=
  if updated.isEmpty then .ok []
  else do
    let changes ← updated.mapM (equalPieces dialect)
    .ok (.text " WHEN MATCHED THEN UPDATE SET " :: Piece.join ", " changes)

/-- The statement of some of the rows. -/
def statement (dialect : Dialect) (merge : Merge) (updated : List String)
    (rows : List (List Value)) : Except Error Statement := do
  let columns := merge.rows.columns
  let table ← dialect.namePiece merge.table
  let source ← sourcePieces dialect columns rows
  let keys ← merge.keys.mapM (equalPieces dialect)
  let met ← matchedPieces dialect updated
  let names ← dialect.namePieces columns
  let values ← columns.mapM (sidePieces dialect "s")
  let pieces := .text "MERGE INTO " :: (table ++ Piece.enclosed " t USING (" ") s ON (" source ++
    Piece.join " AND " keys ++ (.text ")" :: met) ++
    Piece.enclosed " WHEN NOT MATCHED THEN INSERT (" ") VALUES (" names ++
    Piece.join ", " values ++ [.text ")"])
  .ok { dialect.assemble pieces .rowsAffected with
    operation := "merge", table := some merge.table }

/-! ### Plans -/

/-- A fault of the keys or of the updated columns, as an error. -/
def refused {α : Type} (fault : MergeFault) : Except Error α :=
  .error (.validation (.merge fault))

/-- The plan of the merger, its errors without their place. -/
def planUnplaced (dialect : Dialect) (merge : Merge) : Except Error Plan := do
  if !merge.returning.isEmpty then throw (.statement .mergeReturning {})
  if merge.keys.isEmpty then refused .noKeys
  merge.rows.check "MERGE"
  match merge.bareKey? with
  | some key => refused (.keyWithoutValue key)
  | none =>
    let updated ← merge.updatedColumns.mapError fun fault => .validation (.merge fault)
    let rows ← merge.rows.stored dialect merge.declared
    let size ← Rows.perStatement dialect merge.rows.columns.length
    let statements ← (chunks size rows).mapM (merge.statement dialect updated)
    .ok (.ofStatements statements)

/-- The plan of the merger. -/
def plan (dialect : Dialect) (merge : Merge) : Except Error Plan :=
  (merge.planUnplaced dialect).mapError (Error.within (.on "merge" merge.table))

end Merge

end OracleSql
