/-
This file holds what the changes of rows share: values are lowered for their columns where a table
is declared, and columns of the changed rows can be returned into places of the statement.
-/

import OracleSql.Piece

namespace OracleSql

/-- The declared column with this name, if a table is declared and has one. -/
def declaredColumn? (table : Option Table) (name : String) : Option Column :=
  table.bind (·.column? name)

namespace Dialect

/-- A value as the database takes it for a column, checked where the column is declared. -/
def store (dialect : Dialect) (table : Option Table) (column : String) (value : Value) :
    Except Error Value :=
  match declaredColumn? table column with
  | some declared => Error.ofStoring declared (dialect.encode declared value)
  | none => .ok (dialect.lower value)

/-- The place of a returned column, with its type where the column is declared. -/
def outPiece (dialect : Dialect) (table : Option Table) (rows : Nat) (column : String) :
    Draft :=
  match declaredColumn? table column with
  | some declared =>
    (Error.ofColumn declared (dialect.columnType declared)).map fun columnType =>
      [.out column (some columnType) rows]
  | none => .ok [.out column none rows]

/-- The clause that returns columns of the changed rows, none where no columns are wanted. -/
def returningPieces (dialect : Dialect) (table : Option Table) (columns : List String)
    (rows : Nat) : Draft :=
  if columns.isEmpty then .ok []
  else do
    let names ← dialect.namePieces columns
    let outs ← columns.mapM (dialect.outPiece table rows)
    .ok (.text " RETURNING " :: (names ++ (.text " INTO " :: Piece.join ", " outs)))

/-- Refuses returned columns where the dialect has none. -/
def checkReturning (dialect : Dialect) (operation : String) (columns : List String) :
    Except Error Unit :=
  if columns.isEmpty || dialect.supportsReturning then .ok ()
  else .error (.capability (.returning operation) {})

end Dialect

end OracleSql
