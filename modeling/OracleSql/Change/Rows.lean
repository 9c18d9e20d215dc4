/-
This file holds the rows that a statement puts in. There are two forms: one row given column by
column, and several rows under columns that are named once. The forms exclude each other; the first
attempt to mix them is remembered, and the rows are refused when they are used.
-/

import OracleSql.Change.Returning
import OracleSql.Chunks

namespace OracleSql

/-- The form of the rows. -/
inductive RowsForm where
  /-- One row, a column with its value at a time. -/
  | single (cells : List (String × Value))
  /-- Rows of values under columns. -/
  | many (columns : List String) (rows : List (List Value))
  deriving DecidableEq

/-- The rows that are put in. -/
structure Rows where
  form : RowsForm := .single []
  /-- The first attempt to mix the forms. -/
  fault : Option RowsFault := none
  deriving DecidableEq

namespace Rows

/-! ### Building -/

/-- The rows with a fault remembered, unless there is an earlier one. -/
def refuse (rows : Rows) (fault : RowsFault) : Rows :=
  { rows with fault := rows.fault.or (some fault) }

/-- Gives a column of the single row its value. -/
def set (rows : Rows) (column : String) (value : Value) : Rows :=
  match rows.form with
  | .single cells => { rows with form := .single (cells ++ [(column, value)]) }
  | .many _ _ => rows.refuse .setAfterColumns

/-- Names the columns of several rows. -/
def setColumns (rows : Rows) (columns : List String) : Rows :=
  match rows.form with
  | .single [] => { rows with form := .many columns [] }
  | .single _ => rows.refuse .columnsAfterSet
  | .many _ content => { rows with form := .many columns content }

/-- Adds a row of values. -/
def addRow (rows : Rows) (values : List Value) : Rows :=
  match rows.form with
  | .single [] => { rows with form := .many [] [values] }
  | .single _ => rows.refuse .rowAfterSet
  | .many columns content => { rows with form := .many columns (content ++ [values]) }

/-! ### Contents -/

/-- The columns, in order. -/
def columns (rows : Rows) : List String :=
  match rows.form with
  | .single cells => cells.map Prod.fst
  | .many columns _ => columns

/-- The rows of values, in order. -/
def content (rows : Rows) : List (List Value) :=
  match rows.form with
  | .single [] => []
  | .single cells => [cells.map Prod.snd]
  | .many _ content => content

/-! ### Checking -/

/-- The first name that stands among those before it. -/
def repeatedName? : (earlier : List String) → List String → Option String
  | _, [] => none
  | earlier, name :: rest =>
    if Text.memFolded name earlier then some name else repeatedName? (name :: earlier) rest

/-- The fault of the first row that has not one value for each column. -/
def widthFault? (rows : Rows) : Option RowsFault :=
  let width := rows.columns.length
  rows.content.zipIdx.findSome? fun (values, row) =>
    if values.length = width then none else some (.rowWidth row values.length width)

/-- Accepts rows of one form, with columns that differ and a value for each. -/
def check (rows : Rows) (operation : String) : Except Error Unit :=
  let refused := fun fault => Except.error (Error.validation (.rows operation fault))
  match rows.fault with
  | some fault => refused fault
  | none =>
    if rows.columns.isEmpty then .error (.statement (.noColumns operation) {})
    else if rows.content.isEmpty then refused .noRows
    else match repeatedName? [] rows.columns with
      | some column => refused (.columnTwice column)
      | none => rows.widthFault?.elim (.ok ()) refused

/-! ### Use -/

/-- The rows as the database takes them. -/
def stored (dialect : Dialect) (table : Option Table) (rows : Rows) :
    Except Error (List (List Value)) :=
  rows.content.mapM fun values =>
    (values.zip rows.columns).mapM fun (value, column) => dialect.store table column value

/-- How many rows go into one statement, so that it stays within the limits of the dialect. -/
def perStatement (dialect : Dialect) (width : Nat) : Except Error Nat :=
  if dialect.maxBindParameters < width then
    .error (.statement (.tooWide width dialect.maxBindParameters) {})
  else .ok (max 1 (min dialect.batchSize (dialect.maxBindParameters / max width 1)))

/-- The pieces of a row of values. -/
def valuePieces (values : List Value) : List Piece :=
  Piece.join ", " (values.map fun value => [.value value])

end Rows

end OracleSql
