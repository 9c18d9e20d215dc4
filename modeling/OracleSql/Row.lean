/-
This file holds rows of the database and reads them. A row is a list of named values. A column is
looked up by its exact name first and then without regard to the case of ASCII letters, since the
database reports names without quotes in upper case. The class `OfRow` names what a whole row can be
read as: itself, one value, or a tuple of values from the first column on.
-/

import OracleSql.Error.Basic

namespace OracleSql

/-- A row: its columns in order, each with its value. -/
structure Row where
  cells : List (String × Value)
  deriving DecidableEq

namespace Row

/-- Each column with its value, the null where there are too few. -/
def cellsOf : (columns : List String) → (values : List Value) → List (String × Value)
  | [], _ => []
  | column :: columns, [] => (column, .null) :: cellsOf columns []
  | column :: columns, value :: values => (column, value) :: cellsOf columns values

/-- The row of these columns; values beyond them are dropped, and missing ones are null. -/
def ofColumns (columns : List String) (values : List Value) : Row :=
  ⟨cellsOf columns values⟩

/-- The names of the columns. -/
def columns (row : Row) : List String := row.cells.map Prod.fst

/-- The values of the columns. -/
def values (row : Row) : List Value := row.cells.map Prod.snd

/-- How many columns there are. -/
def size (row : Row) : Nat := row.cells.length

/-- The value of a column. -/
def value? (row : Row) (column : String) : Option Value :=
  ((row.cells.find? fun cell => cell.1 == column).or
    (row.cells.find? fun cell => Text.sameFolded cell.1 column)).map Prod.snd

/-- Reads a column by its name. -/
def get {α : Type} [OfValue α] (row : Row) (column : String) : Except Error α :=
  match row.value? column with
  | some value => Error.ofReading column (ofValue value)
  | none => .error (.decode column .noColumn)

/-- Reads a column by its place, counted from zero. -/
def getAt {α : Type} [OfValue α] (row : Row) (place : Nat) : Except Error α :=
  match row.cells[place]? with
  | some (column, value) => Error.ofReading column (ofValue value)
  | none => .error (.decode (toString place) .noIndex)

end Row

/-- A row that belongs to one of the rows that were put in. -/
structure ReturnedRow where
  /-- The number of the row that was put in, counted from zero within its call. -/
  input : UInt64
  row : Row
  deriving DecidableEq

namespace ReturnedRow

/-- The number of the row that was put in. -/
def number (returned : ReturnedRow) : Nat := returned.input.toNat

/-- The row where so many rows were put in before those of its call. A number that is too large for
its width starts from zero again. -/
def behind (offset : Nat) (returned : ReturnedRow) : ReturnedRow :=
  { returned with input := .ofNat offset + returned.input }

end ReturnedRow

/-! ### Whole rows -/

/-- The types that a row is read as, from one of its columns on. -/
class OfRow (α : Type) where
  ofRowFrom : (place : Nat) → Row → Except Error α

/-- Reads a row from its first column on. -/
def ofRow {α : Type} [OfRow α] (row : Row) : Except Error α :=
  OfRow.ofRowFrom 0 row

instance : OfRow Row := ⟨fun _ row => .ok row⟩

instance {α : Type} [OfValue α] : OfRow α := ⟨fun place row => row.getAt place⟩

instance {α β : Type} [OfValue α] [OfRow β] : OfRow (α × β) where
  ofRowFrom place row := do
    let first ← row.getAt place
    let others ← OfRow.ofRowFrom (place + 1) row
    .ok (first, others)

end OracleSql
