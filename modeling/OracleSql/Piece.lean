/-
This file assembles statements. A statement is built as a row of pieces: text, a bound value, a
named value, or the place of a returned column. Only text reaches the text of the statement; a value
is represented there by its marker. Markers are numbered through the whole statement, or named `p1`,
`p2`, … and `ret1`, `ret2`, … by the same count; a named value keeps its own name and is bound once,
under the spelling that came first.

Pieces that are written one after the other are put together by appending their lists, and
`Dialect.assemble` makes a text with binds of the whole.
-/

import OracleSql.Statement

namespace OracleSql

/-- A part of a statement that is being built. -/
inductive Piece where
  | text (sql : String)
  /-- A value as the database takes it. -/
  | value (value : Value)
  /-- A value with the name that the caller gave to its marker. -/
  | named (name : String) (value : Value)
  /-- The place of a returned column. -/
  | out (column : String) (columnType : Option ColumnType) (rows : Nat)
  deriving DecidableEq

/-- What is built, or why it cannot be. -/
abbrev Draft := Except Error (List Piece)

namespace Piece

/-- Lists of pieces in a row with a text between neighbours. -/
def join (separator : String) : List (List Piece) → List Piece
  | [] => []
  | [pieces] => pieces
  | pieces :: rest => pieces ++ (text separator :: join separator rest)

theorem join_cons_cons (separator : String) (member next : List Piece) (rest : List (List Piece)) :
    join separator (member :: next :: rest) =
      member ++ (text separator :: join separator (next :: rest)) := rfl

/-- The pieces between an opening and a closing text. -/
def enclosed (opening closing : String) (pieces : List Piece) : List Piece :=
  text opening :: (pieces ++ [text closing])

end Piece

/-! ### Assembling -/

/-- A statement as far as it has been assembled. -/
structure Assembly where
  sql : String := ""
  /-- How many markers have been numbered. -/
  markers : Nat := 0
  /-- The values that are bound by number, the last one first. -/
  positional : List Value := []
  /-- The values that are bound by name, each name once, the last one first. -/
  named : List (String × Value) := []
  outs : List OutBind := []

namespace Assembly

/-- A marker in the text. -/
def marked (assembly : Assembly) (marker : String) : Assembly :=
  { assembly with sql := assembly.sql ++ ":" ++ marker }

/-- Adds a value under a number. -/
def addNumbered (assembly : Assembly) (value : Value) : Assembly :=
  { assembly.marked (toString (assembly.markers + 1)) with
    markers := assembly.markers + 1
    positional := value :: assembly.positional }

/-- Adds a value under the next made name. -/
def addGenerated (assembly : Assembly) (value : Value) : Assembly :=
  let name := "p" ++ toString (assembly.markers + 1)
  { assembly.marked name with
    markers := assembly.markers + 1
    named := (name, value) :: assembly.named }

/-- Adds a value under its own name, or a further marker of a name that is bound already. -/
def addNamed (assembly : Assembly) (name : String) (value : Value) : Assembly :=
  match assembly.named.find? (fun pair => Text.sameFolded pair.1 name) with
  | some (spelling, _) => assembly.marked spelling
  | none => { assembly.marked name with named := (name, value) :: assembly.named }

/-- Adds the place of a returned column under a marker. -/
def addOut (assembly : Assembly) (marker column : String) (columnType : Option ColumnType)
    (rows : Nat) : Assembly :=
  { assembly.marked marker with
    markers := assembly.markers + 1
    outs := assembly.outs ++ [{ marker, column, columnType, rows }] }

/-- Adds a piece. -/
def add (style : MarkerStyle) (assembly : Assembly) : Piece → Assembly
  | .text sql => { assembly with sql := assembly.sql ++ sql }
  | .value value =>
    match style with
    | .numbered => assembly.addNumbered value
    | .named => assembly.addGenerated value
  | .named name value =>
    match style with
    | .numbered => assembly.addNumbered value
    | .named => assembly.addNamed name value
  | .out column columnType rows =>
    match style with
    | .numbered => assembly.addOut (toString (assembly.markers + 1)) column columnType rows
    | .named =>
      assembly.addOut ("ret" ++ toString (assembly.outs.length + 1)) column columnType rows

/-- The binds of what has been assembled. -/
def binds (style : MarkerStyle) (assembly : Assembly) : Binds :=
  match style with
  | .numbered => .positional assembly.positional.reverse
  | .named => .named assembly.named.reverse

end Assembly

/-- The statement that pieces make up. It returns columns if there are places for them, and else has
the given shape. -/
def Dialect.assemble (dialect : Dialect) (pieces : List Piece) (shape : Shape) : Statement :=
  let assembly := pieces.foldl (Assembly.add dialect.markerStyle) {}
  { sql := assembly.sql
    binds := assembly.binds dialect.markerStyle
    shape := if assembly.outs.isEmpty then shape else .returning assembly.outs }

/-! ### Names -/

/-- A name as a statement writes it. -/
def Dialect.nameText (dialect : Dialect) (name : String) : Except Error String :=
  Error.ofName (dialect.quote name)

/-- The piece that writes a name. -/
def Dialect.namePiece (dialect : Dialect) (name : String) : Draft :=
  (dialect.nameText name).map fun written => [.text written]

/-- Names in a row with commas between them. -/
def Dialect.namePieces (dialect : Dialect) (names : List String) : Draft :=
  (names.mapM dialect.namePiece).map (Piece.join ", ")

end OracleSql
