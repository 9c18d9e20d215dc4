/-
This file holds native statements and plans. A statement is a text with native markers, the values
bound to them, and what it produces. A plan is a row of statements that make up one operation; the
rows that are returned from it belong to the rows that were put in, counted over the whole plan.

`Statement.fault?` says whether markers and values go together: every marker has a value or is one
of the markers for returned columns, and no value is left over.
-/

import OracleSql.Error.Basic

namespace OracleSql

/-! ### Binds -/

/-- The values bound to a statement. -/
inductive Binds where
  /-- One value for each marker, in order. -/
  | positional (values : List Value)
  /-- One value for each name. -/
  | named (pairs : List (String × Value))
  /-- The statement runs once for each row of values. -/
  | batch (rows : List (List Value))
  deriving DecidableEq

namespace Binds

/-- No values. -/
def none : Binds := positional []

/-- How many values one run takes. -/
def width : Binds → Nat
  | positional values => values.length
  | named pairs => pairs.length
  | batch rows => (rows.head?.map List.length).getD 0

/-- How many times the statement runs. -/
def rows : Binds → Nat
  | batch rows => rows.length
  | _ => 1

/-- Whether a run takes no values. -/
def isEmpty (binds : Binds) : Bool :=
  binds.width == 0

end Binds

/-! ### Statements -/

/-- A marker that takes a returned column. -/
structure OutBind where
  /-- The marker without its colon. -/
  marker : String
  column : String
  /-- The type of the column, where it is declared. -/
  columnType : Option ColumnType := Option.none
  /-- How many rows to make room for; zero where that is not known before. -/
  rows : Nat
  deriving DecidableEq

/-- What a statement produces. -/
inductive Shape where
  | rows
  | rowsAffected
  | returning (outs : List OutBind)
  deriving DecidableEq

/-- A native statement with its values. -/
structure Statement where
  sql : String
  binds : Binds := .none
  shape : Shape := .rowsAffected
  /-- What the statement does, in one word. -/
  operation : String := "raw"
  table : Option String := none
  /-- How many input rows of its plan come before its first one. -/
  inputOffset : Nat := 0
  deriving DecidableEq

namespace Statement

/-- The operation of a definition. -/
def definitionOperation : String := "ddl"

/-- A definition, which has no values. -/
def definition (sql : String) : Statement :=
  { sql, operation := definitionOperation }

/-- The markers that take returned columns. -/
def outs (statement : Statement) : List OutBind :=
  match statement.shape with
  | .returning outs => outs
  | _ => []

/-! ### Markers and values -/

/-- Names that differ at most in the case of ASCII letters, each once. -/
def distinctFolded (names : List String) : List String :=
  (names.map Text.foldUpper).eraseDups

/-- Whether two lists without repetitions have the same members. -/
def sameMembers (left right : List String) : Bool :=
  left.all right.contains && right.all left.contains

/-- The fault of a count of markers that is not the count of values. -/
def countFault? (statement : Statement) (markers values : Nat) : Option StatementFault :=
  if markers = values then none
  else some (.bindCount statement.operation markers values)

/-- The first fault of the values against the markers of the text. -/
def valueFault? (statement : Statement) (markers : List String) : Option StatementFault :=
  let outs := statement.outs
  match statement.binds with
  | .positional values =>
    statement.countFault? markers.length (values.length + outs.length)
  | .batch rows =>
    let wanted := markers.length - outs.length
    rows.findSome? fun row => statement.countFault? wanted row.length
  | .named pairs =>
    let used := distinctFolded markers
    let bound := distinctFolded (pairs.map Prod.fst ++ outs.map OutBind.marker)
    if sameMembers used bound then none
    else some (.bindCount statement.operation used.length bound.length)

/-- The first marker for a returned column that the text does not hold. -/
def outFault? (statement : Statement) (markers : List String) : Option StatementFault :=
  statement.outs.findSome? fun out =>
    if Text.memFolded out.marker markers then none else some (.missingOut out.marker)

/-- The first fault of a statement. Definitions are not looked into, since the colons in a trigger
are no markers. -/
def fault? (statement : Statement) : Option StatementFault :=
  if statement.operation = definitionOperation then none
  else match Marker.nativeNames statement.sql with
    | .error part => some (.unterminated part)
    | .ok markers => (statement.valueFault? markers).or (statement.outFault? markers)

/-- Accepts a statement whose markers and values go together. -/
def check (statement : Statement) : Except Error Unit :=
  match statement.fault? with
  | some fault => .error (.statement fault {})
  | none => .ok ()

end Statement

/-! ### Plans -/

/-- How the returned rows of several input rows are collected. -/
inductive ReturningMode where
  /-- One call returns the rows of many input rows. -/
  | bulk
  /-- Each input row has a call of its own. -/
  | perRow
  deriving DecidableEq

/-- One operation: statements that run in order. -/
structure Plan where
  statements : List Statement
  /-- Whether all of them take effect or none. -/
  atomic : Bool := false
  returning : Option ReturningMode := none
  /-- How many input rows must come back, each once. -/
  inputRows : Option Nat := none
  deriving DecidableEq

namespace Plan

/-- The plan of one statement. -/
def single (statement : Statement) : Plan := { statements := [statement] }

/-- The plan of some statements, atomic if there are several. -/
def ofStatements (statements : List Statement) : Plan :=
  { statements, atomic := 1 < statements.length }

/-- The plan as one from which a row comes back for each input row. -/
def withReturning (plan : Plan) (mode : ReturningMode) (inputRows : Nat) : Plan :=
  { plan with returning := some mode, inputRows := some inputRows }

/-- Accepts a plan whose statements are all accepted. -/
def check (plan : Plan) : Except Error Unit :=
  plan.statements.forM Statement.check

end Plan

end OracleSql
