/-
This file builds changes of rows. A change without a condition that leaves a row out is refused,
unless the change or the dialect allows it. The count of changed rows is known only afterwards, so
no room is made for returned columns before.
-/

import OracleSql.Change.Returning
import OracleSql.Condition

namespace OracleSql

/-- What a column is set to. -/
inductive Assignment where
  | value (value : Value)
  /-- A trusted expression without markers. -/
  | expression (sql : String)
  deriving DecidableEq

/-- A change of rows. -/
structure Update where
  table : String
  /-- The declaration of the table, where values are to be checked against it. -/
  declared : Option Table := none
  assignments : List (String × Assignment) := []
  filter : Filter := {}
  /-- The columns of the changed rows that are wanted back. -/
  returning : List String := []
  /-- Whether all rows may be changed. -/
  allowAll : Bool := false

namespace Update

/-- A change of a declared table. -/
def ofTable (table : Table) : Update :=
  { table := table.name, declared := some table }

/-- The change with one more column set to a value. -/
def set {α : Type} [ToValue α] (update : Update) (column : String) (value : α) : Update :=
  { update with assignments := update.assignments ++ [(column, .value (toValue value))] }

/-- The change with one more column set to an expression. -/
def setExpression (update : Update) (column sql : String) : Update :=
  { update with assignments := update.assignments ++ [(column, .expression sql)] }

/-- The change with its rows filtered further. -/
def refine (update : Update) (change : Filter → Filter) : Update :=
  { update with filter := change update.filter }

/-- The place of the change, for errors. -/
def context (update : Update) : Context := .on "update" update.table

/-- The pieces that set a column. -/
def assignmentPieces (dialect : Dialect) (update : Update) (column : String)
    (assignment : Assignment) : Draft := do
  let name ← dialect.nameText column
  let content ← match assignment with
    | .value value => (dialect.store update.declared column value).map fun stored => [.value stored]
    | .expression sql => dialect.fragment sql {}
  .ok (.text (name ++ " = ") :: content)

/-- The statement of the change. -/
def build (dialect : Dialect) (update : Update) : Except Error Statement := do
  if update.assignments.isEmpty then throw (.validation .noAssignments)
  if !(update.filter.restricts || update.allowAll || dialect.allowGlobalUpdate) then
    throw (.missingWhere update.context)
  let table ← dialect.namePiece update.table
  let changes ← update.assignments.mapM fun (column, assignment) =>
    update.assignmentPieces dialect column assignment
  let rows ← update.filter.clause dialect " WHERE "
  dialect.checkReturning "UPDATE" update.returning
  let tail ← dialect.returningPieces update.declared update.returning 0
  let pieces :=
    .text "UPDATE " :: (table ++ (.text " SET " :: (Piece.join ", " changes ++ rows ++ tail)))
  .ok { dialect.assemble pieces .rowsAffected with
    operation := "update", table := some update.table }

/-- The plan of the change. -/
def plan (dialect : Dialect) (update : Update) : Except Error Plan :=
  ((update.build dialect).map Plan.single).mapError (Error.within update.context)

end Update

end OracleSql
