/-
This file builds removals of rows. A removal without a condition that leaves a row out is refused,
unless the removal or the dialect allows it.
-/

import OracleSql.Change.Returning
import OracleSql.Condition

namespace OracleSql

/-- A removal of rows. -/
structure Delete where
  table : String
  filter : Filter := {}
  /-- The columns of the removed rows that are wanted back. -/
  returning : List String := []
  /-- Whether all rows may be removed. -/
  allowAll : Bool := false

namespace Delete

/-- The removal with its rows filtered further. -/
def refine (delete : Delete) (change : Filter → Filter) : Delete :=
  { delete with filter := change delete.filter }

/-- The place of the removal, for errors. -/
def context (delete : Delete) : Context := .on "delete" delete.table

/-- The statement of the removal. -/
def build (dialect : Dialect) (delete : Delete) : Except Error Statement := do
  if !(delete.filter.restricts || delete.allowAll || dialect.allowGlobalUpdate) then
    throw (.missingWhere delete.context)
  let table ← dialect.namePiece delete.table
  let rows ← delete.filter.clause dialect " WHERE "
  dialect.checkReturning "DELETE" delete.returning
  let tail ← dialect.returningPieces none delete.returning 0
  .ok { dialect.assemble (.text "DELETE FROM " :: (table ++ rows ++ tail)) .rowsAffected with
    operation := "delete", table := some delete.table }

/-- The plan of the removal. -/
def plan (dialect : Dialect) (delete : Delete) : Except Error Plan :=
  ((delete.build dialect).map Plan.single).mapError (Error.within delete.context)

end Delete

end OracleSql
