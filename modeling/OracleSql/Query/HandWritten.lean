/-
This file holds statements that are written by hand as a template with values. Such a statement can
be run for its rows or for the count of rows it changes.
-/

import OracleSql.Template

namespace OracleSql

/-- A template with its values, and the table that errors are to name. -/
structure HandWritten where
  template : String
  args : Args := {}
  table : Option String := none

namespace HandWritten

/-- The statement for its rows. -/
def build (dialect : Dialect) (written : HandWritten) : Except Error Statement :=
  (dialect.translate written.template written.args).map fun statement =>
    { statement with table := written.table.or statement.table }

/-- The plan for the count of changed rows. -/
def changePlan (dialect : Dialect) (written : HandWritten) : Except Error Plan :=
  (written.build dialect).map fun statement => .single { statement with shape := .rowsAffected }

end HandWritten

end OracleSql
