/-
This file brings the builders together: a request is a query, a change of rows or a statement
written by hand, and each of them has a plan. Where a statement written by hand can be read as a
query and as a change, its plan is that of the query.
-/

import OracleSql.Change.Delete
import OracleSql.Change.Insert
import OracleSql.Change.Merge
import OracleSql.Change.Update
import OracleSql.Query.HandWritten
import OracleSql.Query.Select

namespace OracleSql

/-- What a program asks of the database. -/
inductive Request where
  | select (query : Select)
  | insert (change : Insert)
  | update (change : Update)
  | delete (change : Delete)
  | merge (change : Merge)
  | handWritten (statement : HandWritten)

namespace Request

/-- The plan of a request. -/
def plan (dialect : Dialect) : Request → Except Error Plan
  | select query => (query.build dialect).map Plan.single
  | insert change => change.plan dialect
  | update change => change.plan dialect
  | delete change => change.plan dialect
  | merge change => change.plan dialect
  | handWritten statement => (statement.build dialect).map Plan.single

/-- The plan of a request for the count of rows that it changes, or for the columns it returns. -/
def changePlan (dialect : Dialect) : Request → Except Error Plan
  | handWritten statement => statement.changePlan dialect
  | request => request.plan dialect

end Request

end OracleSql
