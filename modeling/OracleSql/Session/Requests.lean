/-
This file runs requests: a request is built for the dialect of the executor and run, and its rows
are read as a type of the program. A request that cannot be built makes no call, and where only one
row is wanted, only that row is read.
-/

import OracleSql.Request
import OracleSql.Session.Executor

namespace OracleSql.Executor

variable {σ α : Type}

/-! ### Queries -/

/-- The rows of a query. -/
def rows (executor : Executor σ) (request : Request) : Session σ (List Row) := do
  return (← executor.run (← Session.ofExcept (request.plan executor.dialect))).rows

/-- All rows of a query, read as values of a type. -/
def fetch (executor : Executor σ) (read : Row → Except Error α) (request : Request) :
    Session σ (List α) := do
  Session.ofExcept ((← executor.rows request).mapM read)

/-- The first row of a query, if it has one, read as a value of a type. -/
def fetchOption (executor : Executor σ) (read : Row → Except Error α) (request : Request) :
    Session σ (Option α) := do
  match ← executor.rows request with
  | [] => return none
  | row :: _ => return some (← Session.ofExcept (read row))

/-- The first row of a query, which must have one, read as a value of a type. -/
def fetchOne (executor : Executor σ) (read : Row → Except Error α) (request : Request) :
    Session σ α := do
  match ← executor.rows request with
  | [] => throw (.notFound .noRow)
  | row :: _ => Session.ofExcept (read row)

/-- How many rows, or groups, a query has. -/
def count (executor : Executor σ) (select : Select) : Session σ Int64 := do
  let statement ← Session.ofExcept (select.buildCount executor.dialect)
  let row ← executor.queryOne statement
  Session.ofExcept (row.getAt 0)

/-! ### Changes -/

/-- Runs a change. -/
def change (executor : Executor σ) (request : Request) : Session σ Outcome := do
  executor.run (← Session.ofExcept (request.changePlan executor.dialect))

/-- The rows that a change returns, read as values of a type. -/
def fetchReturned (executor : Executor σ) (read : Row → Except Error α) (request : Request) :
    Session σ (List α) := do
  Session.ofExcept ((← executor.change request).rows.mapM read)

end OracleSql.Executor
