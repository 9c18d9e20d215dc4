/-
This file runs plans on a connection. A plan is run only on a valid connection and only if all of
its statements have their values. Several statements that take effect together are put into a
transaction, or behind a savepoint where the caller has a transaction open already. If one fails,
what was done is taken back; but after a call was given up nothing more is sent.

Rows that are returned for rows that were put in are brought into the order of these, and each of
them must have exactly one.
-/

import OracleSql.Error.Classify
import OracleSql.Session.Guard

namespace OracleSql

/-! ### Outcomes -/

/-- A count of rows is read as a number without a bound. -/
instance coeOutNat : CoeOut UInt64 Nat := ⟨UInt64.toNat⟩

/-- What a plan has done. -/
structure Outcome where
  rowsAffected : UInt64
  /-- The rows of queries, or the returned rows in the order of the input rows. -/
  rows : List Row
  deriving DecidableEq

/-- What one statement has done. -/
structure Gain where
  rows : List Row := []
  affected : UInt64 := 0
  /-- The returned rows, with the input rows counted over the whole plan. -/
  returned : List ReturnedRow := []
  deriving DecidableEq

/-- The fault of the first returned row that belongs to no input row, or to one that an earlier row
belongs to. -/
def ReturnFault.first? (sent : Nat) : (earlier : List Nat) → List ReturnedRow → Option ReturnFault
  | _, [] => none
  | earlier, returned :: rest =>
    if sent ≤ returned.number then some (.outside returned.number sent)
    else if earlier.contains returned.number then some (.twice returned.number)
    else first? sent (returned.number :: earlier) rest

/-- The returned row of an input row. -/
def rowOf (returned : List ReturnedRow) (input : Nat) : Except ReturnFault Row :=
  match returned.find? fun candidate => candidate.number == input with
  | some found => .ok found.row
  | none => .error (.missing input)

/-- The returned rows in the order of the input rows, which must have one each. -/
def correlate (returned : List ReturnedRow) (sent : Nat) : Except ReturnFault (List Row) :=
  match ReturnFault.first? sent [] returned with
  | some fault => .error fault
  | none => (List.range sent).mapM (rowOf returned)

/-- The outcome of a plan whose statements have done all this. -/
def Plan.outcome (plan : Plan) (gains : List Gain) : Except Error Outcome :=
  let returned := gains.flatMap Gain.returned
  let rowsAffected := gains.foldl (fun total gain => total + gain.affected) 0
  if plan.returning.isSome || !returned.isEmpty then
    match plan.inputRows with
    | some sent =>
      match correlate returned sent with
      | .ok rows => .ok { rowsAffected, rows }
      | .error fault => .error (.other fault)
    | none => .ok { rowsAffected, rows := returned.map ReturnedRow.row }
  else .ok { rowsAffected, rows := gains.flatMap Gain.rows }

/-! ### Running -/

/-- What runs plans: a connection, the dialect, and how long calls may take. -/
structure Executor (σ : Type) where
  dialect : Dialect
  connection : Connection σ
  options : CallOptions := {}

namespace Executor

variable {σ : Type}

/-- The savepoint of a plan inside the transaction of the caller. -/
def planSavepoint : String := "ORADIALECT_PLAN"

/-- An error with the statement it comes from, as the dialect shows it. -/
def placed (executor : Executor σ) (statement : Statement) (error : Error) : Error :=
  executor.dialect.translateError
    (error.within { operation := some statement.operation, table := statement.table })

/-- Sends a statement in the way that its shape and its values ask for. -/
def send (executor : Executor σ) (deadline : Option Tick) (statement : Statement) :
    Session σ Gain := do
  let connection := executor.connection
  match statement.shape with
  | .rows =>
    let rows ← connection.guarded executor.options deadline
      (connection.query statement.sql statement.binds)
    return { rows }
  | .rowsAffected =>
    let call := match statement.binds with
      | .batch rows => connection.executeBatch statement.sql rows
      | binds => connection.execute statement.sql binds
    let affected ← connection.guarded executor.options deadline call
    return { affected }
  | .returning outs =>
    let returned ← connection.guarded executor.options deadline
      (connection.executeReturning statement.sql statement.binds outs)
    return {
      affected := .ofNat returned.length
      returned := returned.map (ReturnedRow.behind statement.inputOffset) }

/-- Runs a statement; its error names the statement. -/
def runStatement (executor : Executor σ) (deadline : Option Tick) (statement : Statement) :
    Session σ Gain := do
  match ← (executor.send deadline statement).attempt with
  | .ok gain => return gain
  | .error error => throw (executor.placed statement error)

/-- Runs the statements of a plan in order. -/
def runStatements (executor : Executor σ) (deadline : Option Tick) (plan : Plan) :
    Session σ Outcome := do
  let gains ← plan.statements.mapM (executor.runStatement deadline)
  Session.ofExcept (plan.outcome gains)

/-- How the statements of a plan are held together. -/
inductive Bracket where
  /-- Each of them stands for itself. -/
  | alone
  /-- By a transaction of the plan. -/
  | transaction
  /-- By a savepoint in the transaction of the caller. -/
  | savepoint
  deriving DecidableEq

/-- How a plan is held together while the caller's transaction is open or not. -/
def bracket (plan : Plan) (inTransaction : Bool) : Bracket :=
  if plan.atomic && 1 < plan.statements.length then
    if inTransaction then .savepoint else .transaction
  else .alone

/-- Opens what holds a plan together. -/
def enter (executor : Executor σ) (deadline : Option Tick) : Bracket → Session σ Unit
  | .alone => return
  | .transaction => executor.connection.guarded executor.options deadline
      executor.connection.begin
  | .savepoint => executor.connection.guarded executor.options deadline
      (executor.connection.savepoint planSavepoint)

/-- Closes what holds a plan together after success. The caller's transaction stays open. -/
def leave (executor : Executor σ) (deadline : Option Tick) : Bracket → Session σ Unit
  | .transaction => executor.connection.guarded executor.options deadline
      executor.connection.commit
  | _ => return

/-- Takes back what a plan has done. Whether that succeeds makes no difference to the answer. -/
def takeBack (executor : Executor σ) : Bracket → Session σ Unit
  | .alone => return
  | .transaction => do
    let _ ← (Session.await executor.connection.rollback).attempt
  | .savepoint => do
    let _ ← (Session.await (executor.connection.rollbackTo planSavepoint)).attempt

/-- Runs the statements of a plan between what opens it and what closes it. -/
def runHeld (executor : Executor σ) (deadline : Option Tick) (held : Bracket) (plan : Plan) :
    Session σ Outcome := do
  executor.enter deadline held
  match ← (executor.runStatements deadline plan).attempt with
  | .ok outcome =>
    executor.leave deadline held
    return outcome
  | .error error =>
    if !error.isAbandonment then executor.takeBack held
    throw error

/-- Runs a plan. -/
def run (executor : Executor σ) (plan : Plan) : Session σ Outcome := do
  if !(← Session.ask executor.connection.isValid) then throw (.pool .unusable)
  Session.ofExcept plan.check
  let start ← Session.ask executor.connection.now
  let deadline := executor.options.timeout.map fun limit => start + limit.nanoseconds
  let inTransaction ← Session.ask executor.connection.inTransaction
  executor.runHeld deadline (bracket plan inTransaction) plan

/-! ### Single statements -/

/-- The rows of a statement. -/
def query (executor : Executor σ) (statement : Statement) : Session σ (List Row) := do
  return (← executor.run (.single statement)).rows

/-- The first row of a statement, which must have one. -/
def queryOne (executor : Executor σ) (statement : Statement) : Session σ Row := do
  match ← executor.query statement with
  | [] => throw (.notFound .noRow)
  | row :: _ => return row

/-- The first row of a statement, if it has one. -/
def queryOption (executor : Executor σ) (statement : Statement) : Session σ (Option Row) := do
  return (← executor.query statement).head?

/-- The count of rows that a statement changes. -/
def execute (executor : Executor σ) (statement : Statement) : Session σ UInt64 := do
  return (← executor.run (.single statement)).rowsAffected

end Executor

end OracleSql
