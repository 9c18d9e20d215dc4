/-
This file holds connections to the database, seen from a program. A connection is a set of calls
over the state of the world. A call that has been started is pending: it arrives at some time with
an answer, and by then the world has changed; or it is given up before. Nothing else is known of a
connection, so what is built on it holds for every database and every way to fail.

Calls that are made one after the other, each of which may fail, form a session.
-/

import OracleSql.Row
import OracleSql.Statement

namespace OracleSql

/-! ### Calls -/

/-- A time, in nanoseconds since some start. -/
abbrev Tick := Nat

/-- A call that has been started. -/
structure Pending (σ α : Type) where
  /-- When the answer arrives. -/
  arrives : Tick
  answer : Except Error α
  /-- The world when the answer arrives. -/
  arrived : σ
  /-- The world when the call is given up at a time before that. -/
  givenUp : Tick → σ

/-- A call whose answer is read in another way. -/
def Pending.map {σ α β : Type} (change : α → β) (pending : Pending σ α) : Pending σ β where
  arrives := pending.arrives
  answer := pending.answer.map change
  arrived := pending.arrived
  givenUp := pending.givenUp

/-- A call that is answered at once, and by then the world is in a state. -/
def Pending.settled {σ α : Type} (answer : Except Error α) (state : σ) : Pending σ α where
  arrives := 0
  answer
  arrived := state
  givenUp _ := state

/-- A connection over the states `σ` of the world. -/
structure Connection (σ : Type) where
  /-- The time. -/
  now : σ → Tick
  /-- Runs a query for its rows. -/
  query : String → Binds → σ → Pending σ (List Row)
  /-- Runs a statement for the count of rows that it changes. -/
  execute : String → Binds → σ → Pending σ UInt64
  /-- Runs a statement once for each row of values. -/
  executeBatch : String → List (List Value) → σ → Pending σ UInt64
  /-- Runs a statement for the rows that it returns. -/
  executeReturning : String → Binds → List OutBind → σ → Pending σ (List ReturnedRow)
  begin : σ → Pending σ Unit
  commit : σ → Pending σ Unit
  rollback : σ → Pending σ Unit
  /-- Sets a savepoint in the open transaction. -/
  savepoint : String → σ → Pending σ Unit := fun name state =>
    (execute ("SAVEPOINT " ++ name) .none state).map fun _ => ()
  /-- Goes back to a savepoint; the transaction stays open. -/
  rollbackTo : String → σ → Pending σ Unit := fun name state =>
    (execute ("ROLLBACK TO SAVEPOINT " ++ name) .none state).map fun _ => ()
  /-- Whether a transaction is open. -/
  inTransaction : σ → Bool
  /-- Marks the connection as one that may not be used again. -/
  invalidate : σ → σ
  /-- Whether the connection may be used. -/
  isValid : σ → Bool := fun _ => true

/-! ### Sessions -/

/-- A row of calls, the later ones made only if the earlier ones succeed. -/
abbrev Session (σ α : Type) := ExceptT Error (StateM σ) α

namespace Session

variable {σ α : Type}

/-- Something that is looked up in the world. -/
def ask (question : σ → α) : Session σ α := do
  return question (← get)

/-- The outcome of a part, as a value. -/
def attempt (part : Session σ α) : Session σ (Except Error α) :=
  ExceptT.lift part.run

/-- An outcome that needs no calls. -/
def ofExcept (outcome : Except Error α) : Session σ α :=
  ExceptT.mk (pure outcome)

/-- Waits for the answer of a call, however long it takes. -/
def await (call : σ → Pending σ α) : Session σ α :=
  ExceptT.mk fun state => let pending := call state; (pending.answer, pending.arrived)

end Session

namespace Connection

variable {σ : Type}

/-- The first row of a query, which must have one. -/
def queryOne (connection : Connection σ) (sql : String) (binds : Binds) : Session σ Row := do
  match ← Session.await (connection.query sql binds) with
  | [] => throw (.notFound .noRow)
  | row :: _ => return row

/-- The only row of a query. -/
def queryOnly (connection : Connection σ) (sql : String) (binds : Binds) : Session σ Row := do
  match ← Session.await (connection.query sql binds) with
  | [] => throw (.notFound .noRow)
  | [row] => return row
  | rows => throw (.tooManyRows 1 rows.length)

/-- The first row of a query, if it has one. -/
def queryOption (connection : Connection σ) (sql : String) (binds : Binds) :
    Session σ (Option Row) := do
  return (← Session.await (connection.query sql binds)).head?

end Connection

end OracleSql
