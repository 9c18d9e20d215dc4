/-
This file holds connections that follow a script, so that a program can be run without a database.
A script says which rows a query gets, which calls fail, and how long every call takes. A rehearsal
is the world in which scripted sessions act: a clock that only the calls move, and the calls that
were made. A call is noted and its outcome is chosen when it is started; whether it opens or ends a
transaction shows when it is answered.
-/

import OracleSql.Pool.Basic

namespace OracleSql

/-! ### Scripts -/

/-- Whether the letters stand somewhere in others, one after the other. -/
def occursIn (pattern : List Char) : List Char → Bool
  | [] => pattern.isEmpty
  | letter :: rest => pattern.isPrefixOf (letter :: rest) || occursIn pattern rest

/-- The rows that queries with a given text get. -/
structure ScriptedRows where
  /-- What the text of the query holds. -/
  pattern : String
  /-- The first value that is bound, where that matters. -/
  firstValue : Option Value := none
  rows : List Row
  deriving DecidableEq

/-- A failure of calls with a given text. -/
structure ScriptedFailure where
  /-- What the text of the call holds. -/
  pattern : String
  native : NativeError
  /-- How many such calls succeed before. -/
  skip : Nat := 0
  /-- How many such calls fail then, if not all. -/
  times : Option Nat := none
  deriving DecidableEq

/-- How a session acts. -/
structure Script where
  rows : List ScriptedRows := []
  failures : List ScriptedFailure := []
  /-- How long every call takes. -/
  delay : Duration := ⟨0⟩
  /-- The input rows to which returned rows belong, if not one to each. -/
  inputs : Option (List Nat) := none
  /-- Whether returned rows come in the opposite order. -/
  isReversed : Bool := false
  /-- Whether the last returned row is lost. -/
  dropsLast : Bool := false
  deriving DecidableEq

/-- The first of the values that one run takes. -/
def Binds.first? : Binds → Option Value
  | positional values => values.head?
  | named pairs => pairs.head?.map Prod.snd
  | batch rows => rows.head?.bind List.head?

/-- The rows of a query. -/
def Script.rowsOf (script : Script) (sql : String) (binds : Binds) : List Row :=
  let applies := fun (rule : ScriptedRows) =>
    occursIn rule.pattern.toList sql.toList &&
      (rule.firstValue.isNone || rule.firstValue == binds.first?)
  ((script.rows.find? applies).map ScriptedRows.rows).getD []

/-- The failure of a call, if it has one, and the failures that are left afterwards. -/
def takeFailure (text : String) :
    List ScriptedFailure → Option NativeError × List ScriptedFailure
  | [] => (none, [])
  | failure :: rest =>
    if !occursIn failure.pattern.toList text.toList || failure.times == some 0 then
      let (taken, others) := takeFailure text rest
      (taken, failure :: others)
    else if 0 < failure.skip then
      let (taken, others) := takeFailure text rest
      (taken, { failure with skip := failure.skip - 1 } :: others)
    else (some failure.native, { failure with times := failure.times.map (· - 1) } :: rest)

/-! ### Rehearsals -/

/-- A call that was made. -/
inductive Call where
  | query (sql : String) (binds : Binds)
  | execute (sql : String) (binds : Binds)
  | executeBatch (sql : String) (rows : List (List Value))
  | executeReturning (sql : String) (binds : Binds) (columns : List String)
  | begin
  | commit
  | rollback
  | connect (session : Nat) (target : ConnectTarget)
  | ping (session : Nat)
  deriving DecidableEq

/-- A session that follows a script. -/
structure ScriptedSession where
  /-- What is left of the script. -/
  script : Script := {}
  inTransaction : Bool := false
  isValid : Bool := true
  /-- How many rows it has returned; each of them has the next number as its values. -/
  returned : Nat := 0
  deriving DecidableEq

/-- The world of scripted sessions. -/
structure Rehearsal where
  now : Tick := 0
  /-- The calls that were made, the last one first. -/
  calls : List Call := []
  sessions : List ScriptedSession := []
  /-- How a session that is opened starts. -/
  opening : ScriptedSession := {}
  /-- The error with which no session can be opened. -/
  refusal : Option NativeError := none
  /-- The error with which no session answers a ping. -/
  silence : Option NativeError := none
  deriving DecidableEq

namespace Rehearsal

/-- The session with a number. -/
def session (rehearsal : Rehearsal) (number : Nat) : ScriptedSession :=
  rehearsal.sessions[number]?.getD {}

/-- The rehearsal after a change of a session. -/
def modify (rehearsal : Rehearsal) (number : Nat) (change : ScriptedSession → ScriptedSession) :
    Rehearsal :=
  { rehearsal with sessions := rehearsal.sessions.modify number change }

/-- The rehearsal after a call. -/
def note (rehearsal : Rehearsal) (call : Call) : Rehearsal :=
  { rehearsal with calls := call :: rehearsal.calls }

/-- Starts a call of a session. `perform` takes place at the start, and `settle` with the answer. -/
def play {α : Type} (number : Nat) (call : Call) (text : String)
    (perform : ScriptedSession → α × ScriptedSession)
    (settle : ScriptedSession → ScriptedSession) (rehearsal : Rehearsal) : Pending Rehearsal α :=
  let session := rehearsal.session number
  let arrives := rehearsal.now + session.script.delay.nanoseconds
  let noted := rehearsal.note call
  let (failure, failures) := takeFailure text session.script.failures
  let ready := { session with script := { session.script with failures } }
  match failure with
  | some native =>
    let failed := noted.modify number fun _ => ready
    { arrives
      answer := .error (.database native {})
      arrived := { failed with now := arrives }
      givenUp := fun time => { failed with now := time } }
  | none =>
    let (result, performed) := perform ready
    let started := noted.modify number fun _ => performed
    { arrives
      answer := .ok result
      arrived := { started.modify number settle with now := arrives }
      givenUp := fun time => { started with now := time } }

/-- A call for a result that leaves the session as it is. -/
def answer {α : Type} (number : Nat) (call : Call) (text : String) (result : Script → α) :
    Rehearsal → Pending Rehearsal α :=
  play number call text (fun session => (result session.script, session)) id

/-- A call that opens or ends a transaction. -/
def control (number : Nat) (call : Call) (text : String) (opens : Bool) :
    Rehearsal → Pending Rehearsal Unit :=
  play number call text (fun session => ((), session))
    fun session => { session with inTransaction := opens }

/-- The rows that a session returns for columns, before any is moved or lost. -/
def returnedRows (session : ScriptedSession) (columns : List String)
    (inputs : List Nat) : List ReturnedRow :=
  inputs.zipIdx (session.returned + 1) |>.map fun (input, number) =>
    { input := .ofNat input
      row := .ofColumns (columns.map Text.foldUpper)
        (columns.map fun _ => .int (Int64.ofNat number)) }

/-- What a session returns for columns of so many input rows. -/
def give (columns : List String) (count : Nat) (session : ScriptedSession) :
    List ReturnedRow × ScriptedSession :=
  let script := session.script
  let inputs := script.inputs.getD (List.range count)
  let rows := returnedRows session columns inputs
  let turned := if script.isReversed then rows.reverse else rows
  let kept := if script.dropsLast then turned.dropLast else turned
  (kept, { session with returned := session.returned + inputs.length })

/-- The connection of the session with a number. -/
def connection (number : Nat) : Connection Rehearsal where
  now := Rehearsal.now
  query sql binds := answer number (.query sql binds) sql fun script => script.rowsOf sql binds
  execute sql binds := answer number (.execute sql binds) sql fun _ => 1
  executeBatch sql rows := answer number (.executeBatch sql rows) sql fun _ => .ofNat rows.length
  executeReturning sql binds outs :=
    let columns := outs.map OutBind.column
    play number (.executeReturning sql binds columns) sql (give columns binds.rows) id
  begin := control number .begin "BEGIN" true
  commit := control number .commit "COMMIT" false
  rollback := control number .rollback "ROLLBACK" false
  inTransaction rehearsal := (rehearsal.session number).inTransaction
  invalidate rehearsal := rehearsal.modify number fun session => { session with isValid := false }
  isValid rehearsal := (rehearsal.session number).isValid

/-- What opens scripted sessions. A session that could not be opened has its number too. -/
def connector : Connector Rehearsal Nat where
  now := Rehearsal.now
  connect target := do
    let rehearsal ← get
    let number := rehearsal.sessions.length
    set { rehearsal.note (.connect number target) with
      sessions := rehearsal.sessions ++ [rehearsal.opening] }
    match rehearsal.refusal with
    | some native => throw (.database native {})
    | none => return number
  ping number := do
    let rehearsal ← get
    set (rehearsal.note (.ping number))
    match rehearsal.silence with
    | some native => throw (.database native {})
    | none => return
  connection := connection

/-- The calls in the order in which they were made. -/
def history (rehearsal : Rehearsal) : List Call :=
  rehearsal.calls.reverse

end Rehearsal

end OracleSql
