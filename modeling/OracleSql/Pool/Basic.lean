/-
This file holds pools of sessions. A session that is given back waits in a row, and the one that has
waited longest is taken first. Before it is handed out again it must still be good: it was not
invalidated, it is neither too old nor was idle for too long, a transaction that was left open has
been rolled back, and it answers a ping. A session that fails any of this is discarded, and the next
one is tried; a new one is opened when none is left.
-/

import OracleSql.Connect.Target
import OracleSql.Pool.Settings
import OracleSql.Session.Connection

namespace OracleSql

/-- What opens sessions, each known by a key. -/
structure Connector (σ κ : Type) where
  /-- The time. -/
  now : σ → Tick
  /-- Opens a session. -/
  connect : ConnectTarget → Session σ κ
  /-- Asks a session for a sign of life. -/
  ping : κ → Session σ Unit
  connection : κ → Connection σ

/-- A session of a pool. -/
structure PooledSession (κ : Type) where
  key : κ
  opened : Tick
  /-- When it was last handed out. -/
  taken : Tick
  deriving DecidableEq

/-- A pool of sessions. -/
structure Pool (κ : Type) where
  target : ConnectTarget
  settings : PoolSettings
  /-- The sessions that wait, the one that has waited longest first. -/
  idle : List (PooledSession κ) := []
  /-- The sessions that are in use. -/
  held : List (PooledSession κ) := []

/-- What comes of asking for a session. -/
inductive Taken (κ : Type) where
  | session (key : κ)
  | failed (error : Error)
  /-- There is none, and the wait has no end. -/
  | blocked

namespace Pool

variable {σ κ : Type}

/-- The pool for a target that is given as a text. -/
def create (directoryExists : String → Bool) (text : String) (settings : PoolSettings) :
    Except Error (Pool κ) := do
  let target ← Error.ofConnect (ConnectTarget.parse text)
  Error.ofConnect (target.check directoryExists)
  let settings ← settings.checked
  .ok { target, settings }

/-- How many sessions are open. -/
def size (pool : Pool κ) : Nat :=
  pool.idle.length + pool.held.length

/-- Whether more time than the longest one has passed. -/
def exceeds (limit : Option Duration) (passed : Nat) : Bool :=
  limit.any fun longest => longest.nanoseconds < passed

/-- Why a session may not be used any longer, going by its age. -/
def staleness? (settings : PoolSettings) (now : Tick) (session : PooledSession κ) :
    Option PoolFault :=
  if exceeds settings.maxLifetime (now - session.opened) then some .tooOld
  else if exceeds settings.maxIdleTime (now - session.taken) then some .idleTooLong
  else none

/-- Makes a session that has waited ready to be handed out. -/
def recycle (connector : Connector σ κ) (settings : PoolSettings) (session : PooledSession κ) :
    Session σ Unit := do
  let connection := connector.connection session.key
  if !(← Session.ask connection.isValid) then throw (.pool .invalidated)
  match staleness? settings (← Session.ask connector.now) session with
  | some fault => throw (.pool fault)
  | none =>
    if ← Session.ask connection.inTransaction then Session.await connection.rollback
    connector.ping session.key

/-- The first of the waiting sessions that can be made ready, with those behind it; the ones before
it are discarded. -/
def firstReady (connector : Connector σ κ) (settings : PoolSettings) :
    List (PooledSession κ) →
    StateM σ (Option (PooledSession κ) × List (PooledSession κ))
  | [] => return (none, [])
  | session :: rest => do
    match ← (recycle connector settings session).run with
    | .ok () => return (some session, rest)
    | .error _ => firstReady connector settings rest

/-- What comes of asking while all sessions are in use. -/
def refused (settings : PoolSettings) : Taken κ :=
  if settings.acquireTimeout.isSome then .failed (.pool .waitedTooLong) else .blocked

/-- Takes a session: the first ready one, or a new one. -/
def take (connector : Connector σ κ) (pool : Pool κ) : StateM σ (Taken κ × Pool κ) := do
  if pool.settings.maxOpen ≤ pool.held.length then return (refused pool.settings, pool)
  let (ready, idle) ← firstReady connector pool.settings pool.idle
  match ready with
  | some session =>
    let now := connector.now (← get)
    return (.session session.key,
      { pool with idle, held := { session with taken := now } :: pool.held })
  | none =>
    match ← (connector.connect pool.target).run with
    | .ok key =>
      let now := connector.now (← get)
      return (.session key, { pool with idle, held := ⟨key, now, now⟩ :: pool.held })
    | .error error => return (.failed error, { pool with idle })

/-- Gives a session back, which then waits behind the others. -/
def giveBack [DecidableEq κ] (pool : Pool κ) (key : κ) : Pool κ :=
  let isMeant := fun (session : PooledSession κ) => session.key == key
  { pool with
    idle := pool.idle ++ pool.held.filter isMeant
    held := pool.held.filter fun session => !isMeant session }

end Pool

end OracleSql
