/-
This file gives up calls that take too long. A call can have a deadline, and it can be cancelled at
some time. What comes first counts, and at the same time the cancellation comes before the deadline
and both come before the answer. A call is not even started when its time is over already. After a
call was given up the state of the server is not known, so the connection may not be used again.
-/

import OracleSql.Session.Connection

namespace OracleSql

/-- How long calls may take. -/
structure CallOptions where
  /-- How long one run may take. -/
  timeout : Option Duration := none
  /-- When the calls are cancelled. -/
  cancelAt : Option Tick := none
  deriving DecidableEq

/-- Why a call is given up, and when. -/
inductive Interruption where
  | cancelled (time : Tick)
  | expired (time : Tick)
  deriving DecidableEq

namespace Interruption

/-- When the call is given up. -/
def time : Interruption → Tick
  | cancelled time => time
  | expired time => time

/-- The first thing that ends a call, if there is one. -/
def first? (cancelAt deadline : Option Tick) : Option Interruption :=
  match cancelAt, deadline with
  | none, none => none
  | some cancel, none => some (.cancelled cancel)
  | none, some limit => some (.expired limit)
  | some cancel, some limit =>
    if cancel ≤ limit then some (.cancelled cancel) else some (.expired limit)

/-- What ends a call that is started now. Of what is over already, the cancellation counts. -/
def pending? (now : Tick) (cancelAt deadline : Option Tick) : Option Interruption :=
  first? (cancelAt.map (max now)) (deadline.map (max now))

/-- The error of a call that was given up. -/
def error (options : CallOptions) : Interruption → Error
  | cancelled _ => .cancelled
  | expired _ => .timeout (options.timeout.getD ⟨0⟩)

end Interruption

namespace Connection

variable {σ α : Type}

/-- Waits for the answer of a call, unless it is interrupted before. -/
def guarded (connection : Connection σ) (options : CallOptions) (deadline : Option Tick)
    (call : σ → Pending σ α) : Session σ α :=
  ExceptT.mk fun state =>
    let now := connection.now state
    match Interruption.pending? now options.cancelAt deadline with
    | none => let pending := call state; (pending.answer, pending.arrived)
    | some interruption =>
      if interruption.time ≤ now then
        (.error (interruption.error options), connection.invalidate state)
      else
        let pending := call state
        if interruption.time ≤ pending.arrives then
          (.error (interruption.error options),
            connection.invalidate (pending.givenUp interruption.time))
        else (pending.answer, pending.arrived)

end Connection

end OracleSql
