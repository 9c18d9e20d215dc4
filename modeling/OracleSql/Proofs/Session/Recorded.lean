/-
This file keeps a record of the calls that a connection gets. A recorded connection acts on the
world together with a list of entries: every call that is started adds an entry with what became of
it, and so does marking the connection as unusable. Nothing else is different, so a session does on
a recorded connection what it does on the connection itself, and what it sent can be read off the
list.

`Tells` says both of a session at once: recording changes nothing, and the entries that are added go
with the outcome in the way that a story asks for. Stories are put together along a session as its
parts are, and `Ended` is the story of a single call that may be given up.
-/

import OracleSql.Proofs.Session.Perform

namespace OracleSql

/-! ### Entries -/

/-- What a connection is asked for. -/
inductive Act where
  | query (sql : String) (binds : Binds)
  | execute (sql : String) (binds : Binds)
  | executeBatch (sql : String) (rows : List (List Value))
  | executeReturning (sql : String) (binds : Binds) (outs : List OutBind)
  | begin
  | commit
  | rollback
  | savepoint (name : String)
  | rollbackTo (name : String)
  | invalidate
  deriving DecidableEq

namespace Act

/-- Whether a statement is run. -/
def isStatement : Act → Bool
  | query _ _ => true
  | execute _ _ => true
  | executeBatch _ _ => true
  | executeReturning _ _ _ => true
  | _ => false

/-- Whether a transaction or a part of it is opened or ended. -/
def isControl : Act → Bool
  | begin => true
  | commit => true
  | rollback => true
  | savepoint _ => true
  | rollbackTo _ => true
  | _ => false

/-- Whether changes are taken back. -/
def takesBack : Act → Bool
  | rollback => true
  | rollbackTo _ => true
  | _ => false

theorem isControl_of_takesBack {act : Act} (undoes : act.takesBack = true) :
    act.isControl = true := by
  cases act <;> first | rfl | cases undoes

theorem isStatement_of_isControl {act : Act} (controls : act.isControl = true) :
    act.isStatement = false := by
  cases act <;> first | rfl | cases controls

end Act

/-- What a call is answered with. Each call fills its own part. -/
structure Reply where
  rows : List Row := []
  affected : UInt64 := 0
  returned : List ReturnedRow := []
  deriving DecidableEq

/-- What became of a call. -/
inductive Ending where
  | succeeded (reply : Reply)
  | failed (error : Error)
  | givenUp
  deriving DecidableEq

/-- A call with what became of it. -/
structure Entry where
  act : Act
  ending : Ending
  deriving DecidableEq

namespace Entry

/-- Whether the call succeeded. -/
def isSuccess (entry : Entry) : Bool :=
  match entry.ending with
  | .succeeded _ => true
  | _ => false

/-- The connection is marked as unusable, which has no answer. -/
def invalidation : Entry := ⟨.invalidate, .succeeded {}⟩

/-- The rows that a call returned for its input rows. -/
def returned (entry : Entry) : List ReturnedRow :=
  match entry.ending with
  | .succeeded reply => reply.returned
  | _ => []

end Entry

/-- The calls that run a statement, in order. -/
def statementCalls (calls : List Entry) : List Entry :=
  calls.filter fun entry => entry.act.isStatement

theorem statementCalls_append (earlier later : List Entry) :
    statementCalls (earlier ++ later) = statementCalls earlier ++ statementCalls later :=
  List.filter_append earlier later

theorem statementCalls_eq_nil {calls : List Entry}
    (others : ∀ entry ∈ calls, entry.act.isStatement = false) : statementCalls calls = [] := by
  unfold statementCalls
  rw [List.filter_eq_nil_iff]
  intro entry member
  rw [others entry member]
  exact Bool.false_ne_true

theorem statementCalls_eq_self {calls : List Entry}
    (all : ∀ entry ∈ calls, entry.act.isStatement = true) : statementCalls calls = calls :=
  List.filter_eq_self.mpr all

/-! ### Recorded connections -/

variable {σ α β : Type}

/-- The ending of a call that was answered. -/
def Ending.ofAnswer (reply : α → Reply) : Except Error α → Ending
  | .ok answer => .succeeded (reply answer)
  | .error error => .failed error

/-- The call, with an entry behind the earlier ones for what becomes of it. -/
def Pending.recorded (act : Act) (reply : α → Reply) (earlier : List Entry)
    (pending : Pending σ α) : Pending (σ × List Entry) α where
  arrives := pending.arrives
  answer := pending.answer
  arrived := (pending.arrived, earlier ++ [⟨act, .ofAnswer reply pending.answer⟩])
  givenUp time := (pending.givenUp time, earlier ++ [⟨act, .givenUp⟩])

/-- A call that is recorded when it is started. -/
def recordedCall (act : Act) (reply : α → Reply) (call : σ → Pending σ α) (state : σ × List Entry) :
    Pending (σ × List Entry) α :=
  (call state.1).recorded act reply state.2

/-- The connection with a record of its calls. -/
def Connection.recorded (connection : Connection σ) : Connection (σ × List Entry) where
  now state := connection.now state.1
  query sql binds :=
    recordedCall (.query sql binds) (fun rows => { rows }) (connection.query sql binds)
  execute sql binds :=
    recordedCall (.execute sql binds) (fun affected => { affected }) (connection.execute sql binds)
  executeBatch sql rows :=
    recordedCall (.executeBatch sql rows) (fun affected => { affected })
      (connection.executeBatch sql rows)
  executeReturning sql binds outs :=
    recordedCall (.executeReturning sql binds outs) (fun returned => { returned })
      (connection.executeReturning sql binds outs)
  begin := recordedCall .begin (fun _ => {}) connection.begin
  commit := recordedCall .commit (fun _ => {}) connection.commit
  rollback := recordedCall .rollback (fun _ => {}) connection.rollback
  savepoint name := recordedCall (.savepoint name) (fun _ => {}) (connection.savepoint name)
  rollbackTo name := recordedCall (.rollbackTo name) (fun _ => {}) (connection.rollbackTo name)
  inTransaction state := connection.inTransaction state.1
  invalidate state := (connection.invalidate state.1, state.2 ++ [.invalidation])
  isValid state := connection.isValid state.1

/-! ### Stories -/

/-- A session and the same session on a recorded connection come to the same, and the entries that
are added go with the outcome as the story says. -/
def Tells (plain : Session σ α) (noted : Session (σ × List Entry) α)
    (story : Except Error α → List Entry → Prop) : Prop :=
  ∀ state earlier, ∃ entries,
    noted.perform (state, earlier) =
      ((plain.perform state).1, (plain.perform state).2, earlier ++ entries) ∧
    story (plain.perform state).1 entries

namespace Tells

variable {plain : Session σ α} {noted : Session (σ × List Entry) α}
  {story further : Except Error α → List Entry → Prop}

theorem mono (tells : Tells plain noted story)
    (implies : ∀ outcome entries, story outcome entries → further outcome entries) :
    Tells plain noted further := by
  intro state earlier
  obtain ⟨entries, same, told⟩ := tells state earlier
  exact ⟨entries, same, implies _ _ told⟩

/-- An outcome that needs no calls adds no entries. -/
theorem ofExcept {outcome : Except Error α} (told : story outcome []) :
    Tells (Session.ofExcept outcome : Session σ α) (Session.ofExcept outcome) story := by
  intro state earlier
  refine ⟨[], ?_, told⟩
  rw [Session.perform_ofExcept, Session.perform_ofExcept, List.append_nil]

theorem pure {result : α} (told : story (.ok result) []) :
    Tells (Pure.pure result : Session σ α) (Pure.pure result) story :=
  ofExcept told

theorem throw {error : Error} (told : story (.error error) []) :
    Tells (MonadExcept.throw error : Session σ α) (MonadExcept.throw error) story :=
  ofExcept told

/-- An attempt tells the story of what is attempted. -/
theorem attempt (tells : Tells plain noted story) :
    Tells plain.attempt noted.attempt fun outcome entries =>
      ∃ attempted, outcome = .ok attempted ∧ story attempted entries := by
  intro state earlier
  obtain ⟨entries, same, told⟩ := tells state earlier
  refine ⟨entries, ?_, _, by rw [Session.perform_attempt], told⟩
  rw [Session.perform_attempt, Session.perform_attempt, same]

/-- The entries of a part come before those of the rest, which is told on from there. A part that
fails has told all. -/
theorem bind {next : α → Session σ β} {other : α → Session (σ × List Entry) β}
    {told : Except Error β → List Entry → Prop} (part : Tells plain noted story)
    (stops : ∀ error entries, story (.error error) entries → told (.error error) entries)
    (goes : ∀ result before, story (.ok result) before →
      Tells (next result) (other result) fun outcome after => told outcome (before ++ after)) :
    Tells (plain >>= next) (noted >>= other) told := by
  intro state earlier
  obtain ⟨before, same, first⟩ := part state earlier
  rcases come : plain.perform state with ⟨outcome, middle⟩
  rw [come] at same first
  cases outcome with
  | error error =>
    refine ⟨before, ?_, ?_⟩
    · rw [Session.perform_bind_error same, Session.perform_bind_error come]
    · rw [Session.perform_bind_error come]
      exact stops error before first
  | ok result =>
    obtain ⟨after, rest, whole⟩ := goes result before first middle (earlier ++ before)
    refine ⟨before ++ after, ?_, ?_⟩
    · rw [Session.perform_bind_ok same, Session.perform_bind_ok come, rest, List.append_assoc]
    · rw [Session.perform_bind_ok come]
      exact whole

/-- Waiting for an answer adds one entry, with the answer. -/
theorem await (act : Act) (reply : α → Reply) (call : σ → Pending σ α) :
    Tells (Session.await call) (Session.await (recordedCall act reply call))
      fun outcome entries => entries = [⟨act, .ofAnswer reply outcome⟩] := by
  intro state earlier
  exact ⟨_, rfl, rfl⟩

end Tells

/-! ### Calls that may be given up -/

/-- The error of a call that is started at some time and given up. -/
def CallOptions.GivesUp (options : CallOptions) (deadline : Option Tick) (error : Error) : Prop :=
  ∃ now interruption, Interruption.pending? now options.cancelAt deadline = some interruption ∧
    error = interruption.error options

theorem CallOptions.GivesUp.isAbandonment {options : CallOptions} {deadline : Option Tick}
    {error : Error} (given : options.GivesUp deadline error) : error.isAbandonment = true := by
  obtain ⟨_, interruption, _, rfl⟩ := given
  cases interruption <;> rfl

/-- Without a deadline and a cancellation nothing is given up. -/
theorem CallOptions.not_givesUp (error : Error) : ¬ ({} : CallOptions).GivesUp none error := by
  rintro ⟨now, interruption, impossible, _⟩
  cases impossible

/-- What becomes of a call that may be given up, with the entries for it. `result` reads an answer,
and `shown` is how its own errors are shown. -/
inductive Ended (options : CallOptions) (deadline : Option Tick) (act : Act) (result : Reply → α)
    (shown : Error → Error) : Except Error α → List Entry → Prop where
  | succeeded (reply : Reply) :
    Ended options deadline act result shown (.ok (result reply)) [⟨act, .succeeded reply⟩]
  | failed (error : Error) :
    Ended options deadline act result shown (.error (shown error)) [⟨act, .failed error⟩]
  | givenUp {error : Error} (given : options.GivesUp deadline error) :
    Ended options deadline act result shown (.error error) [⟨act, .givenUp⟩, .invalidation]
  /-- The time was over before the call was started. -/
  | unsent {error : Error} (given : options.GivesUp deadline error) :
    Ended options deadline act result shown (.error error) [.invalidation]

/-- A call that may be given up adds itself and a mark on the connection at most. -/
theorem Ended.act_of_mem {options : CallOptions} {deadline : Option Tick} {act : Act}
    {result : Reply → α} {shown : Error → Error} {outcome : Except Error α} {calls : List Entry}
    (ended : Ended options deadline act result shown outcome calls) :
    ∀ entry ∈ calls, entry.act = act ∨ entry.act = .invalidate := by
  cases ended <;> simp [Entry.invalidation]

/-- A call that fails was answered with the error, or was given up. -/
theorem Ended.failed_or_givenUp {options : CallOptions} {deadline : Option Tick} {act : Act}
    {result : Reply → α} {shown : Error → Error} {error : Error} {calls : List Entry}
    (ended : Ended options deadline act result shown (.error error) calls) :
    (∃ failure, calls = [⟨act, .failed failure⟩] ∧ error = shown failure) ∨
      options.GivesUp deadline error ∧ .invalidation ∈ calls := by
  cases ended with
  | failed failure => exact .inl ⟨failure, rfl, rfl⟩
  | givenUp given => exact .inr ⟨given, List.mem_cons_of_mem _ List.mem_cons_self⟩
  | unsent given => exact .inr ⟨given, List.mem_cons_self⟩

theorem Session.perform_guarded (connection : Connection σ) (options : CallOptions)
    (deadline : Option Tick) (call : σ → Pending σ α) (state : σ) :
    (connection.guarded options deadline call).perform state =
      match Interruption.pending? (connection.now state) options.cancelAt deadline with
      | none => ((call state).answer, (call state).arrived)
      | some interruption =>
        if interruption.time ≤ connection.now state then
          (.error (interruption.error options), connection.invalidate state)
        else if interruption.time ≤ (call state).arrives then
          (.error (interruption.error options),
            connection.invalidate ((call state).givenUp interruption.time))
        else ((call state).answer, (call state).arrived) := rfl

/-- A call that may be given up ends in one of four ways. -/
theorem Tells.guarded (connection : Connection σ) (options : CallOptions) (deadline : Option Tick)
    (act : Act) (reply : α → Reply) (call : σ → Pending σ α) (result : Reply → α)
    (inverse : ∀ answer, result (reply answer) = answer) :
    Tells (connection.guarded options deadline call)
      (connection.recorded.guarded options deadline (recordedCall act reply call))
      (Ended options deadline act result id) := by
  intro state earlier
  have answered : Ended options deadline act result id (call state).answer
      [⟨act, .ofAnswer reply (call state).answer⟩] := by
    cases (call state).answer with
    | ok answer =>
      have ended : Ended options deadline act result id (.ok (result (reply answer)))
          [⟨act, .succeeded (reply answer)⟩] :=
        .succeeded (reply answer)
      rwa [inverse] at ended
    | error error => exact .failed error
  have clock : connection.recorded.now (state, earlier) = connection.now state := rfl
  have arrival : (recordedCall act reply call (state, earlier)).arrives = (call state).arrives :=
    rfl
  rw [Session.perform_guarded, Session.perform_guarded, clock, arrival]
  cases due : Interruption.pending? (connection.now state) options.cancelAt deadline with
  | none => exact ⟨_, rfl, answered⟩
  | some interruption =>
    have given : options.GivesUp deadline (interruption.error options) := ⟨_, _, due, rfl⟩
    dsimp only
    split
    · exact ⟨_, rfl, .unsent given⟩
    · split
      · refine ⟨_, ?_, .givenUp given⟩
        exact congrArg (fun entries => (_, _, entries)) (List.append_assoc _ _ _)
      · exact ⟨_, rfl, answered⟩

end OracleSql
