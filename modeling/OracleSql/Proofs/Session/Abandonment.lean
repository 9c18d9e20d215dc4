/-
This file says what follows when a call is given up. A session that gives calls up stops there: the
call that was given up, if it was started at all, and the mark on the connection are the last
entries of its record, its outcome is the error of what ended the call, and the world it leaves is
the one in which the connection was marked. `Stops` says this of a session, and it is put together
along a run as the run is. What is attempted has to pass such an error on without another call;
naming the statement leaves the error as it is, and nothing is taken back after it.
-/

import OracleSql.Proofs.Session.Transcript

namespace OracleSql

variable {σ α β : Type}

/-! ### How a session stops -/

/-- The world when a call is given up at some time. -/
def Connection.givenUp (connection : Connection σ) (act : Act) (world : σ) (time : Tick) : σ :=
  match act with
  | .query sql binds => (connection.query sql binds world).givenUp time
  | .execute sql binds => (connection.execute sql binds world).givenUp time
  | .executeBatch sql rows => (connection.executeBatch sql rows world).givenUp time
  | .executeReturning sql binds outs =>
    (connection.executeReturning sql binds outs world).givenUp time
  | .begin => (connection.begin world).givenUp time
  | .commit => (connection.commit world).givenUp time
  | .rollback => (connection.rollback world).givenUp time
  | .savepoint name => (connection.savepoint name world).givenUp time
  | .rollbackTo name => (connection.rollbackTo name world).givenUp time
  | .invalidate => world

/-- Every call was answered. -/
def Unbroken (calls : List Entry) : Prop :=
  ∀ entry ∈ calls, entry.act ≠ .invalidate ∧ entry.ending ≠ .givenUp

theorem Unbroken.append {earlier later : List Entry} (first : Unbroken earlier)
    (second : Unbroken later) : Unbroken (earlier ++ later) :=
  List.forall_mem_append.mpr ⟨first, second⟩

section

variable (connection : Connection σ) (options : CallOptions) (deadline : Option Tick)

/-- The last entries of a session in which a call was given up for a reason, and the world that is
left. The reason is what ends a call that is started in the world in which this one was. -/
inductive Broken (reason : Interruption) : (final : σ) → (last : List Entry) → Prop where
  /-- The time was over before the call was started. -/
  | unsent {world : σ}
    (due : Interruption.pending? (connection.now world) options.cancelAt deadline = some reason)
    (expired : reason.time ≤ connection.now world) :
    Broken reason (connection.invalidate world) [.invalidation]
  | givenUp {world : σ} {act : Act}
    (due : Interruption.pending? (connection.now world) options.cancelAt deadline = some reason)
    (started : connection.now world < reason.time) :
    Broken reason (connection.invalidate (connection.givenUp act world reason.time))
      [⟨act, .givenUp⟩, .invalidation]

/-- Every call was answered, or the last one was given up and the session failed with the error of
what ended it. -/
inductive Course : Except Error α → (final : σ) → (calls : List Entry) → Prop where
  | whole {outcome : Except Error α} {final : σ} {calls : List Entry}
    (unbroken : Unbroken calls) : Course outcome final calls
  | broken {reason : Interruption} {final : σ} {before last : List Entry}
    (unbroken : Unbroken before) (broken : Broken connection options deadline reason final last) :
    Course (.error (reason.error options)) final (before ++ last)

/-- A recorded session only adds entries, and it stops where a call is given up. -/
def Stops (noted : Session (σ × List Entry) α) : Prop :=
  ∀ state earlier, ∃ outcome final calls,
    noted.perform (state, earlier) = (outcome, final, earlier ++ calls) ∧
      Course connection options deadline outcome final calls

end

variable {connection : Connection σ} {options : CallOptions} {deadline : Option Tick}

/-- What was given up leaves the connection marked. -/
theorem Broken.exists_invalidate {reason : Interruption} {final : σ} {last : List Entry}
    (broken : Broken connection options deadline reason final last) :
    ∃ world, final = connection.invalidate world := by
  cases broken with
  | unsent _ _ => exact ⟨_, rfl⟩
  | givenUp _ _ => exact ⟨_, rfl⟩

/-- Calls that were all answered may come before. -/
theorem Course.prepend {outcome : Except Error α} {final : σ} {earlier calls : List Entry}
    (first : Unbroken earlier) (course : Course connection options deadline outcome final calls) :
    Course connection options deadline outcome final (earlier ++ calls) := by
  cases course with
  | whole unbroken => exact .whole (first.append unbroken)
  | broken unbroken broken =>
    rw [← List.append_assoc]
    exact .broken (first.append unbroken) broken

/-- An error goes the same course whatever the result would have been. -/
theorem Course.ofError {error : Error} {final : σ} {calls : List Entry}
    (course : Course connection options deadline (.error error : Except Error α) final calls) :
    Course connection options deadline (.error error : Except Error β) final calls := by
  cases course with
  | whole unbroken => exact .whole unbroken
  | broken unbroken broken => exact .broken unbroken broken

theorem Course.unbroken_of_ok {result : α} {final : σ} {calls : List Entry}
    (course : Course connection options deadline (.ok result) final calls) : Unbroken calls := by
  cases course with
  | whole unbroken => exact unbroken

theorem Interruption.isAbandonment_error (options : CallOptions) (reason : Interruption) :
    (reason.error options).isAbandonment = true := by
  cases reason <;> rfl

/-! ### Sessions -/

namespace Stops

variable {noted : Session (σ × List Entry) α}

/-- An outcome that needs no calls. -/
theorem ofExcept (outcome : Except Error α) :
    Stops connection options deadline (Session.ofExcept outcome) := by
  intro state earlier
  refine ⟨outcome, state, [], ?_, .whole (List.forall_mem_nil _)⟩
  rw [Session.perform_ofExcept, List.append_nil]

theorem pure (result : α) : Stops connection options deadline (Pure.pure result) :=
  ofExcept (.ok result)

theorem throw (error : Error) :
    Stops (α := α) connection options deadline (MonadExcept.throw error) :=
  ofExcept (.error error)

/-- A part that stops ends the session. -/
theorem bind {next : α → Session (σ × List Entry) β}
    (part : Stops connection options deadline noted)
    (rest : ∀ result, Stops connection options deadline (next result)) :
    Stops connection options deadline (noted >>= next) := by
  intro state earlier
  obtain ⟨outcome, middle, before, same, course⟩ := part state earlier
  cases outcome with
  | error error =>
    exact ⟨.error error, middle, before, Session.perform_bind_error same _, course.ofError⟩
  | ok result =>
    obtain ⟨outcome, final, after, other, further⟩ := rest result middle (earlier ++ before)
    refine ⟨outcome, final, before ++ after, ?_, further.prepend course.unbroken_of_ok⟩
    rw [Session.perform_bind_ok same, other, List.append_assoc]

/-- What follows an attempt may go on after an error of its own, but it has to pass on the error of
a call that was given up. -/
theorem attempt_bind {next : Except Error α → Session (σ × List Entry) β}
    (part : Stops connection options deadline noted)
    (rest : ∀ outcome, Stops connection options deadline (next outcome))
    (passes : ∀ error, error.isAbandonment = true → next (.error error) = MonadExcept.throw error) :
    Stops connection options deadline (noted.attempt >>= next) := by
  intro state earlier
  obtain ⟨outcome, middle, before, same, course⟩ := part state earlier
  have attempted : noted.attempt.perform (state, earlier) =
      (.ok outcome, middle, earlier ++ before) := by
    rw [Session.perform_attempt, same]
  rw [Session.perform_bind_ok attempted]
  cases course with
  | whole unbroken =>
    obtain ⟨final, left, after, other, further⟩ := rest outcome middle (earlier ++ before)
    refine ⟨final, left, before ++ after, ?_, further.prepend unbroken⟩
    rw [other, List.append_assoc]
  | broken unbroken broken =>
    rw [passes _ (Interruption.isAbandonment_error options _)]
    exact ⟨_, middle, _, rfl, .broken unbroken broken⟩

/-- Statements, or whatever else is done in a row. -/
theorem mapM {step : α → Session (σ × List Entry) β} (items : List α)
    (each : ∀ item, Stops connection options deadline (step item)) :
    Stops connection options deadline (items.mapM step) := by
  induction items with
  | nil => exact pure []
  | cons item rest inductionHypothesis =>
    rw [List.mapM_cons]
    exact (each item).bind fun _ => inductionHypothesis.bind fun _ => pure _

/-- A call that may be given up. -/
theorem guarded {act : Act} (ordinary : act ≠ .invalidate) (reply : α → Reply)
    (call : σ → Pending σ α)
    (leaves : ∀ world time, (call world).givenUp time = connection.givenUp act world time) :
    Stops connection options deadline
      (connection.recorded.guarded options deadline (recordedCall act reply call)) := by
  intro state earlier
  have answered : Course connection options deadline (call state).answer (call state).arrived
      [⟨act, .ofAnswer reply (call state).answer⟩] := by
    refine .whole (List.forall_mem_singleton.mpr ⟨ordinary, ?_⟩)
    cases (call state).answer <;> exact Ending.noConfusion
  have clock : connection.recorded.now (state, earlier) = connection.now state := rfl
  have arrival : (recordedCall act reply call (state, earlier)).arrives = (call state).arrives :=
    rfl
  rw [Session.perform_guarded, clock, arrival]
  cases due : Interruption.pending? (connection.now state) options.cancelAt deadline with
  | none => exact ⟨_, _, _, rfl, answered⟩
  | some reason =>
    dsimp only
    split
    · exact ⟨_, _, _, rfl, .broken (List.forall_mem_nil _) (.unsent due ‹_›)⟩
    · rename_i early
      split
      · have broken : Broken connection options deadline reason
            (connection.invalidate (connection.givenUp act state reason.time))
            [⟨act, .givenUp⟩, .invalidation] := .givenUp due (Nat.lt_of_not_le early)
        refine ⟨_, _, _, ?_, .broken (List.forall_mem_nil _) broken⟩
        rw [← leaves]
        exact congrArg (fun calls => (_, _, calls)) (List.append_assoc _ _ _)
      · exact ⟨_, _, _, rfl, answered⟩

end Stops

/-! ### Runs -/

namespace Executor

variable (executor : Executor σ) (deadline : Option Tick)

theorem send_stops (statement : Statement) :
    Stops executor.connection executor.options deadline
      (executor.recorded.send deadline statement) := by
  unfold send
  cases statement.shape with
  | rows => exact (Stops.guarded Act.noConfusion _ _ fun _ _ => rfl).bind fun _ => Stops.pure _
  | rowsAffected =>
    have sent {act : Act} (ordinary : act ≠ .invalidate) (call : σ → Pending σ UInt64)
        (leaves : ∀ world time,
          (call world).givenUp time = executor.connection.givenUp act world time) :
        Stops executor.connection executor.options deadline
          ((executor.connection.recorded.guarded executor.options deadline
            (recordedCall act (fun affected => { affected }) call)) >>= fun affected =>
              Pure.pure ({ affected } : Gain)) :=
      (Stops.guarded ordinary _ call leaves).bind fun _ => Stops.pure _
    cases statement.binds with
    | positional values => exact sent Act.noConfusion _ fun _ _ => rfl
    | named pairs => exact sent Act.noConfusion _ fun _ _ => rfl
    | batch rows => exact sent Act.noConfusion _ fun _ _ => rfl
  | returning outs =>
    exact (Stops.guarded Act.noConfusion _ _ fun _ _ => rfl).bind fun _ => Stops.pure _

theorem runStatement_stops (statement : Statement) :
    Stops executor.connection executor.options deadline
      (executor.recorded.runStatement deadline statement) := by
  refine (executor.send_stops deadline statement).attempt_bind (fun outcome => ?_) ?_
  · cases outcome with
    | ok gain => exact Stops.pure gain
    | error error => exact Stops.throw _
  · intro error abandoned
    exact congrArg MonadExcept.throw (executor.recorded.placed_of_isAbandonment statement abandoned)

theorem enter_stops (held : Bracket) :
    Stops executor.connection executor.options deadline
      (executor.recorded.enter deadline held) := by
  cases held with
  | alone => exact Stops.pure ()
  | transaction => exact Stops.guarded Act.noConfusion _ _ fun _ _ => rfl
  | savepoint => exact Stops.guarded Act.noConfusion _ _ fun _ _ => rfl

theorem leave_stops (held : Bracket) :
    Stops executor.connection executor.options deadline
      (executor.recorded.leave deadline held) := by
  cases held with
  | alone => exact Stops.pure ()
  | transaction => exact Stops.guarded Act.noConfusion _ _ fun _ _ => rfl
  | savepoint => exact Stops.pure ()

theorem takeBack_stops (held : Bracket) :
    Stops executor.connection executor.options deadline (executor.recorded.takeBack held) := by
  have waited {act : Act} (ordinary : act ≠ .invalidate) (call : σ → Pending σ Unit) :
      Stops executor.connection executor.options deadline
        ((Session.await (recordedCall act (fun _ => {}) call)).attempt >>= fun _ =>
          Pure.pure ()) := by
    intro state earlier
    refine ⟨.ok (), _, _, rfl, .whole (List.forall_mem_singleton.mpr ⟨ordinary, ?_⟩)⟩
    cases (call state).answer <;> exact Ending.noConfusion
  cases held with
  | alone => exact Stops.pure ()
  | transaction => exact waited Act.noConfusion _
  | savepoint => exact waited Act.noConfusion _

theorem runHeld_stops (held : Bracket) (plan : Plan) :
    Stops executor.connection executor.options deadline
      (executor.recorded.runHeld deadline held plan) := by
  refine (executor.enter_stops deadline held).bind fun _ => ?_
  have ran : Stops executor.connection executor.options deadline
      (executor.recorded.runStatements deadline plan) :=
    (Stops.mapM plan.statements (executor.runStatement_stops deadline)).bind fun _ =>
      Stops.ofExcept _
  refine ran.attempt_bind (fun outcome => ?_) ?_
  · cases outcome with
    | ok outcome => exact (executor.leave_stops deadline held).bind fun _ => Stops.pure outcome
    | error error =>
      dsimp only
      cases error.isAbandonment with
      | true => exact Stops.throw error
      | false => exact (executor.takeBack_stops deadline held).bind fun _ => Stops.throw error
  · intro error abandoned
    dsimp only
    rw [abandoned]
    rfl

/-- A run stops where a call is given up. -/
theorem course_transcript (plan : Plan) (state : σ) :
    Course executor.connection executor.options (executor.deadlineAt state)
      ((executor.run plan).perform state).1 ((executor.run plan).perform state).2
      (executor.transcript plan state) := by
  by_cases refused : executor.connection.isValid state = false ∨ plan.check ≠ .ok ()
  · rw [executor.transcript_refused refused]
    exact .whole (List.forall_mem_nil _)
  · obtain ⟨valid, accepted⟩ := not_or.mp refused
    have validity : executor.recorded.connection.isValid (state, []) = true :=
      eq_true_of_ne_false valid
    obtain ⟨outcome, final, calls, same, course⟩ := executor.runHeld_stops
      (executor.deadlineAt state) (executor.bracketAt plan state) plan state []
    have noted := executor.run_recorded plan state
    rw [executor.recorded.perform_run_accepted validity (Classical.not_not.mp accepted)] at noted
    have ends := same.symm.trans noted
    rw [Prod.mk.injEq, Prod.mk.injEq] at ends
    obtain ⟨rfl, rfl, rfl⟩ := ends
    exact course

end Executor

end OracleSql
