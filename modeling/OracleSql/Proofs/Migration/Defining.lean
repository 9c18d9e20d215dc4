/-
This file says what comes of a single definition. Its text is sent in one call, unless the
connection may not be used; what the call is answered with settles the step or ends the migration,
and the database is left as the call leaves it. So a definition that is reported was answered with
success, or with an error that says that it was carried out already.
-/

import OracleSql.Proofs.Migration.Applying

namespace OracleSql

variable {σ : Type}

/-- A call that may be given up comes to its answer, or to the error of what interrupted it. -/
theorem Connection.perform_guarded_cases {α : Type} (connection : Connection σ)
    (options : CallOptions) (deadline : Option Tick) (call : σ → Pending σ α) (state : σ) :
    (connection.guarded options deadline call).perform state =
        ((call state).answer, (call state).arrived) ∨
      ∃ interruption : Interruption,
        ((connection.guarded options deadline call).perform state).1 =
          .error (interruption.error options) := by
  rw [Session.perform_guarded]
  cases Interruption.pending? (connection.now state) options.cancelAt deadline with
  | none => exact .inl rfl
  | some interruption =>
    dsimp only
    split
    · exact .inr ⟨interruption, rfl⟩
    · split
      · exact .inr ⟨interruption, rfl⟩
      · exact .inl rfl

/-- A definition has one step. -/
theorem Dialect.steps_singleton (dialect : Dialect) (definition : Definition) :
    dialect.steps [definition] = (definition.sql dialect).map fun sql => [⟨definition, sql⟩] := by
  rw [steps, List.mapM_cons, List.mapM_nil, step]
  cases definition.sql dialect <;> rfl

namespace Executor

variable (executor : Executor σ)

/-- A statement without values that changes rows comes to what its call is answered with. -/
theorem perform_execute {statement : Statement} {state : σ}
    (shape : statement.shape = .rowsAffected) (unbound : statement.binds = .none)
    (valid : executor.connection.isValid state = true) (accepted : statement.check = .ok ()) :
    (executor.execute statement).perform state =
      let (answer, after) := (executor.connection.guarded executor.options
        (executor.deadlineAt state) (executor.connection.execute statement.sql .none)).perform state
      (answer.mapError (executor.placed statement), after) := by
  rcases came : (executor.connection.guarded executor.options (executor.deadlineAt state)
    (executor.connection.execute statement.sql .none)).perform state with ⟨answer, after⟩
  have sent : (executor.send (executor.deadlineAt state) statement).perform state =
      (answer.map fun affected => { affected }, after) := by
    unfold send
    rw [shape, unbound]
    cases answer with
    | ok affected => exact Session.perform_bind_ok came _
    | error error => exact Session.perform_bind_error came _
  unfold execute
  rw [Session.perform_bind, executor.perform_run_single valid accepted, sent]
  cases answer with
  | error error => rfl
  | ok affected =>
    simp [Except.map, Except.mapError, Plan.outcome, bind, Except.bind, Plan.single,
      Session.perform_pure]

end Executor

namespace Migrator

variable (executor : Executor σ)

/-- A step comes to what its call settles, and the database is left as the call leaves it. -/
theorem perform_runStep (step : MigrationStep) {state : σ}
    (valid : executor.connection.isValid state = true) :
    (runStep executor step).perform state =
      let (answer, after) := (executor.connection.guarded executor.options
        (executor.deadlineAt state) (executor.connection.execute step.sql .none)).perform state
      (verdict step (answer.mapError (executor.placed step.statement)), after) := by
  rw [runStep_eq, Session.perform_bind, Session.perform_attempt,
    executor.perform_execute rfl rfl valid rfl]
  rfl

/-- A step is settled by success, or by an error that its kind tolerates. -/
theorem settles_of_verdict {step : MigrationStep} {outcome : Except Error UInt64} {needed : Bool}
    (settled : verdict step outcome = .ok needed) :
    (∃ count, outcome = .ok count ∧ needed = true) ∨
      ∃ error, outcome = .error error ∧ tolerates step.definition.kind error = true ∧
        needed = false := by
  cases outcome with
  | ok count => exact .inl ⟨count, rfl, (Except.ok.inj settled).symm⟩
  | error error =>
    unfold verdict at settled
    dsimp only at settled
    split at settled
    next tolerated => exact .inr ⟨error, rfl, tolerated, (Except.ok.inj settled).symm⟩
    next => split at settled <;> cases settled

/-- An interrupted call settles no step. -/
theorem verdict_interruption (step : MigrationStep) (options : CallOptions)
    (interruption : Interruption) (needed : Bool) :
    verdict step (.error (executor.placed step.statement (interruption.error options))) ≠
      .ok needed := by
  intro settled
  rcases settles_of_verdict settled with ⟨_, impossible, _⟩ | ⟨error, same, tolerated, _⟩
  · cases impossible
  · obtain rfl := Except.error.inj same
    obtain ⟨code, -, number⟩ := tolerates_iff.mp tolerated
    rw [executor.nativeCode?_placed] at number
    cases interruption <;> cases number

theorem perform_runStep_unusable (step : MigrationStep) {state : σ}
    (unusable : executor.connection.isValid state = false) :
    (runStep executor step).perform state = (.error (.pool .unusable), state) := by
  have refused : (executor.execute step.statement).perform state =
      (.error (.pool .unusable), state) := by
    unfold Executor.execute
    rw [Session.perform_bind, executor.perform_run, if_neg (by simp [unusable])]
  rw [runStep_eq, Session.perform_bind, Session.perform_attempt, refused]
  cases kind : step.definition.kind <;>
    simp [Session.perform_ofExcept, verdict, tolerates, kind, isOfSession, Error.isPresentOnCreate,
      Error.isAbsentOnDrop, Error.nativeCode?]

/-- A step that is settled was sent, and its call was answered with success, or with an error that
its kind tolerates. -/
theorem runStep_settled {step : MigrationStep} {state after : σ} {needed : Bool}
    (ran : (runStep executor step).perform state = (.ok needed, after)) :
    let call := executor.connection.execute step.sql .none state
    after = call.arrived ∧
      ((∃ count, call.answer = .ok count ∧ needed = true) ∨
        ∃ error, call.answer = .error error ∧
          (∃ code ∈ step.definition.kind.settledCodes, error.nativeCode? = some code) ∧
          needed = false) := by
  intro call
  cases valid : executor.connection.isValid state with
  | false =>
    rw [perform_runStep_unusable executor step valid] at ran
    cases ran
  | true =>
    rw [perform_runStep executor step valid] at ran
    have cases := executor.connection.perform_guarded_cases executor.options
      (executor.deadlineAt state) (executor.connection.execute step.sql .none) state
    generalize (executor.connection.guarded executor.options (executor.deadlineAt state)
      (executor.connection.execute step.sql .none)).perform state = came at ran cases
    obtain ⟨settled, left⟩ := Prod.mk.inj ran
    rcases cases with rfl | ⟨interruption, given⟩
    · refine ⟨left.symm, ?_⟩
      rcases settles_of_verdict settled with
        ⟨count, done, spare⟩ | ⟨error, failed, tolerated, spare⟩
      · exact .inl ⟨count, mapError_eq_ok.mp done, spare⟩
      · obtain ⟨inner, answer, rfl⟩ := mapError_eq_error.mp failed
        rw [tolerates_iff, executor.nativeCode?_placed] at tolerated
        exact .inr ⟨inner, answer, tolerated, spare⟩
    · rw [given] at settled
      exact absurd settled (verdict_interruption executor step executor.options interruption needed)

/-- The step of a single definition is run if it can be written. -/
theorem perform_define (definition : Definition) (state : σ) :
    (define executor [definition]).perform state =
      match definition.sql executor.dialect with
      | .error error => (.error error, state)
      | .ok sql =>
        let (outcome, after) := (runStep executor ⟨definition, sql⟩).perform state
        (outcome.map fun needed =>
          if needed then { executed := [sql] } else { tolerated := [sql] }, after) := by
  unfold define
  rw [Session.perform_bind, Session.perform_ofExcept, Dialect.steps_singleton]
  cases definition.sql executor.dialect with
  | error error => rfl
  | ok sql =>
    rcases came : (runStep executor ⟨definition, sql⟩).perform state with ⟨outcome, after⟩
    have single : (do return (sql, ← runStep executor ⟨definition, sql⟩) :
        Session σ (String × Bool)).perform state = (outcome.map (sql, ·), after) := by
      rw [Session.perform_bind, came]
      cases outcome <;> rfl
    show (apply executor [⟨definition, sql⟩]).perform state = _
    unfold apply
    rw [List.mapM_cons, List.mapM_nil, Session.perform_bind, Session.perform_bind, single]
    dsimp only
    rw [came]
    cases outcome with
    | error error => rfl
    | ok needed => cases needed <;> rfl

/-- A report of a single definition says how its step was settled. -/
theorem define_reported {definition : Definition} {state after : σ} {report : MigrationReport}
    (ran : (define executor [definition]).perform state = (.ok report, after)) :
    ∃ sql needed, definition.sql executor.dialect = .ok sql ∧
      (runStep executor ⟨definition, sql⟩).perform state = (.ok needed, after) ∧
      report = if needed then { executed := [sql] } else { tolerated := [sql] } := by
  rw [perform_define] at ran
  split at ran
  next => cases ran
  next sql made =>
    rcases came : (runStep executor ⟨definition, sql⟩).perform state with ⟨outcome, left⟩
    rw [came] at ran
    obtain ⟨settled, rfl⟩ := Prod.mk.inj ran
    obtain ⟨needed, rfl, same⟩ := map_eq_ok.mp settled
    exact ⟨sql, needed, made, came, same.symm⟩

end Migrator

end OracleSql
