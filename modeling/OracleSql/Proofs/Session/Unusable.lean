/-
This file shows that a connection on which a call was given up is not used again. The run in which
this happens ends there, and it leaves the connection marked. Every later run first asks whether the
connection may be used, so it fails with the error of the pool before it makes a call. What is built
on runs fails with them: a migrator sends neither a question to the dictionary nor a step.

`Idles` says of a session that it makes no calls on a connection that may not be used, and what it
comes to there. It is put together along a session as its parts are, and since the world stays as it
is, it holds for any number of sessions in a row.
-/

import Mathlib.Data.List.Basic
import OracleSql.Migration.Migrator
import OracleSql.Proofs.Session.Abandonment

namespace OracleSql

variable {σ α β : Type}

/-- The connection tells that it was marked as one that may not be used again. -/
def Connection.ReportsInvalidation (connection : Connection σ) : Prop :=
  ∀ world, connection.isValid (connection.invalidate world) = false

namespace Interruption

/-- The outcome tells what ended the call: the cancellation, or the time limit, which it names. -/
def Explains (options : CallOptions) (outcome : Except Error α) : Interruption → Prop
  | cancelled _ => outcome = .error .cancelled
  | expired _ => ∃ limit, options.timeout = some limit ∧ outcome = .error (.timeout limit)

/-- Only a deadline expires. -/
theorem exists_deadline {now time : Tick} {cancelAt deadline : Option Tick}
    (due : pending? now cancelAt deadline = some (.expired time)) :
    ∃ limit, deadline = some limit := by
  cases deadline with
  | none => cases cancelAt <;> cases due
  | some limit => exact ⟨limit, rfl⟩

end Interruption

/-! ### Sessions that make no calls -/

/-- Where the connection may not be used, the session leaves the world and the record of calls as
they are, and comes to an outcome of this kind. -/
def Idles (connection : Connection σ) (noted : Session (σ × List Entry) α)
    (kind : Except Error α → Prop) : Prop :=
  ∀ world calls, connection.isValid world = false →
    ∃ outcome, noted.perform (world, calls) = (outcome, world, calls) ∧ kind outcome

/-- An outcome without a result. -/
def Fails (outcome : Except Error α) : Prop :=
  ∃ error, outcome = .error error

/-- The outcome of a run that is refused. -/
def IsRefusal (outcome : Except Error α) : Prop :=
  outcome = .error (.pool .unusable)

theorem IsRefusal.fails {outcome : Except Error α} (refused : IsRefusal outcome) : Fails outcome :=
  ⟨_, refused⟩

theorem not_fails_ok (result : α) : ¬ Fails (.ok result) := by
  rintro ⟨_, impossible⟩
  cases impossible

namespace Idles

variable {connection : Connection σ} {noted : Session (σ × List Entry) α}
  {kind further : Except Error α → Prop}

theorem mono (idles : Idles connection noted kind)
    (implies : ∀ outcome, kind outcome → further outcome) : Idles connection noted further := by
  intro world calls invalid
  obtain ⟨outcome, same, holds⟩ := idles world calls invalid
  exact ⟨outcome, same, implies outcome holds⟩

theorem ofExcept {outcome : Except Error α} (holds : kind outcome) :
    Idles connection (Session.ofExcept outcome) kind :=
  fun _ _ _ => ⟨outcome, rfl, holds⟩

/-- A part that makes no calls leaves the rest where it was. -/
theorem bind {next : α → Session (σ × List Entry) β} {result : Except Error β → Prop}
    (part : Idles connection noted kind)
    (stops : ∀ error, kind (.error error) → result (.error error))
    (goes : ∀ first, kind (.ok first) → Idles connection (next first) result) :
    Idles connection (noted >>= next) result := by
  intro world calls invalid
  obtain ⟨outcome, same, holds⟩ := part world calls invalid
  cases outcome with
  | error error => exact ⟨_, Session.perform_bind_error same _, stops error holds⟩
  | ok first =>
    rw [Session.perform_bind_ok same]
    exact goes first holds world calls invalid

/-- A part that fails ends the session. -/
theorem bind_fails {next : α → Session (σ × List Entry) β}
    (part : Idles connection noted Fails) : Idles connection (noted >>= next) Fails :=
  part.bind (fun error _ => ⟨error, rfl⟩) fun first impossible =>
    absurd impossible (not_fails_ok first)

/-- A part that is refused ends the session. -/
theorem bind_refused {next : α → Session (σ × List Entry) β}
    (part : Idles connection noted IsRefusal) : Idles connection (noted >>= next) IsRefusal :=
  part.bind (fun _ refused => congrArg Except.error (Except.error.inj refused))
    fun _ impossible => nomatch impossible

/-- What is computed without calls comes before what fails. -/
theorem ofExcept_bind (outcome : Except Error α) {next : α → Session (σ × List Entry) β}
    (rest : ∀ result, Idles connection (next result) Fails) :
    Idles connection (Session.ofExcept outcome >>= next) Fails := by
  have computed : Idles connection (Session.ofExcept outcome) fun _ => True := ofExcept trivial
  exact computed.bind (fun error _ => ⟨error, rfl⟩) fun result _ => rest result

/-- An attempt makes no calls either, and its outcome is a result. -/
theorem attempt (idles : Idles connection noted kind) :
    Idles connection noted.attempt fun outcome =>
      ∃ attempted, outcome = .ok attempted ∧ kind attempted := by
  intro world calls invalid
  obtain ⟨outcome, same, holds⟩ := idles world calls invalid
  refine ⟨.ok outcome, ?_, outcome, rfl, holds⟩
  rw [Session.perform_attempt, same]

end Idles

/-! ### Runs -/

namespace Executor

variable (executor : Executor σ)

/-- A run on a connection that may not be used makes no calls. -/
theorem run_idles (plan : Plan) :
    Idles executor.connection (executor.recorded.run plan) IsRefusal := by
  intro world calls invalid
  have validity : executor.recorded.connection.isValid (world, calls) = false := invalid
  refine ⟨_, ?_, rfl⟩
  rw [executor.recorded.perform_run, validity]
  rfl

theorem query_idles (statement : Statement) :
    Idles executor.connection (executor.recorded.query statement) IsRefusal :=
  (executor.run_idles _).bind_refused

theorem queryOne_idles (statement : Statement) :
    Idles executor.connection (executor.recorded.queryOne statement) IsRefusal :=
  (executor.query_idles statement).bind_refused

theorem execute_idles (statement : Statement) :
    Idles executor.connection (executor.recorded.execute statement) IsRefusal :=
  (executor.run_idles _).bind_refused

/-- However many runs follow, each of them is refused. -/
theorem runs_idle (connection : Connection σ) (jobs : List (Dialect × CallOptions × Plan)) :
    Idles connection
      (jobs.mapM fun (dialect, options, plan) =>
        (({ dialect, connection, options } : Executor σ).recorded.run plan).attempt)
      (· = .ok (jobs.map fun _ => .error (.pool .unusable))) := by
  induction jobs with
  | nil => exact Idles.ofExcept rfl
  | cons job rest inductionHypothesis =>
    obtain ⟨dialect, options, plan⟩ := job
    rw [List.mapM_cons]
    let executor : Executor σ := { dialect, connection, options }
    refine (executor.run_idles plan).attempt.bind ?_ ?_
    · rintro error ⟨_, impossible, _⟩
      cases impossible
    · rintro _ ⟨_, same, refused⟩
      cases same
      cases refused
      refine inductionHypothesis.bind ?_ ?_
      · intro error impossible
        cases impossible
      · intro outcomes same
        cases same
        exact Idles.ofExcept rfl

end Executor

/-! ### Migrations -/

namespace Dictionary

variable (executor : Executor σ)

theorem tableRows_idles (table : StoredTable) (view columns order : String) :
    Idles executor.connection (tableRows executor.recorded table view columns order) Fails :=
  Idles.ofExcept_bind _ fun _ => (executor.query_idles _).mono fun _ => IsRefusal.fails

theorem liveTable_idles (table : StoredTable) (withComments : Bool) :
    Idles executor.connection (liveTable executor.recorded table withComments) Fails :=
  Idles.bind_fails (Idles.bind_fails (tableRows_idles executor _ _ _ _))

end Dictionary

namespace Migrator

variable (executor : Executor σ)

/-- The error of the pool is passed on, and is not taken for one of the step. -/
theorem runStep_idles (step : MigrationStep) :
    Idles executor.connection (runStep executor.recorded step) IsRefusal := by
  refine (executor.execute_idles _).attempt.bind ?_ ?_
  · rintro error ⟨_, impossible, _⟩
    cases impossible
  · rintro _ ⟨_, same, refused⟩
    cases same
    cases refused
    have untolerated : tolerates step.definition.kind (.pool .unusable) = false := by
      cases step.definition.kind <;> rfl
    dsimp only
    rw [untolerated]
    exact Idles.ofExcept rfl

theorem apply_idles (step : MigrationStep) (rest : List MigrationStep) :
    Idles executor.connection (apply executor.recorded (step :: rest)) IsRefusal := by
  unfold apply
  rw [List.mapM_cons]
  exact Idles.bind_refused (Idles.bind_refused (runStep_idles executor step).bind_refused)

theorem plan_idles (table : Table) (rest : List Table) :
    Idles executor.connection (plan executor.recorded (table :: rest)) Fails := by
  refine Idles.ofExcept_bind _ fun _ => ?_
  rw [List.mapM_cons]
  refine Idles.bind_fails (Idles.bind_fails (Idles.ofExcept_bind _ fun stored => ?_))
  exact Idles.bind_fails (Dictionary.liveTable_idles executor stored _)

theorem migrate_idles (table : Table) (rest : List Table) :
    Idles executor.connection (migrate executor.recorded (table :: rest)) Fails :=
  Idles.bind_fails (plan_idles executor table rest)

/-- What a migrator comes to in a world where it sends nothing: its questions and its steps fail
with the error of the pool, and what is made of them fails too. -/
structure SendsNothing (executor : Executor σ) (world : σ) (calls : List Entry) : Prop where
  question : ∀ statement, (executor.recorded.query statement).perform (world, calls) =
    (.error (.pool .unusable), world, calls)
  questionOne : ∀ statement, (executor.recorded.queryOne statement).perform (world, calls) =
    (.error (.pool .unusable), world, calls)
  step : ∀ step, (runStep executor.recorded step).perform (world, calls) =
    (.error (.pool .unusable), world, calls)
  apply : ∀ step rest, (apply executor.recorded (step :: rest)).perform (world, calls) =
    (.error (.pool .unusable), world, calls)
  rows : ∀ table view columns order, ∃ error,
    (Dictionary.tableRows executor.recorded table view columns order).perform (world, calls) =
      (.error error, world, calls)
  plan : ∀ table rest, ∃ error, (plan executor.recorded (table :: rest)).perform (world, calls) =
    (.error error, world, calls)
  migrate : ∀ table rest, ∃ error,
    (migrate executor.recorded (table :: rest)).perform (world, calls) =
      (.error error, world, calls)

theorem sendsNothing_of_invalid {world : σ} (invalid : executor.connection.isValid world = false)
    (calls : List Entry) : SendsNothing executor world calls := by
  have refused {α : Type} {noted : Session (σ × List Entry) α}
      (idles : Idles executor.connection noted IsRefusal) :
      noted.perform (world, calls) = (.error (.pool .unusable), world, calls) := by
    obtain ⟨_, same, rfl⟩ := idles world calls invalid
    exact same
  have failed {α : Type} {noted : Session (σ × List Entry) α}
      (idles : Idles executor.connection noted Fails) :
      ∃ error, noted.perform (world, calls) = (.error error, world, calls) := by
    obtain ⟨_, same, error, rfl⟩ := idles world calls invalid
    exact ⟨error, same⟩
  exact
    { question := fun statement => refused (executor.query_idles statement)
      questionOne := fun statement => refused (executor.queryOne_idles statement)
      step := fun step => refused (runStep_idles executor step)
      apply := fun step rest => refused (apply_idles executor step rest)
      rows := fun table view columns order =>
        failed (Dictionary.tableRows_idles executor table view columns order)
      plan := fun table rest => failed (plan_idles executor table rest)
      migrate := fun table rest => failed (migrate_idles executor table rest) }

end Migrator

/-! ### After a call was given up -/

namespace Executor

/-- Where a call of a run was given up, it is the last one, the run fails with the error of what
ended it, and the connection may not be used after it. However many runs of any plans follow on this
connection, with any settings and time limits, they are all refused and make no calls, and a
migrator sends nothing on it. -/
theorem abandoned_run_unusable (executor : Executor σ)
    (reports : executor.connection.ReportsInvalidation) (plan : Plan) (state : σ)
    (abandoned : ¬ Unbroken (executor.transcript plan state)) :
    let outcome := ((executor.run plan).perform state).1
    let final := ((executor.run plan).perform state).2
    (∃ reason before last, executor.transcript plan state = before ++ last ∧ Unbroken before ∧
      Broken executor.connection executor.options (executor.deadlineAt state) reason final last ∧
      reason.Explains executor.options outcome) ∧
    executor.connection.isValid final = false ∧
    ∀ calls,
      (∀ jobs : List (Dialect × CallOptions × Plan),
        (jobs.mapM fun (dialect, options, plan) => (({ executor with dialect, options } :
          Executor σ).recorded.run plan).attempt).perform (final, calls) =
          (.ok (jobs.map fun _ => .error (.pool .unusable)), final, calls)) ∧
      ∀ dialect options,
        Migrator.SendsNothing { executor with dialect, options } final calls := by
  intro outcome final
  have course : Course executor.connection executor.options (executor.deadlineAt state) outcome
    final (executor.transcript plan state) := executor.course_transcript plan state
  generalize outcome = ended, final = left, executor.transcript plan state = entries
    at course abandoned ⊢
  cases course with
  | whole unbroken => exact absurd unbroken abandoned
  | @broken reason _ before last unbroken broken =>
    have invalid : executor.connection.isValid left = false := by
      obtain ⟨world, rfl⟩ := broken.exists_invalidate
      exact reports world
    have explains : reason.Explains (α := Outcome) executor.options
        (.error (reason.error executor.options)) := by
      have due : ∃ now, Interruption.pending? now executor.options.cancelAt
          (executor.deadlineAt state) = some reason := by
        cases broken with
        | unsent due _ => exact ⟨_, due⟩
        | givenUp due _ => exact ⟨_, due⟩
      obtain ⟨now, due⟩ := due
      cases reason with
      | cancelled time => rfl
      | expired time =>
        obtain ⟨_, set⟩ := Interruption.exists_deadline due
        obtain ⟨limit, given, _⟩ := Option.map_eq_some_iff.mp set
        refine ⟨limit, given, ?_⟩
        rw [Interruption.error, given]
        rfl
    refine ⟨⟨reason, before, last, rfl, unbroken, broken, explains⟩, invalid, fun calls =>
      ⟨fun jobs => ?_, fun dialect options => ?_⟩⟩
    · obtain ⟨_, same, rfl⟩ := runs_idle executor.connection jobs left calls invalid
      exact same
    · exact Migrator.sendsNothing_of_invalid { executor with dialect, options } invalid calls

/-- A world with a clock and a connection. -/
structure Watch where
  now : Tick := 0
  isValid : Bool := true
  deriving DecidableEq

/-- A call that succeeds after ten nanoseconds. -/
def Watch.call {α : Type} (answer : α) (watch : Watch) : Pending Watch α where
  arrives := watch.now + 10
  answer := .ok answer
  arrived := { watch with now := watch.now + 10 }
  givenUp time := { watch with now := time }

/-- A connection whose calls all take so long. -/
def Watch.connection : Connection Watch where
  now := now
  query _ _ := call []
  execute _ _ := call 1
  executeBatch _ rows := call (.ofNat rows.length)
  executeReturning _ _ _ := call []
  begin := call ()
  commit := call ()
  rollback := call ()
  inTransaction _ := false
  invalidate watch := { watch with isValid := false }
  isValid := isValid

/-- The second call of an atomic plan is given up after fifteen nanoseconds: nothing is taken back,
and neither a plan nor a migration is sent after it. -/
theorem abandoned_run_unusable_second_call :
    let executor : Executor Watch :=
      { dialect := {}, connection := Watch.connection, options := { timeout := some ⟨15⟩ } }
    let removal : Statement := { sql := "DELETE FROM A" }
    let plan : Plan := { statements := [removal, removal], atomic := true }
    let transcript := [⟨.begin, .succeeded {}⟩, ⟨.execute "DELETE FROM A" .none, .givenUp⟩,
      .invalidation]
    let jobs : List (Dialect × CallOptions × Plan) := [({}, {}, plan), ({}, {}, .single removal)]
    executor.connection.ReportsInvalidation ∧ executor.transcript plan {} = transcript ∧
      (executor.run plan).perform {} = (.error (.timeout ⟨15⟩), { now := 15, isValid := false }) ∧
      (jobs.mapM fun (dialect, options, plan) => (({ executor with dialect, options } :
          Executor Watch).recorded.run plan).attempt).perform
          ({ now := 15, isValid := false }, transcript) =
        (.ok [.error (.pool .unusable), .error (.pool .unusable)],
          { now := 15, isValid := false }, transcript) ∧
      Migrator.SendsNothing { executor with options := {} } { now := 15, isValid := false }
        transcript := by
  intro executor removal plan transcript jobs
  have reports : executor.connection.ReportsInvalidation := fun _ => rfl
  obtain ⟨recorded, ended⟩ : executor.transcript plan {} = transcript ∧
      (executor.run plan).perform {} =
        (.error (.timeout ⟨15⟩), { now := 15, isValid := false }) := by
    decide +kernel
  have abandoned : ¬ Unbroken (executor.transcript plan {}) := by
    rw [recorded]
    intro unbroken
    exact (unbroken .invalidation (by decide)).1 rfl
  obtain ⟨_, _, later⟩ := abandoned_run_unusable executor reports plan {} abandoned
  rw [ended] at later
  obtain ⟨runs, migrations⟩ := later transcript
  exact ⟨reports, recorded, ended, runs jobs, migrations {} {}⟩

end Executor

end OracleSql
