/-
This file says how far a migration gets. The steps of its plan are run one after the other, and
those that were run, or that had been carried out before, are its progress: always a beginning of
the plan, and the whole of it where the migration comes to a report. An attempt is a migration with
the state it starts in, whatever other sessions did in between.
-/

import OracleSql.Proofs.Migration.Survey

namespace OracleSql

namespace Migrator

variable {σ : Type} {executor : Executor σ} {steps : List MigrationStep} {state after : σ}

/-! ### Steps -/

/-- The steps that are carried out before the first one that fails. -/
def carriedOut (executor : Executor σ) : List MigrationStep → σ → List MigrationStep
  | [], _ => []
  | step :: rest, state =>
    match (runStep executor step).perform state with
    | (.ok _, after) => step :: carriedOut executor rest after
    | (.error _, _) => []

/-- A step that is run, or need not be, is followed by the rest. -/
theorem carriedOut_cons_of_ok {step : MigrationStep} {needed : Bool}
    (ran : (runStep executor step).perform state = (.ok needed, after))
    (rest : List MigrationStep) :
    carriedOut executor (step :: rest) state = step :: carriedOut executor rest after := by
  simp only [carriedOut, ran]

/-- What is carried out is a beginning of the steps. -/
theorem carriedOut_isPrefix (steps : List MigrationStep) (state : σ) :
    carriedOut executor steps state <+: steps := by
  induction steps generalizing state with
  | nil => exact List.prefix_refl []
  | cons step rest inductionHypothesis =>
    simp only [carriedOut]
    split
    · exact List.cons_prefix_cons.mpr ⟨rfl, inductionHypothesis _⟩
    · exact List.nil_prefix

/-- The outcomes of steps that are all carried out are gathered. -/
theorem exists_mapM_of_carriedOut (whole : carriedOut executor steps state = steps) :
    ∃ done after, (steps.mapM fun step : MigrationStep => do
      return (step.sql, ← runStep executor step) : Session σ (List (String × Bool))).perform state =
        (.ok done, after) := by
  induction steps generalizing state with
  | nil => exact ⟨[], state, rfl⟩
  | cons step rest inductionHypothesis =>
    simp only [carriedOut] at whole
    split at whole
    next needed middle alone =>
      obtain ⟨entries, after, later⟩ := inductionHypothesis (List.cons.inj whole).2
      refine ⟨(step.sql, needed) :: entries, after, ?_⟩
      refine Session.perform_mapM_cons_eq_ok.mpr ⟨_, middle, entries, ?_, later, rfl⟩
      exact Session.perform_bind_eq_ok.mpr ⟨needed, middle, alone, rfl⟩
    next => cases whole

/-- Steps come to a report just if all of them are carried out. -/
theorem exists_apply_eq_ok_iff :
    (∃ report after, (apply executor steps).perform state = (.ok report, after)) ↔
      carriedOut executor steps state = steps := by
  constructor
  · rintro ⟨report, _, applied⟩
    obtain ⟨done, after, ran, -⟩ := Session.perform_bind_eq_ok.mp applied
    clear applied
    induction steps generalizing state done with
    | nil => rfl
    | cons step rest inductionHypothesis =>
      obtain ⟨entry, middle, others, first, later, -⟩ := Session.perform_mapM_cons_eq_ok.mp ran
      obtain ⟨needed, _, alone, same⟩ := Session.perform_bind_eq_ok.mp first
      obtain ⟨-, rfl⟩ := Session.perform_pure_eq_ok.mp same
      rw [carriedOut_cons_of_ok alone, inductionHypothesis others later]
  · intro whole
    obtain ⟨done, after, ran⟩ := exists_mapM_of_carriedOut whole
    exact ⟨_, after, Session.perform_bind_eq_ok.mpr ⟨done, after, ran, rfl⟩⟩

/-! ### Attempts -/

/-- A migration of some tables that starts in a state. -/
structure Attempt (σ : Type) where
  executor : Executor σ
  tables : List Table
  state : σ

namespace Attempt

variable {attempt : Attempt σ}

/-- What the attempt comes to, and the state it leaves. -/
def outcome (attempt : Attempt σ) : Except Error MigrationReport × σ :=
  (migrate attempt.executor attempt.tables).perform attempt.state

/-- The definitions that the attempt carries out, or finds to be carried out already. -/
def achieved (attempt : Attempt σ) : List Definition :=
  match (plan attempt.executor attempt.tables).perform attempt.state with
  | (.ok plan, after) =>
    (carriedOut attempt.executor plan.steps after).map MigrationStep.definition
  | (.error _, _) => []

/-- An attempt achieves what it carries out of its plan. -/
theorem achieved_of_plan {plan : MigrationPlan}
    (planned : (Migrator.plan attempt.executor attempt.tables).perform attempt.state =
      (.ok plan, after)) :
    attempt.achieved =
      (carriedOut attempt.executor plan.steps after).map MigrationStep.definition := by
  unfold achieved
  rw [planned]

/-- An attempt achieves a beginning of its plan, or nothing if it makes none. -/
theorem achieved_isPrefix (attempt : Attempt σ) :
    attempt.achieved = [] ∨ ∃ plan middle,
      (Migrator.plan attempt.executor attempt.tables).perform attempt.state = (.ok plan, middle) ∧
        attempt.achieved <+: plan.steps.map MigrationStep.definition := by
  unfold achieved
  split
  next plan middle planned =>
    exact .inr ⟨plan, middle, planned, (carriedOut_isPrefix plan.steps middle).map _⟩
  next => exact .inl rfl

/-- An attempt that comes to a report achieves all of its plan. -/
theorem achieved_of_ok {report : MigrationReport}
    (succeeds : attempt.outcome = (.ok report, after)) :
    ∃ plan middle,
      (Migrator.plan attempt.executor attempt.tables).perform attempt.state = (.ok plan, middle) ∧
        attempt.achieved = plan.steps.map MigrationStep.definition ∧
        report.skipped = plan.skipped := by
  obtain ⟨plan, middle, planned, applied⟩ := Session.perform_bind_eq_ok.mp succeeds
  obtain ⟨steps, _, ran, ends⟩ := Session.perform_bind_eq_ok.mp applied
  obtain ⟨rfl, rfl⟩ := Session.perform_pure_eq_ok.mp ends
  refine ⟨plan, middle, planned, ?_, rfl⟩
  rw [achieved_of_plan planned, exists_apply_eq_ok_iff.mp ⟨steps, _, ran⟩]

end Attempt

end Migrator

end OracleSql
