/-
This file says what a migration sends. It first asks the dictionary; if no plan comes of that,
nothing else is sent. Else the steps of the plan are sent in order, each in one call of its own, up
to the first one that fails with an error that does not say that it was carried out already. A
report tells the steps that were carried out from those that had been; an error is the one of the
session, or names the step at which it arose. Whether native errors are classified makes no
difference to any of this.

`Applied` is the story of steps in a row, told by `Tells` as those of a run are. That the same is
sent with classified errors is shown by `InStep`: a step looks at the number of an error and at
whether it comes from the session, and both stay when it is classified.
-/

import OracleSql.Proofs.Migration.Inquiry
import OracleSql.Proofs.Session.Classified

namespace OracleSql

variable {σ α β : Type}

/-! ### Steps -/

/-- The numbers of the errors that say that a definition of the kind was carried out already. -/
def DefinitionKind.settledCodes : DefinitionKind → List Int
  | create => presentOnCreateCodes
  | alter => presentOnCreateCodes
  | drop => absentOnDropCodes

theorem Migrator.tolerates_iff {kind : DefinitionKind} {error : Error} :
    tolerates kind error = true ↔ ∃ code ∈ kind.settledCodes, error.nativeCode? = some code := by
  have listed (codes : List Int) : error.nativeCode?.any codes.contains = true ↔
      ∃ code ∈ codes, error.nativeCode? = some code := by
    rw [Option.any_eq_true]
    simp only [List.contains_iff_mem, and_comm]
  cases kind <;> exact listed _

namespace MigrationStep

/-- The statement of a step. -/
def statement (step : MigrationStep) : Statement :=
  { Statement.definition step.sql with table := some step.definition.table }

/-- The call that sends a step. -/
def act (step : MigrationStep) : Act :=
  .execute step.sql .none

/-- The step is in effect: it was carried out, or failed because it had been. -/
def Settled (step : MigrationStep) : Ending → Prop
  | .succeeded _ => True
  | .failed error => ∃ code ∈ step.definition.kind.settledCodes, error.nativeCode? = some code
  | .givenUp => False

/-- The error of a migration that stops at the step, where its call failed with an error: one of the
session is passed on, any other one names the step and its table. -/
def errorOf (step : MigrationStep) (executor : Executor σ) (error : Error) : Error :=
  if Migrator.isOfSession error then error
  else .migration (step.sql ++ ": " ++ (executor.placed step.statement error).message)
    (.on "migrate" step.definition.table)

/-- The ways in which a step ends a migration, with the error that comes of it and the calls that
were made for it. -/
inductive Stops (step : MigrationStep) (executor : Executor σ) : Error → List Entry → Prop where
  | failed {error : Error} (unsettled : ¬ step.Settled (.failed error)) :
    Stops step executor (step.errorOf executor error) [⟨step.act, .failed error⟩]
  /-- The time was over while the call was under way. -/
  | givenUp {deadline : Option Tick} {error : Error}
    (given : executor.options.GivesUp deadline error) :
    Stops step executor error [⟨step.act, .givenUp⟩, .invalidation]
  /-- The time was over before. -/
  | unsent {deadline : Option Tick} {error : Error}
    (given : executor.options.GivesUp deadline error) : Stops step executor error [.invalidation]
  /-- The connection may not be used. -/
  | unusable : Stops step executor (.pool .unusable) []

end MigrationStep

/-- A step with what became of its call. -/
abbrev SentStep := MigrationStep × Ending

namespace SentStep

/-- The call of the step. -/
def entry (sent : SentStep) : Entry :=
  ⟨sent.1.act, sent.2⟩

/-- What is noted of a step that is in effect: whether it was carried out just now. -/
def mark (sent : SentStep) : String × Bool :=
  (sent.1.sql, sent.entry.isSuccess)

/-- What steps that are in effect are reported as: those whose calls succeeded, and the others. -/
def report (sent : List SentStep) : MigrationReport where
  executed := (sent.filter fun step => step.entry.isSuccess).map (·.1.sql)
  tolerated := (sent.filter fun step => !step.entry.isSuccess).map (·.1.sql)

end SentStep

/-- What becomes of steps that are sent one after the other, each only if those before it are in
effect, and what comes of it in the end. -/
inductive Applied (executor : Executor σ) (steps : List MigrationStep)
    (result : List SentStep → α) : Except Error α → List Entry → Prop where
  | finished (sent : List SentStep) (all : sent.map Prod.fst = steps)
    (settled : ∀ step ∈ sent, step.1.Settled step.2) :
    Applied executor steps result (.ok (result sent)) (sent.map SentStep.entry)
  | stopped (sent : List SentStep) {step : MigrationStep} {rest : List MigrationStep}
    {error : Error} {last : List Entry} (first : steps = sent.map Prod.fst ++ step :: rest)
    (settled : ∀ step ∈ sent, step.1.Settled step.2) (stops : step.Stops executor error last) :
    Applied executor steps result (.error error) (sent.map SentStep.entry ++ last)

namespace Applied

variable {executor : Executor σ} {steps : List MigrationStep} {result : List SentStep → α}
  {outcome : Except Error α} {calls : List Entry}

theorem map (applied : Applied executor steps result outcome calls) (change : α → β) :
    Applied executor steps (fun sent => change (result sent)) (outcome.map change) calls := by
  cases applied with
  | finished sent all settled => exact .finished sent all settled
  | stopped sent first settled stops => exact .stopped sent first settled stops

/-- A step that is in effect comes before the others. -/
theorem cons (sent : SentStep) (settled : sent.1.Settled sent.2) {further : List SentStep → β}
    {add : α → β} (adds : ∀ others, further (sent :: others) = add (result others))
    (applied : Applied executor steps result outcome calls) :
    Applied executor (sent.1 :: steps) further (outcome.map add) (sent.entry :: calls) := by
  cases applied with
  | finished others all each =>
    have whole : Applied executor (sent.1 :: steps) further (.ok (further (sent :: others)))
        ((sent :: others).map SentStep.entry) :=
      .finished (sent :: others) (congrArg _ all) (List.forall_mem_cons.mpr ⟨settled, each⟩)
    rw [adds] at whole
    exact whole
  | stopped others first each stops =>
    exact .stopped (sent :: others) (congrArg _ first)
      (List.forall_mem_cons.mpr ⟨settled, each⟩) stops

end Applied

/-! ### The story of a migration -/

namespace Executor

variable (executor : Executor σ) (statement : Statement)

/-- Naming the statement leaves the number of an error as it is. -/
theorem nativeCode?_placed (error : Error) :
    (executor.placed statement error).nativeCode? = error.nativeCode? := by
  unfold placed Dialect.translateError
  split <;> cases error <;> rfl

/-- Naming the statement does not turn an error into one of the session, or back. -/
theorem isOfSession_placed (error : Error) :
    Migrator.isOfSession (executor.placed statement error) = Migrator.isOfSession error := by
  unfold placed Dialect.translateError
  split <;> cases error <;> rfl

/-- The error of the session names no statement. -/
theorem placed_of_isOfSession {error : Error} (session : Migrator.isOfSession error = true) :
    executor.placed statement error = error := by
  unfold placed Dialect.translateError
  cases error with
  | timeout limit => split <;> rfl
  | cancelled => split <;> rfl
  | pool fault => split <;> rfl
  | _ => cases session

theorem execute_tells :
    Tells (executor.execute statement) (executor.recorded.execute statement) fun outcome calls =>
      ∃ ran, executor.Alone statement ran calls ∧ outcome = ran.map Outcome.rowsAffected := by
  refine (executor.run_single_tells statement).bind (fun _ _ alone => ⟨_, alone, rfl⟩) ?_
  intro result calls alone
  refine Tells.pure ⟨.ok result, ?_, rfl⟩
  rw [List.append_nil]
  exact alone

end Executor

namespace Migrator

variable (executor : Executor σ)

/-- What a step comes to when its statement has come to an outcome. -/
def verdict (step : MigrationStep) : Except Error UInt64 → Except Error Bool
  | .ok _ => .ok true
  | .error error =>
    if tolerates step.definition.kind error then .ok false
    else if isOfSession error then .error error
    else .error (.migration (step.sql ++ ": " ++ error.message)
      (.on "migrate" step.definition.table))

theorem runStep_eq (step : MigrationStep) :
    runStep executor step = (executor.execute step.statement).attempt >>= fun outcome =>
      Session.ofExcept (verdict step outcome) := by
  show (executor.execute step.statement).attempt >>= _ = _
  refine congrArg _ (funext fun outcome => ?_)
  cases outcome with
  | ok count => rfl
  | error error =>
    unfold verdict
    dsimp only
    split
    · rfl
    · split <;> rfl

/-- What becomes of a step. -/
inductive Tried (step : MigrationStep) : Except Error Bool → List Entry → Prop where
  | settled (ending : Ending) (settled : step.Settled ending) :
    Tried step (.ok (SentStep.entry (step, ending)).isSuccess) [SentStep.entry (step, ending)]
  | stopped {error : Error} {calls : List Entry} (stops : step.Stops executor error calls) :
    Tried step (.error error) calls

variable {executor} in
/-- The error of a session is passed on. -/
theorem tried_of_isOfSession {step : MigrationStep} {error : Error} {calls : List Entry}
    (session : isOfSession error = true) (stops : step.Stops executor error calls) :
    Tried executor step (verdict step (.error error)) calls := by
  have untolerated : tolerates step.definition.kind error = false := by
    cases error with
    | timeout limit => cases step.definition.kind <;> rfl
    | cancelled => cases step.definition.kind <;> rfl
    | pool fault => cases step.definition.kind <;> rfl
    | _ => cases session
  rw [verdict, untolerated, if_neg Bool.false_ne_true, if_pos session]
  exact .stopped stops

/-- A call that was given up has an error of the session. -/
theorem isOfSession_of_isAbandonment {error : Error} (abandoned : error.isAbandonment = true) :
    isOfSession error = true := by
  cases error with
  | timeout limit => rfl
  | cancelled => rfl
  | _ => cases abandoned

/-- Where a call fails, its error settles the step or ends the migration. -/
theorem tried_failed (step : MigrationStep) (error : Error) :
    Tried executor step (verdict step (.error (executor.placed step.statement error)))
      [⟨step.act, .failed error⟩] := by
  have number := executor.nativeCode?_placed step.statement error
  by_cases settled : step.Settled (.failed error)
  · have tolerated : tolerates step.definition.kind (executor.placed step.statement error) =
        true := by
      rw [tolerates_iff, number]
      exact settled
    rw [verdict, if_pos tolerated]
    exact .settled _ settled
  · have untolerated : ¬ tolerates step.definition.kind (executor.placed step.statement error) =
        true := by
      rw [tolerates_iff, number]
      exact settled
    have ends : verdict step (.error (executor.placed step.statement error)) =
        .error (step.errorOf executor error) := by
      rw [verdict, if_neg untolerated, executor.isOfSession_placed, MigrationStep.errorOf]
      split
      · next session => rw [executor.placed_of_isOfSession _ session]
      · rfl
    rw [ends]
    exact .stopped (.failed settled)

theorem runStep_tells (step : MigrationStep) :
    Tells (runStep executor step) (runStep executor.recorded step) (Tried executor step) := by
  rw [runStep_eq, runStep_eq]
  refine (executor.execute_tells step.statement).attempt.bind ?_ ?_
  · rintro error calls ⟨_, impossible, _⟩
    cases impossible
  rintro _ calls ⟨_, same, ran, alone, rfl⟩
  cases same
  refine Tells.ofExcept ?_
  rw [List.append_nil]
  cases alone with
  | unusable => exact tried_of_isOfSession rfl .unusable
  | unaccepted fault => cases fault
  | sent ended =>
    cases ended with
    | succeeded reply => exact .settled (.succeeded reply) trivial
    | failed error => exact tried_failed executor step error
    | givenUp given =>
      exact tried_of_isOfSession (isOfSession_of_isAbandonment given.isAbandonment) (.givenUp given)
    | unsent given =>
      exact tried_of_isOfSession (isOfSession_of_isAbandonment given.isAbandonment) (.unsent given)

/-- What becomes of steps in a row. -/
theorem mapM_runStep_tells (steps : List MigrationStep) :
    Tells (steps.mapM fun step => do return (step.sql, ← runStep executor step))
      (steps.mapM fun step => do return (step.sql, ← runStep executor.recorded step))
      (Applied executor steps fun sent => sent.map SentStep.mark) := by
  induction steps with
  | nil => exact Tells.pure (.finished [] rfl (List.forall_mem_nil _))
  | cons step rest inductionHypothesis =>
    rw [List.mapM_cons, List.mapM_cons]
    have noted : Tells (do return (step.sql, ← runStep executor step))
        (do return (step.sql, ← runStep executor.recorded step)) fun outcome calls =>
          ∃ tried, Tried executor step tried calls ∧ outcome = tried.map (step.sql, ·) :=
      (runStep_tells executor step).bind (fun _ _ tried => ⟨_, tried, rfl⟩)
        fun needed calls tried => Tells.pure ⟨.ok needed, by rwa [List.append_nil], rfl⟩
    refine noted.bind ?_ ?_
    · rintro error calls ⟨_, tried, same⟩
      cases tried with
      | settled ending settled => cases same
      | stopped stops =>
        cases same
        exact .stopped [] rfl (List.forall_mem_nil _) stops
    · rintro entry before ⟨_, tried, same⟩
      cases tried with
      | stopped stops => cases same
      | settled ending settled =>
        cases same
        have before {outcome : Except Error (List (String × Bool))} {calls : List Entry}
            (applied : Applied executor rest (fun sent => sent.map SentStep.mark) outcome calls) :
            Applied executor (step :: rest) (fun sent => sent.map SentStep.mark)
              (outcome.map (SentStep.mark (step, ending) :: ·))
              (SentStep.entry (step, ending) :: calls) :=
          Applied.cons (step, ending) settled (fun _ => rfl) applied
        refine inductionHypothesis.bind (fun _ _ applied => before applied) ?_
        intro entries after applied
        refine Tells.pure ?_
        rw [List.append_nil]
        exact before applied

/-- What is noted of steps is put into a report. -/
theorem report_eq (sent : List SentStep) :
    SentStep.report sent =
      { executed := ((sent.map SentStep.mark).filter fun entry => entry.2).map Prod.fst
        tolerated := ((sent.map SentStep.mark).filter fun entry => !entry.2).map Prod.fst } := by
  simp only [SentStep.report, List.filter_map, List.map_map]
  rfl

/-- Steps in a row come to a report. -/
theorem apply_tells (steps : List MigrationStep) :
    Tells (apply executor steps) (apply executor.recorded steps)
      (Applied executor steps SentStep.report) := by
  have reported {outcome : Except Error (List (String × Bool))} {calls : List Entry}
      (applied : Applied executor steps (fun sent => sent.map SentStep.mark) outcome calls) :
      Applied executor steps SentStep.report
        (outcome.map fun done =>
          { executed := (done.filter fun entry => entry.2).map Prod.fst
            tolerated := (done.filter fun entry => !entry.2).map Prod.fst }) calls := by
    rw [funext report_eq]
    exact applied.map fun done : List (String × Bool) => ({
      executed := (done.filter fun entry => entry.2).map Prod.fst
      tolerated := (done.filter fun entry => !entry.2).map Prod.fst } : MigrationReport)
  refine (mapM_runStep_tells executor steps).bind (fun _ _ applied => reported applied) ?_
  intro done calls applied
  refine Tells.pure ?_
  rw [List.append_nil]
  exact reported applied

/-! ### Classified errors -/

/-- A migration with classified errors goes with the same one without if both succeed with the same
report or both fail. The errors are not compared here: the message of a step has the text of its
error. -/
abbrev InStepOrFailed (plain shown : Session σ α) : Prop :=
  InStep (fun _ _ => True) plain shown

theorem InStepOrFailed.congruence (σ : Type) :
    Session.Congruence fun {α} (plain shown : Session σ α) => InStepOrFailed plain shown :=
  InStep.congruence fun _ => trivial

/-- The number of an error stays when it is classified, and so does whether it is one of the
session. -/
theorem verdict_together (step : MigrationStep) {plain shown : Error}
    (related : plain.ShownAs shown) :
    Together (fun _ _ => True) (verdict step (.error plain)) (verdict step (.error shown)) := by
  have session : isOfSession shown = isOfSession plain := by cases related <;> rfl
  have tolerated : tolerates step.definition.kind shown = tolerates step.definition.kind plain := by
    rw [Bool.eq_iff_iff, tolerates_iff, tolerates_iff, related.nativeCode?_eq]
  unfold verdict
  dsimp only
  rw [session, tolerated]
  split
  · exact .ok false
  · split <;> exact .error trivial

theorem runStep_inStep (step : MigrationStep) :
    InStepOrFailed (runStep (executor.classifying false) step)
      (runStep (executor.classifying true) step) := by
  have executed : InStep Error.ShownAs ((executor.classifying false).execute step.statement)
      ((executor.classifying true).execute step.statement) :=
    (executor.run_inStep _).bind fun outcome => InStep.refl .same _
  rw [runStep_eq, runStep_eq]
  refine executed.attempt_bind (fun count => InStep.refl (fun _ => trivial) _) ?_
  intro plain shown related state
  exact ⟨rfl, verdict_together step related⟩

theorem apply_inStep (steps : List MigrationStep) :
    InStepOrFailed (apply (executor.classifying false) steps)
      (apply (executor.classifying true) steps) := by
  have congruence := InStepOrFailed.congruence σ
  have noted := congruence.mapM steps fun step =>
    congruence.bind (runStep_inStep executor step) fun needed =>
      congruence.ofExcept (.ok (step.sql, needed))
  exact congruence.bind noted fun done => congruence.ofExcept (.ok _)

theorem migrate_inStep (tables : List Table) :
    InStepOrFailed (migrate (executor.classifying false) tables)
      (migrate (executor.classifying true) tables) := by
  have congruence := InStepOrFailed.congruence σ
  have planned : InStepOrFailed (plan (executor.classifying false) tables)
      (plan (executor.classifying true) tables) :=
    (plan_inStep executor tables).mono fun _ _ _ => trivial
  refine congruence.bind planned fun plan => ?_
  exact congruence.bind (apply_inStep executor plan.steps) fun report => congruence.ofExcept (.ok _)

/-- Whether errors are classified makes no difference to what a migration leaves and reports. -/
theorem migrate_classifying (tables : List Table) (wanted : Bool) (state : σ) :
    let ended := (migrate executor tables).perform state
    let shown := (migrate (executor.classifying wanted) tables).perform state
    shown.2 = ended.2 ∧ shown.1.toOption = ended.1.toOption := by
  have alike (state : σ) : let plain := (migrate (executor.classifying false) tables).perform state
      let shown := (migrate (executor.classifying true) tables).perform state
      shown.2 = plain.2 ∧ shown.1.toOption = plain.1.toOption := by
    obtain ⟨left, together⟩ := migrate_inStep executor tables state
    refine ⟨left, ?_⟩
    generalize ((migrate (executor.classifying false) tables).perform state).1 = plain,
      ((migrate (executor.classifying true) tables).perform state).1 = shown at together ⊢
    cases together with
    | ok report => rfl
    | error _ => rfl
  have unchanged : executor = executor.classifying executor.dialect.translateErrors := rfl
  rw [unchanged]
  generalize executor.dialect.translateErrors = classified
  cases classified <;> cases wanted
  · exact ⟨rfl, rfl⟩
  · exact alike state
  · exact ⟨(alike state).1.symm, (alike state).2.symm⟩
  · exact ⟨rfl, rfl⟩

/-! ### Migrations -/

/-- What is reported of a plan: its steps as they went, and what it skipped. -/
def reportOf (plan : MigrationPlan) (sent : List SentStep) : MigrationReport :=
  { SentStep.report sent with skipped := plan.skipped }

/-- Once there is a plan, its steps are sent. -/
theorem apply_plan_tells (plan : MigrationPlan) :
    Tells
      (apply executor plan.steps >>= fun report => pure { report with skipped := plan.skipped })
      (apply executor.recorded plan.steps >>= fun report =>
        pure { report with skipped := plan.skipped })
      (Applied executor plan.steps (reportOf plan)) := by
  refine (apply_tells executor plan.steps).bind (fun _ _ applied => ?_) ?_
  · exact applied.map fun report => { report with skipped := plan.skipped }
  · intro report calls applied
    refine Tells.pure ?_
    rw [List.append_nil]
    exact applied.map fun report => { report with skipped := plan.skipped }

/-- What is sent after the questions, and what comes of it. -/
theorem migrate_tells (tables : List Table) {state middle : σ} {earlier asked : List Entry}
    {outcome : Except Error MigrationPlan}
    (planned : (plan executor tables).perform state = (outcome, middle))
    (noted : (plan executor.recorded tables).perform (state, earlier) = (outcome, middle, asked)) :
    let ended := (migrate executor tables).perform state
    ∃ sent, (migrate executor.recorded tables).perform (state, earlier) =
        (ended.1, ended.2, asked ++ sent) ∧
      (∀ error, outcome = .error error → ended.1 = .error error ∧ sent = []) ∧
      ∀ plan, outcome = .ok plan → Applied executor plan.steps (reportOf plan) ended.1 sent := by
  intro ended
  cases outcome with
  | error error =>
    have failed : ended = (.error error, middle) := Session.perform_bind_error planned _
    refine ⟨[], ?_, ?_, ?_⟩
    · rw [failed, List.append_nil]
      exact Session.perform_bind_error noted _
    · rintro _ ⟨⟩
      exact ⟨congrArg Prod.fst failed, rfl⟩
    · rintro _ ⟨⟩
  | ok plan =>
    obtain ⟨sent, same, applied⟩ := apply_plan_tells executor plan middle asked
    have goes : ended = _ := Session.perform_bind_ok planned _
    rw [← goes] at same applied
    refine ⟨sent, (Session.perform_bind_ok noted _).trans same, ?_, ?_⟩
    · rintro _ ⟨⟩
    · rintro _ ⟨⟩
      exact applied

/-- **A migration sends its steps in order.** Whatever the tables and the connection: first it only
asks the dictionary. If no plan comes of that, it fails with the error of the plan and sends nothing
else. If a plan comes of it, its steps are sent as `Applied` says, and what was skipped is reported
too. With native errors classified or not, the calls are the same, and so is the report, if there is
one. -/
theorem migrate_sends_steps (executor : Executor σ) (tables : List Table) (state : σ) :
    let planned := (plan executor tables).perform state
    let ended := (migrate executor tables).perform state
    ∃ asked sent : List Entry,
      (plan executor.recorded tables).perform (state, []) = (planned.1, planned.2, asked) ∧
      (migrate executor.recorded tables).perform (state, []) = (ended.1, ended.2, asked ++ sent) ∧
      Dictionary.OnlyAsks executor.dialect asked ∧
      (∀ error, planned.1 = .error error → ended.1 = .error error ∧ sent = []) ∧
      (∀ plan, planned.1 = .ok plan →
        Applied executor plan.steps (reportOf plan) ended.1 sent) ∧
      ∀ wanted,
        ((migrate (executor.classifying wanted).recorded tables).perform (state, [])).2 =
            (ended.2, asked ++ sent) ∧
          ((migrate (executor.classifying wanted) tables).perform state).1.toOption =
            ended.1.toOption := by
  intro planned ended
  obtain ⟨asked, noted, onlyAsks⟩ := plan_inquires executor tables state []
  obtain ⟨sent, recorded, unplanned, applied⟩ := migrate_tells executor tables rfl noted
  refine ⟨asked, sent, noted, recorded, onlyAsks, unplanned, applied, fun wanted => ⟨?_, ?_⟩⟩
  · have same := (migrate_classifying executor.recorded tables wanted (state, [])).1
    exact same.trans (congrArg Prod.snd recorded)
  · exact (migrate_classifying executor tables wanted state).2

end Migrator

end OracleSql
