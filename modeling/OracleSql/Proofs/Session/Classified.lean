/-
This file shows that classifying native errors changes nothing but how they are shown. A run with
classified errors and the same run without make the same calls, leave the same world, and succeed
with the same outcome or fail together. Where they fail the errors are the same, except that a
native error may be shown with its kind; its number, its words and its place stay.

`InStep` says of two sessions that they leave every world alike and come to outcomes that go
together. It is put together along the sessions as their parts are. That an error decides how a run
goes on is the only point of interest: whether a plan is taken back hangs on whether a call was
given up, and no native error says so.
-/

import OracleSql.Proofs.Session.Transcript

namespace OracleSql

variable {σ α β : Type}

/-! ### Errors that are shown in two ways -/

/-- An error as it comes, and the same error where native ones are classified. -/
inductive Error.ShownAs : Error → Error → Prop where
  | same (error : Error) : ShownAs error error
  | classified (native : NativeError) (context : Context) :
    ShownAs (.database native context) (.classified (.ofCode native.code) native context)

namespace Error.ShownAs

variable {plain shown : Error}

theorem nativeCode?_eq (related : ShownAs plain shown) : shown.nativeCode? = plain.nativeCode? := by
  cases related <;> rfl

theorem context?_eq (related : ShownAs plain shown) : shown.context? = plain.context? := by
  cases related <;> rfl

/-- No native error is one of a call that was given up. -/
theorem isAbandonment_eq (related : ShownAs plain shown) :
    shown.isAbandonment = plain.isAbandonment := by
  cases related <;> rfl

/-- Every error is shown as it is or with its kind. -/
theorem classify (error : Error) : ShownAs error error.classify := by
  cases error with
  | database native context => exact .classified native context
  | _ => exact .same _

end Error.ShownAs

/-! ### Sessions in step -/

/-- Two outcomes have the same result, or errors that go together. -/
inductive Together (related : Error → Error → Prop) : Except Error α → Except Error α → Prop where
  | ok (result : α) : Together related (.ok result) (.ok result)
  | error {first second : Error} (go : related first second) :
    Together related (.error first) (.error second)

/-- Two sessions leave every world alike, with outcomes that go together. -/
def InStep (related : Error → Error → Prop) (first second : Session σ α) : Prop :=
  ∀ state, (second.perform state).2 = (first.perform state).2 ∧
    Together related (first.perform state).1 (second.perform state).1

namespace InStep

variable {related : Error → Error → Prop} {first second : Session σ α}

theorem refl (reflexive : ∀ error, related error error) (session : Session σ α) :
    InStep related session session := by
  intro state
  refine ⟨rfl, ?_⟩
  cases (session.perform state).1 with
  | ok result => exact .ok result
  | error error => exact .error (reflexive error)

theorem throw {error other : Error} (go : related error other) :
    InStep related (throw error : Session σ α) (throw other) :=
  fun _ => ⟨rfl, .error go⟩

/-- Sessions whose parts are in step are in step. -/
theorem bind {next other : α → Session σ β} (parts : InStep related first second)
    (rests : ∀ result, InStep related (next result) (other result)) :
    InStep related (first >>= next) (second >>= other) := by
  intro state
  obtain ⟨left, go⟩ := parts state
  rw [Session.perform_bind, Session.perform_bind]
  generalize first.perform state = one, second.perform state = two at left go ⊢
  obtain ⟨_, middle⟩ := one
  obtain ⟨_, _⟩ := two
  cases left
  cases go with
  | ok result => exact rests result middle
  | error go => exact ⟨rfl, .error go⟩

/-- What follows an attempt may look at the error, as long as it stays in step for errors that go
together. -/
theorem attempt_bind {further : Error → Error → Prop} {next other : Except Error α → Session σ β}
    (parts : InStep related first second)
    (succeeds : ∀ result, InStep further (next (.ok result)) (other (.ok result)))
    (fails : ∀ error shown, related error shown →
      InStep further (next (.error error)) (other (.error shown))) :
    InStep further (first.attempt >>= next) (second.attempt >>= other) := by
  intro state
  obtain ⟨left, go⟩ := parts state
  rw [Session.perform_bind_ok (Session.perform_attempt _ _),
    Session.perform_bind_ok (Session.perform_attempt _ _)]
  generalize first.perform state = one, second.perform state = two at left go ⊢
  obtain ⟨_, middle⟩ := one
  obtain ⟨_, _⟩ := two
  cases left
  cases go with
  | ok result => exact succeeds result middle
  | error go => exact fails _ _ go middle

/-- Sessions that are put together from parts in step are in step. -/
theorem congruence (reflexive : ∀ error, related error error) :
    Session.Congruence fun {α} (first second : Session σ α) => InStep related first second where
  ofExcept outcome := refl reflexive (.ofExcept outcome)
  bind := bind

/-- What is in step with errors that go together is so if more of them do. -/
theorem mono {further : Error → Error → Prop} (parts : InStep related first second)
    (implies : ∀ error shown, related error shown → further error shown) :
    InStep further first second := by
  intro state
  obtain ⟨left, go⟩ := parts state
  refine ⟨left, ?_⟩
  generalize (first.perform state).1 = outcome, (second.perform state).1 = other at go ⊢
  cases go with
  | ok result => exact .ok result
  | error go => exact .error (implies _ _ go)

end InStep

/-! ### Runs -/

/-- The dialect with native errors classified, or not. -/
def Dialect.classifying (dialect : Dialect) (wanted : Bool) : Dialect :=
  { dialect with translateErrors := wanted }

namespace Executor

/-- The executor that classifies native errors, or the one that does not. -/
def classifying (executor : Executor σ) (wanted : Bool) : Executor σ :=
  { executor with dialect := executor.dialect.classifying wanted }

variable (executor : Executor σ) (deadline : Option Tick)

theorem placed_shownAs (statement : Statement) (error : Error) :
    ((executor.classifying false).placed statement error).ShownAs
      ((executor.classifying true).placed statement error) :=
  Error.ShownAs.classify _

theorem runStatement_inStep (statement : Statement) :
    InStep Error.ShownAs ((executor.classifying false).runStatement deadline statement)
      ((executor.classifying true).runStatement deadline statement) := by
  -- Sending a statement does not look at the dialect.
  have sent : InStep Eq ((executor.classifying false).send deadline statement)
      ((executor.classifying true).send deadline statement) := InStep.refl (fun _ => rfl) _
  refine sent.attempt_bind (fun gain => InStep.refl .same _) ?_
  rintro error _ rfl
  exact InStep.throw (executor.placed_shownAs statement error)

theorem runStatements_inStep (plan : Plan) :
    InStep Error.ShownAs ((executor.classifying false).runStatements deadline plan)
      ((executor.classifying true).runStatements deadline plan) :=
  ((InStep.congruence .same).mapM _ (executor.runStatement_inStep deadline)).bind fun _ =>
    InStep.refl .same _

theorem runHeld_inStep (held : Bracket) (plan : Plan) :
    InStep Error.ShownAs ((executor.classifying false).runHeld deadline held plan)
      ((executor.classifying true).runHeld deadline held plan) := by
  refine (InStep.refl .same _).bind fun _ => ?_
  refine (executor.runStatements_inStep deadline plan).attempt_bind
    (fun outcome => InStep.refl .same _) ?_
  intro error shown related
  dsimp only
  -- Both are taken back, or neither is.
  rw [related.isAbandonment_eq]
  cases error.isAbandonment with
  | true => exact InStep.throw related
  | false => exact (InStep.refl .same _).bind fun _ => InStep.throw related

theorem run_inStep (plan : Plan) :
    InStep Error.ShownAs ((executor.classifying false).run plan)
      ((executor.classifying true).run plan) := by
  intro state
  have validity (wanted : Bool) : (executor.classifying wanted).connection.isValid state =
      executor.connection.isValid state := rfl
  rw [perform_run, perform_run, validity, validity]
  split
  · split
    · exact executor.runHeld_inStep _ _ plan state
    · exact ⟨rfl, .error (.same _)⟩
  · exact ⟨rfl, .error (.same _)⟩

/-- **Classifying errors is neutral.** On every connection, for every plan and all time limits, the
run that classifies native errors makes the calls of the run that does not, in the same order and
with the same answers, and leaves the same world. Both come to the same outcome, or both fail, with
errors that differ at most in that a native one is shown with its kind. -/
theorem run_classifying_neutral (executor : Executor σ) (plan : Plan) (state : σ) :
    let plain := executor.classifying false
    let sorted := executor.classifying true
    sorted.transcript plan state = plain.transcript plan state ∧
      ((sorted.run plan).perform state).2 = ((plain.run plan).perform state).2 ∧
      Together Error.ShownAs ((plain.run plan).perform state).1
        ((sorted.run plan).perform state).1 := by
  intro plain sorted
  refine ⟨?_, executor.run_inStep plan state⟩
  have recorded := (executor.recorded.run_inStep plan (state, [])).1
  exact congrArg Prod.snd recorded

end Executor

end OracleSql
