/-
This file follows the native errors of a run to the outcome. Every call that is answered with an
error ends the run, unless it only takes back what was done; but the error is shown with its kind
only where a statement was answered with it. The calls that open and close what holds a plan
together hand theirs on as it came, so a constraint that is checked at the commit is reported
without its kind, however errors are to be shown.
-/

import OracleSql.Proofs.Session.Cleanup

namespace OracleSql

variable {σ α : Type}

/-! ### Errors as they are shown -/

/-- Classified errors keep no native error as it came. -/
theorem Error.classify_ne_database (error : Error) (native : NativeError) (context : Context) :
    error.classify ≠ .database native context := by
  cases error <;> nofun

/-- Whether the call opens or closes what holds a plan together. -/
def Act.holdsTogether : Act → Bool
  | begin => true
  | savepoint _ => true
  | commit => true
  | _ => false

theorem Act.holdsTogether_of_isStatement {act : Act} (runs : act.isStatement = true) :
    act.holdsTogether = false := by
  cases act <;> first | rfl | cases runs

theorem Act.holdsTogether_of_takesBack {act : Act} (undoes : act.takesBack = true) :
    act.holdsTogether = false := by
  cases act <;> first | rfl | cases undoes

/-! ### The parts of a run -/

/-- A call that was answered with an error fails with that error, as it is shown. -/
theorem Ended.error_of_failure {options : CallOptions} {deadline : Option Tick} {act : Act}
    {result : Reply → α} {shown : Error → Error} {outcome : Except Error α} {calls : List Entry}
    (ended : Ended options deadline act result shown outcome calls) {entry : Entry}
    (member : entry ∈ calls) {failure : Error} (answered : entry.failure? = some failure) :
    entry.act = act ∧ outcome = .error (shown failure) := by
  cases ended with
  | succeeded reply =>
    rw [List.mem_singleton.mp member] at answered
    cases answered
  | failed error =>
    rw [List.mem_singleton.mp member] at answered ⊢
    cases answered
    exact ⟨rfl, rfl⟩
  | givenUp given =>
    rcases List.mem_cons.mp member with rfl | member
    · cases answered
    · rw [List.mem_singleton.mp member] at answered
      cases answered
  | unsent given =>
    rw [List.mem_singleton.mp member] at answered
    cases answered

namespace Executor

variable {executor : Executor σ} {deadline : Option Tick}

theorem Bracket.holdsTogether_of_call {held : Bracket} {act : Act}
    (called : some act = held.opening? ∨ some act = held.closing?) : act.holdsTogether = true := by
  cases held <;> rcases called with called | called <;> cases called <;> rfl

theorem Bracket.takesBack_of_undoing {held : Bracket} {act : Act}
    (called : some act = held.undoing?) : act.takesBack = true := by
  cases held <;> cases called <;> rfl

/-- A statement that was answered with an error is the last one, and its error is that of all. -/
theorem Ran.error_of_failure {statements : List Statement} {result : Except Error (List Gain)}
    {calls : List Entry} (ran : executor.Ran deadline statements result calls) {entry : Entry}
    (member : entry ∈ calls) {failure : Error} (answered : entry.failure? = some failure) :
    ∃ statement ∈ statements, entry.act = statement.act ∧
      result = .error (executor.placed statement failure) := by
  induction ran with
  | nil => cases member
  | @stopped statement _ _ _ ended =>
    obtain ⟨called, failed⟩ := ended.error_of_failure member answered
    cases failed
    exact ⟨statement, List.mem_cons_self, called, rfl⟩
  | @cons statement _ _ _ reply _ inductionHypothesis =>
    rcases List.mem_cons.mp member with rfl | member
    · cases answered
    · obtain ⟨own, inside, called, rfl⟩ := inductionHypothesis member
      exact ⟨own, List.mem_cons_of_mem _ inside, called, rfl⟩

/-- Where errors are classified, statements do not fail with a native error as it came. -/
theorem Ran.ne_database (classifies : executor.dialect.translateErrors = true)
    {statements : List Statement} {result : Except Error (List Gain)} {calls : List Entry}
    (ran : executor.Ran deadline statements result calls) (native : NativeError)
    (context : Context) : result ≠ .error (.database native context) := by
  rintro rfl
  obtain ⟨statement, _, _, _, _, ended⟩ := ran.exists_stopped
  rcases ended.failed_or_givenUp with ⟨failure, _, same⟩ | ⟨given, _⟩
  · unfold placed Dialect.translateError at same
    rw [if_pos classifies] at same
    exact Error.classify_ne_database _ native context same.symm
  · cases given.isAbandonment

/-- Opening or closing that was answered with an error fails with it as it came. -/
theorem Passed.error_of_failure {act? : Option Act} {outcome : Except Error Unit}
    {calls : List Entry} (passed : executor.Passed deadline act? outcome calls) {entry : Entry}
    (member : entry ∈ calls) {failure : Error} (answered : entry.failure? = some failure) :
    some entry.act = act? ∧ outcome = .error failure := by
  cases act? with
  | none =>
    obtain ⟨_, rfl⟩ := passed
    cases member
  | some act =>
    obtain ⟨rfl, failed⟩ := Ended.error_of_failure passed member answered
    exact ⟨rfl, failed⟩

/-- Opening or closing that fails with a native error was answered with it. -/
theorem Passed.failure_of_database {act? : Option Act} {native : NativeError} {context : Context}
    {calls : List Entry}
    (passed : executor.Passed deadline act? (.error (.database native context)) calls) :
    ∃ entry ∈ calls, some entry.act = act? ∧
      entry.failure? = some (.database native context) := by
  cases act? with
  | none => cases passed.1
  | some act =>
    rcases Ended.failed_or_givenUp passed with ⟨failure, rfl, same⟩ | ⟨given, _⟩
    · exact ⟨_, List.mem_cons_self, rfl, congrArg some same.symm⟩
    · cases given.isAbandonment

/-- Returned rows that do not match are no native error. -/
theorem outcome_ne_database {plan : Plan} {gains : List Gain} (native : NativeError)
    (context : Context) : plan.outcome gains ≠ .error (.database native context) := by
  unfold Plan.outcome
  dsimp only
  split
  · split
    · split <;> nofun
    · nofun
  · nofun

/-! ### Runs -/

/-- A call that was answered with an error opened or closed what holds the plan together, and the
run fails with the error as it came; or it sent a statement of the plan, and the run fails with the
error as it is shown for this statement; or it took back what was done. -/
theorem Exit.error_of_failure {held : Bracket} {plan : Plan} {outcome : Except Error Outcome}
    {calls : List Entry} (exit : executor.Exit deadline held plan outcome calls) {entry : Entry}
    (member : entry ∈ calls) {failure : Error} (answered : entry.failure? = some failure) :
    (entry.act.holdsTogether = true ∧ outcome = .error failure) ∨
      (∃ statement ∈ plan.statements, entry.act = statement.act ∧
        outcome = .error (executor.placed statement failure)) ∨
      entry.act.takesBack = true := by
  cases exit with
  | unopened opened =>
    obtain ⟨called, failed⟩ := opened.error_of_failure member answered
    exact .inl ⟨Bracket.holdsTogether_of_call (.inl called), by cases failed; rfl⟩
  | @undone result error _ _ _ opened ran failed takenBack =>
    rcases List.mem_append.mp member with member | member
    · cases (opened.error_of_failure member answered).2
    rcases List.mem_append.mp member with member | member
    · obtain ⟨statement, inside, called, rfl⟩ := ran.error_of_failure member answered
      cases failed
      exact .inr (.inl ⟨statement, inside, called, rfl⟩)
    · have called := takenBack.act_of_mem entry member
      split at called
      · cases called
      · exact .inr (.inr (Bracket.takesBack_of_undoing called))
  | unclosed opened ran accounted closed =>
    rcases List.mem_append.mp member with member | member
    · cases (opened.error_of_failure member answered).2
    rcases List.mem_append.mp member with member | member
    · obtain ⟨_, _, _, impossible⟩ := ran.error_of_failure member answered
      cases impossible
    · obtain ⟨called, failed⟩ := closed.error_of_failure member answered
      exact .inl ⟨Bracket.holdsTogether_of_call (.inr called), by cases failed; rfl⟩
  | finished opened ran accounted closed =>
    rcases List.mem_append.mp member with member | member
    · cases (opened.error_of_failure member answered).2
    rcases List.mem_append.mp member with member | member
    · obtain ⟨_, _, _, impossible⟩ := ran.error_of_failure member answered
      cases impossible
    · cases (closed.error_of_failure member answered).2

/-- Where errors are classified, a run that fails with a native error as it came had it for the
answer to opening or closing what holds the plan together. -/
theorem Exit.failure_of_database (classifies : executor.dialect.translateErrors = true)
    {held : Bracket} {plan : Plan} {native : NativeError} {context : Context} {calls : List Entry}
    (exit : executor.Exit deadline held plan (.error (.database native context)) calls) :
    ∃ entry ∈ calls, entry.act.holdsTogether = true ∧
      entry.failure? = some (.database native context) := by
  cases exit with
  | unopened opened =>
    obtain ⟨entry, member, called, answered⟩ := opened.failure_of_database
    exact ⟨entry, member, Bracket.holdsTogether_of_call (.inl called), answered⟩
  | @undone result _ _ _ _ opened ran failed takenBack =>
    cases result with
    | error error =>
      cases failed
      exact absurd rfl (ran.ne_database classifies native context)
    | ok gains => exact absurd failed (outcome_ne_database native context)
  | unclosed opened ran accounted closed =>
    obtain ⟨entry, member, called, answered⟩ := closed.failure_of_database
    exact ⟨entry, List.mem_append_right _ (List.mem_append_right _ member),
      Bracket.holdsTogether_of_call (.inr called), answered⟩

/-- A plan is never refused with a native error. -/
theorem check_ne_database (plan : Plan) (native : NativeError) (context : Context) :
    plan.check ≠ .error (.database native context) := by
  unfold Plan.check
  induction plan.statements with
  | nil => nofun
  | cons statement rest inductionHypothesis =>
    change (statement.check >>= fun _ => rest.forM Statement.check) ≠ _
    cases accepted : statement.check with
    | error error =>
      rintro ⟨⟩
      unfold Statement.check at accepted
      split at accepted <;> cases accepted
    | ok _ => exact inductionHypothesis

/-- A run that is refused does not fail with a native error. -/
theorem run_refused_ne_database (executor : Executor σ) {plan : Plan} {state : σ}
    (refused : executor.connection.isValid state = false ∨ plan.check ≠ .ok ())
    (native : NativeError) (context : Context) :
    ((executor.run plan).perform state).1 ≠ .error (.database native context) := by
  rw [executor.perform_run]
  cases valid : executor.connection.isValid state with
  | false => nofun
  | true =>
    rcases refused with invalid | unaccepted
    · rw [valid] at invalid
      cases invalid
    · cases came : plan.check with
      | ok _ => exact absurd came unaccepted
      | error error =>
        rintro ⟨⟩
        exact check_ne_database plan native context came

/-- Where errors are classified, a run fails with a native error as it came exactly if that was the
answer to a call that opens or closes what holds the plan together. A native error that a statement
was answered with is returned with its kind, its number and its words. -/
theorem run_database_iff (executor : Executor σ) (plan : Plan) (state : σ) (native : NativeError)
    (context : Context) (classifies : executor.dialect.translateErrors = true) :
    (((executor.run plan).perform state).1 = .error (.database native context) ↔
      ∃ entry ∈ executor.transcript plan state, entry.act.holdsTogether = true ∧
        entry.failure? = some (.database native context)) ∧
    ∀ entry ∈ executor.transcript plan state, entry.act.isStatement = true →
      entry.failure? = some (.database native context) →
      ∃ statement ∈ plan.statements, entry.act = statement.act ∧
        ((executor.run plan).perform state).1 =
          .error (.classified (.ofCode native.code) native (context.orElse
            { operation := some statement.operation, table := statement.table })) := by
  by_cases refused : executor.connection.isValid state = false ∨ plan.check ≠ .ok ()
  · rw [executor.transcript_refused refused]
    refine ⟨⟨fun failed => ?_, ?_⟩, fun _ member => absurd member List.not_mem_nil⟩
    · exact absurd failed (executor.run_refused_ne_database refused native context)
    · rintro ⟨_, member, _⟩
      exact absurd member List.not_mem_nil
  · obtain ⟨valid, accepted⟩ := not_or.mp refused
    have exit := executor.exit_transcript (eq_true_of_ne_false valid)
      (Classical.not_not.mp accepted)
    refine ⟨⟨fun failed => ?_, ?_⟩, ?_⟩
    · rw [failed] at exit
      exact exit.failure_of_database classifies
    · rintro ⟨entry, member, holds, answered⟩
      rcases exit.error_of_failure member answered with
        ⟨_, failed⟩ | ⟨statement, _, sent, _⟩ | undoes
      · exact failed
      · rw [sent, Act.holdsTogether_of_isStatement statement.isStatement_act] at holds
        cases holds
      · rw [Act.holdsTogether_of_takesBack undoes] at holds
        cases holds
    · intro entry member runs answered
      rcases exit.error_of_failure member answered with
        ⟨holds, _⟩ | ⟨statement, inside, sent, failed⟩ | undoes
      · rw [Act.holdsTogether_of_isStatement runs] at holds
        cases holds
      · refine ⟨statement, inside, sent, ?_⟩
        rw [failed, placed, Dialect.translateError, if_pos classifies]
        rfl
      · rw [Act.isStatement_of_isControl (Act.isControl_of_takesBack undoes)] at runs
        cases runs

/-- A parent row is absent. -/
def parentAbsent : NativeError := ⟨some 2291, "parent key not found"⟩

/-- A session that refuses the calls with a text. -/
def refusingSession (text : String) (inTransaction : Bool) : ScriptedSession where
  script := { failures := [{ pattern := text, native := parentAbsent }] }
  inTransaction

/-- An executor that classifies native errors, on the session with number zero. -/
def classifyingExecutor : Executor Rehearsal where
  dialect := { translateErrors := true }
  connection := Rehearsal.connection 0

/-- An absent parent row is returned with its kind where the insertion is answered with it. -/
theorem run_database_iff_insertion :
    classifyingExecutor.dialect.translateErrors = true ∧
      ∃ statement ∈ twoStatements.statements,
        ((classifyingExecutor.run twoStatements).perform
          { sessions := [refusingSession "INSERT" false] }).1 =
          .error (.classified .foreignKeyViolation parentAbsent
            { operation := some statement.operation, table := statement.table }) := by
  let state : Rehearsal := { sessions := [refusingSession "INSERT" false] }
  obtain ⟨entry, member, runs, answered⟩ :
      ∃ entry ∈ classifyingExecutor.transcript twoStatements state,
        entry.act.isStatement = true ∧ entry.failure? = some (.database parentAbsent {}) := by
    decide +kernel
  obtain ⟨statement, inside, _, returned⟩ :=
    (run_database_iff classifyingExecutor twoStatements state parentAbsent {} rfl).2
      entry member runs answered
  exact ⟨rfl, statement, inside, returned⟩

/-- Where the same error is the answer to the commit, to the opening of the transaction or to that
of the savepoint, it is returned without its kind. -/
theorem unclassified_around_statements :
    twoRows.plan { translateErrors := true } = .ok twoStatements ∧
      classifyingExecutor.dialect.translateErrors = true ∧
      ∀ session ∈ [refusingSession "COMMIT" false, refusingSession "BEGIN" false,
          refusingSession "SAVEPOINT" true],
        ((classifyingExecutor.run twoStatements).perform { sessions := [session] }).1 =
          .error (.database parentAbsent {}) := by
  decide +kernel

end Executor

end OracleSql
