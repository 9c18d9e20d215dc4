/-
This file says what a run sends. Every run of a plan on a valid connection has one of five exits:
what holds the plan together could not be opened, a statement failed, the returned rows did not
match the input rows, what holds the plan together could not be closed, or all went well. Each exit
fixes the calls that were made, in order, and what became of them. `Executor.runHeld_tells` proves
this along the definition of a run, with one story for each part; what is shown about the calls of a
run starts from `Exit` and does not look at the definition again.
-/

import OracleSql.Proofs.Session.Recorded

namespace OracleSql

variable {σ α β : Type}

/-! ### Statements -/

namespace Statement

/-- The call that sends the statement. -/
def act (statement : Statement) : Act :=
  match statement.shape with
  | .rows => .query statement.sql statement.binds
  | .rowsAffected =>
    match statement.binds with
    | .batch rows => .executeBatch statement.sql rows
    | binds => .execute statement.sql binds
  | .returning outs => .executeReturning statement.sql statement.binds outs

/-- What the statement has done when it was answered. -/
def gain (statement : Statement) (reply : Reply) : Gain :=
  match statement.shape with
  | .rows => { rows := reply.rows }
  | .rowsAffected => { affected := reply.affected }
  | .returning _ =>
    { affected := .ofNat reply.returned.length
      returned := reply.returned.map (ReturnedRow.behind statement.inputOffset) }

/-- The entry of the statement when it was answered. -/
def answered (statement : Statement) (reply : Reply) : Entry :=
  ⟨statement.act, .succeeded reply⟩

theorem isStatement_act (statement : Statement) : statement.act.isStatement = true := by
  unfold act
  split
  · rfl
  · split <;> rfl
  · rfl

/-- Only statements are answered. -/
theorem isStatement_of_mem_answered {statements : List Statement} {replies : List Reply} :
    ∀ entry ∈ List.zipWith answered statements replies, entry.act.isStatement = true := by
  intro entry member
  rw [← List.map_uncurry_zip_eq_zipWith] at member
  obtain ⟨⟨statement, reply⟩, _, rfl⟩ := List.mem_map.mp member
  exact statement.isStatement_act

end Statement

/-! ### Single calls -/

/-- What is made of an answer is made of it in the story too. -/
theorem Tells.bindPure {options : CallOptions} {deadline : Option Tick} {act : Act}
    {result : Reply → α} {shown : Error → Error} {plain : Session σ α}
    {noted : Session (σ × List Entry) α}
    (part : Tells plain noted (Ended options deadline act result shown)) (change : α → β) :
    Tells (plain >>= fun answer => Pure.pure (change answer))
      (noted >>= fun answer => Pure.pure (change answer))
      (Ended options deadline act (fun reply => change (result reply)) shown) := by
  refine part.bind ?_ ?_
  · intro error entries ended
    cases ended with
    | failed error => exact .failed error
    | givenUp given => exact .givenUp given
    | unsent given => exact .unsent given
  · intro answer before ended
    cases ended with
    | succeeded reply => exact Tells.pure (.succeeded reply)

namespace Executor

/-- The executor on the recorded connection. -/
def recorded (executor : Executor σ) : Executor (σ × List Entry) where
  dialect := executor.dialect
  connection := executor.connection.recorded
  options := executor.options

variable (executor : Executor σ) (deadline : Option Tick)

theorem send_tells (statement : Statement) :
    Tells (executor.send deadline statement) (executor.recorded.send deadline statement)
      (Ended executor.options deadline statement.act statement.gain id) := by
  unfold send Statement.act Statement.gain
  cases statement.shape with
  | rows =>
    exact (Tells.guarded executor.connection executor.options deadline _ _ _ Reply.rows
      fun _ => rfl).bindPure _
  | rowsAffected =>
    have sent (act : Act) (call : σ → Pending σ UInt64) :=
      (Tells.guarded executor.connection executor.options deadline act
        (fun affected => { affected }) call Reply.affected fun _ => rfl).bindPure
        fun affected => ({ affected } : Gain)
    cases statement.binds with
    | positional values => exact sent _ _
    | named pairs => exact sent _ _
    | batch rows => exact sent _ _
  | returning outs =>
    exact (Tells.guarded executor.connection executor.options deadline _ _ _ Reply.returned
      fun _ => rfl).bindPure _

/-- Naming the statement does not turn an error into one of a call that was given up, or back. -/
theorem isAbandonment_placed (statement : Statement) (error : Error) :
    (executor.placed statement error).isAbandonment = error.isAbandonment := by
  unfold placed Dialect.translateError
  split <;> cases error <;> rfl

/-- The error of a call that was given up names no statement. -/
theorem placed_of_isAbandonment (statement : Statement) {error : Error}
    (abandoned : error.isAbandonment = true) : executor.placed statement error = error := by
  unfold placed Dialect.translateError
  cases error with
  | timeout limit => split <;> rfl
  | cancelled => split <;> rfl
  | _ => cases abandoned

/-- What becomes of a statement. -/
abbrev Sent (statement : Statement) : Except Error Gain → List Entry → Prop :=
  Ended executor.options deadline statement.act statement.gain (executor.placed statement)

theorem runStatement_tells (statement : Statement) :
    Tells (executor.runStatement deadline statement)
      (executor.recorded.runStatement deadline statement) (executor.Sent deadline statement) := by
  refine (executor.send_tells deadline statement).attempt.bind ?_ ?_
  · rintro error entries ⟨_, impossible, _⟩
    cases impossible
  · rintro attempted before ⟨_, same, ended⟩
    cases same
    cases ended with
    | succeeded reply => exact Tells.pure (.succeeded reply)
    | failed error => exact Tells.throw (.failed error)
    | givenUp given =>
      refine Tells.throw ?_
      rw [placed_of_isAbandonment _ _ given.isAbandonment]
      exact .givenUp given
    | unsent given =>
      refine Tells.throw ?_
      rw [placed_of_isAbandonment _ _ given.isAbandonment]
      exact .unsent given

/-! ### Several statements -/

/-- What becomes of statements that are sent one after the other, each only if those before it
succeeded. -/
inductive Ran : List Statement → Except Error (List Gain) → List Entry → Prop where
  | nil : Ran [] (.ok []) []
  | stopped {statement : Statement} {rest : List Statement} {error : Error} {entries : List Entry}
    (ended : executor.Sent deadline statement (.error error) entries) :
    Ran (statement :: rest) (.error error) entries
  | cons {statement : Statement} {rest : List Statement} {outcome : Except Error (List Gain)}
    {entries : List Entry} (reply : Reply) (others : Ran rest outcome entries) :
    Ran (statement :: rest) (outcome.map (statement.gain reply :: ·))
      (statement.answered reply :: entries)

variable {executor deadline} in
/-- If all went well, every statement was answered. -/
theorem Ran.replies {statements : List Statement} {gains : List Gain} {calls : List Entry}
    (ran : executor.Ran deadline statements (.ok gains) calls) :
    ∃ replies, replies.length = statements.length ∧
      calls = List.zipWith Statement.answered statements replies ∧
      gains = List.zipWith Statement.gain statements replies := by
  generalize came : (.ok gains : Except Error (List Gain)) = outcome at ran
  induction ran generalizing gains with
  | nil =>
    cases came
    exact ⟨[], rfl, rfl, rfl⟩
  | stopped _ => cases came
  | @cons statement rest outcome entries reply _ inductionHypothesis =>
    cases outcome with
    | error _ => cases came
    | ok others =>
      cases came
      obtain ⟨replies, length, same, gained⟩ := inductionHypothesis rfl
      refine ⟨reply :: replies, ?_, ?_, ?_⟩
      · rw [List.length_cons, List.length_cons, length]
      · rw [List.zipWith_cons_cons, same]
      · rw [List.zipWith_cons_cons, gained]

variable {executor deadline} in
/-- If not all went well, one statement came to the error, and its calls are the last ones. -/
theorem Ran.exists_stopped {statements : List Statement} {error : Error} {calls : List Entry}
    (ran : executor.Ran deadline statements (.error error) calls) :
    ∃ statement ∈ statements, ∃ answered last, calls = answered ++ last ∧
      executor.Sent deadline statement (.error error) last := by
  generalize came : (.error error : Except Error (List Gain)) = outcome at ran
  induction ran with
  | nil => cases came
  | @stopped statement _ _ entries ended =>
    cases came
    exact ⟨statement, List.mem_cons_self, [], entries, rfl, ended⟩
  | @cons statement _ outcome _ reply _ inductionHypothesis =>
    cases outcome with
    | ok _ => cases came
    | error _ =>
      cases came
      obtain ⟨own, inside, answered, last, rfl, ended⟩ := inductionHypothesis rfl
      exact ⟨own, List.mem_cons_of_mem _ inside, statement.answered reply :: answered, last, rfl,
        ended⟩

theorem mapM_runStatement_tells (statements : List Statement) :
    Tells (statements.mapM (executor.runStatement deadline))
      (statements.mapM (executor.recorded.runStatement deadline))
      (executor.Ran deadline statements) := by
  induction statements with
  | nil => exact Tells.pure .nil
  | cons statement rest inductionHypothesis =>
    rw [List.mapM_cons, List.mapM_cons]
    refine (executor.runStatement_tells deadline statement).bind ?_ ?_
    · intro error entries ended
      exact .stopped ended
    · intro gain before ended
      cases ended with
      | succeeded reply =>
        refine inductionHypothesis.bind ?_ ?_
        · intro error entries ran
          exact .cons reply ran
        · intro gains entries ran
          refine Tells.pure ?_
          rw [List.append_nil]
          exact .cons reply ran

theorem runStatements_tells (plan : Plan) :
    Tells (executor.runStatements deadline plan) (executor.recorded.runStatements deadline plan)
      fun outcome entries => ∃ result, executor.Ran deadline plan.statements result entries ∧
        outcome = result >>= plan.outcome := by
  refine (executor.mapM_runStatement_tells deadline plan.statements).bind ?_ ?_
  · intro error entries ran
    exact ⟨_, ran, rfl⟩
  · intro gains entries ran
    refine Tells.ofExcept ?_
    rw [List.append_nil]
    exact ⟨_, ran, rfl⟩

/-! ### What holds a plan together -/

/-- The call that opens what holds a plan together. -/
def Bracket.opening? : Bracket → Option Act
  | alone => none
  | transaction => some .begin
  | savepoint => some (.savepoint planSavepoint)

/-- The call that closes it after success. -/
def Bracket.closing? : Bracket → Option Act
  | transaction => some .commit
  | _ => none

/-- The call that takes back what was done. -/
def Bracket.undoing? : Bracket → Option Act
  | alone => none
  | transaction => some .rollback
  | savepoint => some (.rollbackTo planSavepoint)

/-- Opening, closing and taking back are no statements. -/
theorem Bracket.isStatement_of_call {held : Bracket} {act : Act}
    (called : some act = held.opening? ∨ some act = held.closing? ∨ some act = held.undoing?) :
    act.isStatement = false := by
  cases held <;> rcases called with called | called | called <;> cases called <;> rfl

/-- What becomes of a call, if there is one to be made. -/
def Passed : Option Act → Except Error Unit → List Entry → Prop
  | none, outcome, entries => outcome = .ok () ∧ entries = []
  | some act, outcome, entries =>
    Ended executor.options deadline act (fun _ => ()) id outcome entries

variable {executor deadline} in
/-- Nothing is called but this, and perhaps the connection is marked. -/
theorem Passed.act_of_mem {act? : Option Act} {outcome : Except Error Unit} {calls : List Entry}
    (passed : executor.Passed deadline act? outcome calls) :
    ∀ entry ∈ calls, some entry.act = act? ∨ entry.act = .invalidate := by
  cases act? with
  | none =>
    obtain ⟨_, rfl⟩ := passed
    exact List.forall_mem_nil _
  | some act =>
    intro entry member
    exact (Ended.act_of_mem passed entry member).imp (congrArg some) id

variable {executor deadline} in
/-- Opening and closing send no statement. -/
theorem Passed.isStatement_of_mem {held : Bracket} {act? : Option Act} {outcome : Except Error Unit}
    {calls : List Entry} (passed : executor.Passed deadline act? outcome calls)
    (within : act? = held.opening? ∨ act? = held.closing?) :
    ∀ entry ∈ calls, entry.act.isStatement = false := by
  intro entry member
  rcases passed.act_of_mem entry member with rfl | marked
  · exact Bracket.isStatement_of_call (within.imp_right .inl)
  · rw [marked]
    rfl

theorem enter_tells (held : Bracket) :
    Tells (executor.enter deadline held) (executor.recorded.enter deadline held)
      (executor.Passed deadline held.opening?) := by
  cases held with
  | alone => exact Tells.pure ⟨rfl, rfl⟩
  | transaction => exact Tells.guarded _ _ _ _ _ _ _ fun _ => rfl
  | savepoint => exact Tells.guarded _ _ _ _ _ _ _ fun _ => rfl

theorem leave_tells (held : Bracket) :
    Tells (executor.leave deadline held) (executor.recorded.leave deadline held)
      (executor.Passed deadline held.closing?) := by
  cases held with
  | alone => exact Tells.pure ⟨rfl, rfl⟩
  | transaction => exact Tells.guarded _ _ _ _ _ _ _ fun _ => rfl
  | savepoint => exact Tells.pure ⟨rfl, rfl⟩

/-- A call whose answer makes no difference, if there is one to be made. -/
def Undone : Option Act → List Entry → Prop
  | none, entries => entries = []
  | some act, entries => ∃ ending, ending ≠ .givenUp ∧ entries = [⟨act, ending⟩]

theorem Undone.act_of_mem {act? : Option Act} {calls : List Entry} (undone : Undone act? calls) :
    ∀ entry ∈ calls, some entry.act = act? := by
  cases act? with
  | none =>
    rw [show calls = [] from undone]
    exact List.forall_mem_nil _
  | some act =>
    obtain ⟨_, _, rfl⟩ := undone
    intro entry member
    rw [List.mem_singleton.mp member]

theorem takeBack_tells (held : Bracket) :
    Tells (executor.takeBack held) (executor.recorded.takeBack held)
      fun outcome entries => outcome = .ok () ∧ Undone held.undoing? entries := by
  have waited (act : Act) (call : σ → Pending σ Unit) :
      Tells ((Session.await call).attempt >>= fun _ => Pure.pure ())
        ((Session.await (recordedCall act (fun _ => {}) call)).attempt >>= fun _ => Pure.pure ())
        fun outcome entries => outcome = .ok () ∧ Undone (some act) entries := by
    refine (Tells.await act _ call).attempt.bind ?_ ?_
    · rintro error entries ⟨_, impossible, _⟩
      cases impossible
    · rintro _ before ⟨answer, _, rfl⟩
      refine Tells.pure ⟨rfl, _, ?_, rfl⟩
      cases answer <;> exact Ending.noConfusion
  cases held with
  | alone => exact Tells.pure ⟨rfl, rfl⟩
  | transaction => exact waited _ _
  | savepoint => exact waited _ _

/-! ### Plans -/

/-- The ways in which a run ends, each with the calls that were made. -/
inductive Exit (held : Bracket) (plan : Plan) : Except Error Outcome → List Entry → Prop where
  /-- What holds the plan together could not be opened. -/
  | unopened {error : Error} {opening : List Entry}
    (opened : executor.Passed deadline held.opening? (.error error) opening) :
    Exit held plan (.error error) opening
  /-- The statements failed, or what they returned did not match; it is taken back, except after a
  call that was given up. -/
  | undone {result : Except Error (List Gain)} {error : Error}
    {opening entries undoing : List Entry}
    (opened : executor.Passed deadline held.opening? (.ok ()) opening)
    (ran : executor.Ran deadline plan.statements result entries)
    (failed : result >>= plan.outcome = .error error)
    (takenBack : Undone (if error.isAbandonment then none else held.undoing?) undoing) :
    Exit held plan (.error error) (opening ++ (entries ++ undoing))
  /-- What holds the plan together could not be closed. -/
  | unclosed {gains : List Gain} {outcome : Outcome} {error : Error}
    {opening entries closing : List Entry}
    (opened : executor.Passed deadline held.opening? (.ok ()) opening)
    (ran : executor.Ran deadline plan.statements (.ok gains) entries)
    (accounted : plan.outcome gains = .ok outcome)
    (closed : executor.Passed deadline held.closing? (.error error) closing) :
    Exit held plan (.error error) (opening ++ (entries ++ closing))
  | finished {gains : List Gain} {outcome : Outcome} {opening entries closing : List Entry}
    (opened : executor.Passed deadline held.opening? (.ok ()) opening)
    (ran : executor.Ran deadline plan.statements (.ok gains) entries)
    (accounted : plan.outcome gains = .ok outcome)
    (closed : executor.Passed deadline held.closing? (.ok ()) closing) :
    Exit held plan (.ok outcome) (opening ++ (entries ++ closing))

theorem runHeld_tells (held : Bracket) (plan : Plan) :
    Tells (executor.runHeld deadline held plan) (executor.recorded.runHeld deadline held plan)
      (executor.Exit deadline held plan) := by
  refine (executor.enter_tells deadline held).bind ?_ ?_
  · intro error opening opened
    exact .unopened opened
  intro _ opening opened
  refine (executor.runStatements_tells deadline plan).attempt.bind ?_ ?_
  · rintro error entries ⟨_, impossible, _⟩
    cases impossible
  rintro attempted entries ⟨_, same, result, ran, came⟩
  cases same
  cases attempted with
  | error error =>
    dsimp only
    cases abandoned : error.isAbandonment with
    | true =>
      -- Nothing more is sent after a call that was given up.
      refine Tells.throw (Exit.undone opened ran came.symm ?_)
      rw [abandoned]
      rfl
    | false =>
      refine (executor.takeBack_tells held).bind ?_ ?_
      · rintro failure undoing ⟨impossible, _⟩
        cases impossible
      · rintro _ undoing ⟨_, takenBack⟩
        refine Tells.throw ?_
        rw [List.append_nil]
        refine .undone opened ran came.symm ?_
        rw [abandoned]
        exact takenBack
  | ok outcome =>
    cases result with
    | error error => cases came
    | ok gains =>
      refine (executor.leave_tells deadline held).bind ?_ ?_
      · intro error closing closed
        exact .unclosed opened ran came.symm closed
      · intro _ closing closed
        refine Tells.pure ?_
        rw [List.append_nil]
        exact .finished opened ran came.symm closed

/-! ### Runs -/

/-- The deadline of a run that starts in a state. -/
def deadlineAt (state : σ) : Option Tick :=
  executor.options.timeout.map fun limit => executor.connection.now state + limit.nanoseconds

/-- What holds a plan together in a run that starts in a state. -/
def bracketAt (plan : Plan) (state : σ) : Bracket :=
  bracket plan (executor.connection.inTransaction state)

/-- A plan is run only on a valid connection, and only if it is accepted. -/
theorem perform_run (plan : Plan) (state : σ) :
    (executor.run plan).perform state =
      if executor.connection.isValid state then
        match plan.check with
        | .ok () =>
          (executor.runHeld (executor.deadlineAt state) (executor.bracketAt plan state)
            plan).perform state
        | .error error => (.error error, state)
      else (.error (.pool .unusable), state) := by
  unfold run
  rw [Session.perform_bind_ok (Session.perform_ask _ _)]
  cases executor.connection.isValid state with
  | false => rfl
  | true =>
    cases accepted : plan.check with
    | error error => exact Session.perform_bind_error (Session.perform_ofExcept _ _) _
    | ok _ =>
      refine (Session.perform_bind_ok (Session.perform_ofExcept _ _) _).trans ?_
      rw [Session.perform_bind_ok (Session.perform_ask _ _),
        Session.perform_bind_ok (Session.perform_ask _ _)]
      rfl

theorem perform_run_accepted {plan : Plan} {state : σ}
    (valid : executor.connection.isValid state = true) (accepted : plan.check = .ok ()) :
    (executor.run plan).perform state =
      (executor.runHeld (executor.deadlineAt state) (executor.bracketAt plan state)
        plan).perform state := by
  rw [perform_run, if_pos valid, accepted]

/-- A plan of one statement comes to what its call is answered with. -/
theorem perform_run_single {statement : Statement} {state : σ}
    (valid : executor.connection.isValid state = true) (accepted : statement.check = .ok ()) :
    (executor.run (.single statement)).perform state =
      let (result, after) := (executor.send (executor.deadlineAt state) statement).perform state
      (result.mapError (executor.placed statement) >>= fun gain =>
        (Plan.single statement).outcome [gain], after) := by
  have checked : (Plan.single statement).check = .ok () := by
    simp [Plan.check, Plan.single, accepted]
  have alone : executor.bracketAt (.single statement) state = .alone := rfl
  rw [executor.perform_run_accepted valid checked, alone]
  rcases sent : (executor.send (executor.deadlineAt state) statement).perform state with
    ⟨result, after⟩
  have ran : (executor.runStatement (executor.deadlineAt state) statement).perform state =
      (result.mapError (executor.placed statement), after) := by
    unfold runStatement
    rw [Session.perform_bind, Session.perform_attempt, sent]
    cases result <;> rfl
  have collected :
      (executor.runStatements (executor.deadlineAt state) (.single statement)).perform state =
      (result.mapError (executor.placed statement) >>= fun gain =>
        (Plan.single statement).outcome [gain], after) := by
    unfold runStatements
    rw [Plan.single, List.mapM_cons, List.mapM_nil, Session.perform_bind, Session.perform_bind, ran]
    cases result <;> rfl
  unfold runHeld
  rw [enter, Session.perform_bind, Session.perform_pure]
  dsimp only
  rw [Session.perform_bind, Session.perform_attempt, collected]
  dsimp only
  cases result.mapError (executor.placed statement) >>= fun gain =>
    (Plan.single statement).outcome [gain] with
  | ok outcome => rfl
  | error error =>
    dsimp only
    cases error.isAbandonment <;> rfl

/-- The calls of a run that starts in a state, in order, with what became of them. -/
def transcript (plan : Plan) (state : σ) : List Entry :=
  ((executor.recorded.run plan).perform (state, [])).2.2

theorem transcript_accepted {plan : Plan} {state : σ}
    (valid : executor.connection.isValid state = true) (accepted : plan.check = .ok ()) :
    executor.transcript plan state =
      ((executor.recorded.runHeld (executor.deadlineAt state) (executor.bracketAt plan state)
        plan).perform (state, [])).2.2 := by
  have validity : executor.recorded.connection.isValid (state, []) = true := valid
  unfold transcript
  rw [executor.recorded.perform_run_accepted validity accepted]
  rfl

/-- A run that is refused makes no calls. -/
theorem transcript_refused {plan : Plan} {state : σ}
    (refused : executor.connection.isValid state = false ∨ plan.check ≠ .ok ()) :
    executor.transcript plan state = [] := by
  unfold transcript
  rw [executor.recorded.perform_run]
  have validity : executor.recorded.connection.isValid (state, []) =
      executor.connection.isValid state := rfl
  rw [validity]
  rcases refused with invalid | unaccepted
  · rw [invalid]
    rfl
  · split
    · split
      · exact absurd ‹_› unaccepted
      · rfl
    · rfl

/-- Every other run has an exit. -/
theorem exit_transcript {plan : Plan} {state : σ}
    (valid : executor.connection.isValid state = true) (accepted : plan.check = .ok ()) :
    executor.Exit (executor.deadlineAt state) (executor.bracketAt plan state) plan
      ((executor.run plan).perform state).1 (executor.transcript plan state) := by
  obtain ⟨entries, same, exit⟩ := executor.runHeld_tells (executor.deadlineAt state)
    (executor.bracketAt plan state) plan state []
  rw [executor.perform_run_accepted valid accepted, executor.transcript_accepted valid accepted,
    same]
  exact exit

/-- A run makes no calls, or it has an exit. -/
theorem transcript_nil_or_exit (plan : Plan) (state : σ) :
    executor.transcript plan state = [] ∨
      executor.Exit (executor.deadlineAt state) (executor.bracketAt plan state) plan
        ((executor.run plan).perform state).1 (executor.transcript plan state) := by
  by_cases refused : executor.connection.isValid state = false ∨ plan.check ≠ .ok ()
  · exact .inl (executor.transcript_refused refused)
  · obtain ⟨valid, accepted⟩ := not_or.mp refused
    exact .inr (executor.exit_transcript (eq_true_of_ne_false valid)
      (Classical.not_not.mp accepted))

/-- Recording the calls of a run changes neither its outcome nor the state that it leaves. -/
theorem run_recorded (plan : Plan) (state : σ) :
    (executor.recorded.run plan).perform (state, []) =
      (((executor.run plan).perform state).1, ((executor.run plan).perform state).2,
        executor.transcript plan state) := by
  unfold transcript
  have validity : executor.recorded.connection.isValid (state, []) =
      executor.connection.isValid state := rfl
  rw [executor.perform_run, executor.recorded.perform_run, validity]
  split
  · split
    · obtain ⟨entries, same, -⟩ := executor.runHeld_tells (executor.deadlineAt state)
        (executor.bracketAt plan state) plan state []
      have noted : (executor.recorded.runHeld (executor.recorded.deadlineAt (state, []))
        (executor.recorded.bracketAt plan (state, [])) plan).perform (state, []) = _ := same
      rw [noted]
    · rfl
  · rfl

end Executor

end OracleSql
