/-
This file follows data through sessions whose calls all succeed. The data is whatever one wants to
read off the world, such as the rows of a table. `Carries` says of a recorded session that from data
of one kind it comes to a result and to data of another kind, unless a call fails on the way. It is
put together along a session as its parts are. A run carries what its statements carry, if opening
and closing what holds a plan together leave the data alone.
-/

import OracleSql.Proofs.Session.Transcript

namespace OracleSql

variable {σ δ α β : Type}

/-! ### Sessions -/

/-- A recorded session only adds entries; and if all of these are successes, it leads from data that
meet the start to a result and to data that meet the goal. -/
def Carries (data : σ → δ) (start : δ → Prop) (noted : Session (σ × List Entry) α)
    (goal : α → δ → Prop) : Prop :=
  ∀ state earlier, ∃ outcome final entries,
    noted.perform (state, earlier) = (outcome, final, earlier ++ entries) ∧
      (start (data state) → (∀ entry ∈ entries, entry.isSuccess = true) →
        ∃ result, outcome = .ok result ∧ goal result (data final))

namespace Carries

variable {data : σ → δ} {start : δ → Prop} {noted : Session (σ × List Entry) α}
  {goal : α → δ → Prop}

theorem pure {result : α} (holds : ∀ current, start current → goal result current) :
    Carries data start (Pure.pure result) goal := by
  intro state earlier
  refine ⟨.ok result, state, [], ?_, fun begins _ => ⟨result, rfl, holds _ begins⟩⟩
  rw [Session.perform_pure, List.append_nil]

theorem ofExcept {outcome : Except Error α}
    (holds : ∀ current, start current → ∃ result, outcome = .ok result ∧ goal result current) :
    Carries data start (Session.ofExcept outcome) goal := by
  intro state earlier
  refine ⟨outcome, state, [], ?_, fun begins _ => holds _ begins⟩
  rw [Session.perform_ofExcept, List.append_nil]

/-- The rest of a session starts where its first part arrives. -/
theorem bind {next : α → Session (σ × List Entry) β} {further : β → δ → Prop}
    (part : Carries data start noted goal)
    (rest : ∀ result, Carries data (goal result) (next result) further) :
    Carries data start (noted >>= next) further := by
  intro state earlier
  obtain ⟨outcome, middle, before, same, goes⟩ := part state earlier
  cases outcome with
  | error error =>
    refine ⟨.error error, middle, before, Session.perform_bind_error same _, ?_⟩
    intro begins succeeded
    obtain ⟨_, impossible, _⟩ := goes begins succeeded
    cases impossible
  | ok result =>
    obtain ⟨outcome, final, after, other, arrives⟩ := rest result middle (earlier ++ before)
    refine ⟨outcome, final, before ++ after, ?_, ?_⟩
    · rw [Session.perform_bind_ok same, other, List.append_assoc]
    · intro begins succeeded
      obtain ⟨first, later⟩ := List.forall_mem_append.mp succeeded
      obtain ⟨_, came, between⟩ := goes begins first
      cases came
      exact arrives between later

/-- What is attempted goes on where it arrives. An error does not arise on the way, so what would
follow it has nothing to carry. -/
theorem attempt_bind {next : Except Error α → Session (σ × List Entry) β} {further : β → δ → Prop}
    (carries : Carries data start noted goal)
    (rest : ∀ result, Carries data (goal result) (next (.ok result)) further)
    (tells : ∀ error, ∃ plain story, Tells plain (next (.error error)) story) :
    Carries data start (noted.attempt >>= next) further := by
  have attempted : Carries data start noted.attempt fun outcome current =>
      ∃ result, outcome = .ok result ∧ goal result current := by
    intro state earlier
    obtain ⟨outcome, final, entries, same, goes⟩ := carries state earlier
    refine ⟨.ok outcome, final, entries, ?_, fun begins succeeded => ?_⟩
    · rw [Session.perform_attempt, same]
    · exact ⟨outcome, rfl, goes begins succeeded⟩
  refine attempted.bind fun outcome state earlier => ?_
  cases outcome with
  | ok result =>
    obtain ⟨outcome, final, entries, same, goes⟩ := rest result state earlier
    refine ⟨outcome, final, entries, same, ?_⟩
    rintro ⟨_, came, begins⟩ succeeded
    cases came
    exact goes begins succeeded
  | error error =>
    obtain ⟨plain, story, recorded⟩ := tells error
    obtain ⟨entries, same, _⟩ := recorded state earlier
    refine ⟨_, _, entries, same, ?_⟩
    rintro ⟨_, impossible, _⟩
    cases impossible

/-- A fact that is known before a session is known after it. -/
theorem frame {fact : Prop} (carries : Carries data start noted goal) :
    Carries data (fun current => fact ∧ start current) noted
      fun result current => fact ∧ goal result current := by
  intro state earlier
  obtain ⟨outcome, final, entries, same, goes⟩ := carries state earlier
  refine ⟨outcome, final, entries, same, fun ⟨known, begins⟩ succeeded => ?_⟩
  obtain ⟨result, came, holds⟩ := goes begins succeeded
  exact ⟨result, came, known, holds⟩

/-- A call that cannot be given up carries what it carries whenever it succeeds. -/
theorem guarded (connection : Connection σ) (act : Act) (reply : α → Reply)
    (call : σ → Pending σ α)
    (acts : ∀ state answer, start (data state) → (call state).answer = .ok answer →
      goal answer (data (call state).arrived)) :
    Carries data start (connection.recorded.guarded {} none (recordedCall act reply call))
      goal := by
  intro state earlier
  refine ⟨(call state).answer, (call state).arrived,
    [⟨act, .ofAnswer reply (call state).answer⟩], rfl, ?_⟩
  intro begins succeeded
  have success := succeeded _ List.mem_cons_self
  cases answered : (call state).answer with
  | ok answer => exact ⟨answer, rfl, acts state answer begins answered⟩
  | error error =>
    rw [answered] at success
    cases success

end Carries

/-! ### Runs -/

/-- The calls that hold a plan together leave the data alone. -/
structure Connection.HoldsStill (connection : Connection σ) (data : σ → δ) : Prop where
  begin : ∀ state, (connection.begin state).answer = .ok () →
    data (connection.begin state).arrived = data state
  commit : ∀ state, (connection.commit state).answer = .ok () →
    data (connection.commit state).arrived = data state
  savepoint : ∀ state, (connection.savepoint Executor.planSavepoint state).answer = .ok () →
    data (connection.savepoint Executor.planSavepoint state).arrived = data state

namespace Executor

variable {executor : Executor σ} {data : σ → δ} {start : δ → Prop}

/-- A statement that returns columns carries what its call carries. -/
theorem runStatement_carries (quiet : executor.options = {}) {statement : Statement}
    {outs : List OutBind} (shape : statement.shape = .returning outs) {goal : Gain → δ → Prop}
    (acts : ∀ state returned, start (data state) →
      (executor.connection.executeReturning statement.sql statement.binds outs state).answer =
        .ok returned →
      goal
        { affected := .ofNat returned.length
          returned := returned.map (ReturnedRow.behind statement.inputOffset) }
        (data (executor.connection.executeReturning statement.sql statement.binds outs
          state).arrived)) :
    Carries data start (executor.recorded.runStatement none statement) goal := by
  have sent : Carries data start (executor.recorded.send none statement) goal := by
    unfold send
    rw [shape, show executor.recorded.options = {} from quiet]
    exact (Carries.guarded executor.connection _ _ _ acts).bind fun _ => Carries.pure fun _ => id
  exact sent.attempt_bind (fun gain => Carries.pure fun _ => id)
    fun error => ⟨throw _, fun _ _ => True, Tells.throw trivial⟩

theorem enter_carries (quiet : executor.options = {}) (still : executor.connection.HoldsStill data)
    (held : Bracket) :
    Carries data start (executor.recorded.enter none held) fun _ => start := by
  unfold enter
  rw [show executor.recorded.options = {} from quiet]
  cases held with
  | alone => exact Carries.pure fun _ => id
  | transaction =>
    refine Carries.guarded executor.connection _ _ _ fun state _ begins answered => ?_
    rwa [still.begin state answered]
  | savepoint =>
    refine Carries.guarded executor.connection _ _ _ fun state _ begins answered => ?_
    rwa [still.savepoint state answered]

theorem leave_carries (quiet : executor.options = {}) (still : executor.connection.HoldsStill data)
    (held : Bracket) :
    Carries data start (executor.recorded.leave none held) fun _ => start := by
  unfold leave
  rw [show executor.recorded.options = {} from quiet]
  cases held with
  | transaction =>
    refine Carries.guarded executor.connection _ _ _ fun state _ begins answered => ?_
    rwa [still.commit state answered]
  | _ => exact Carries.pure fun _ => id

/-- What holds a plan together carries what the statements carry. -/
theorem runHeld_carries (quiet : executor.options = {})
    (still : executor.connection.HoldsStill data) (held : Bracket) {plan : Plan}
    {goal : Outcome → δ → Prop}
    (ran : Carries data start (executor.recorded.runStatements none plan) goal) :
    Carries data start (executor.recorded.runHeld none held plan) goal := by
  refine (enter_carries quiet still held).bind fun _ => ?_
  have failed (error : Error) : Tells (α := Outcome)
      (do if !error.isAbandonment then executor.takeBack held
          throw error)
      (do if !error.isAbandonment then executor.recorded.takeBack held
          throw error) fun _ _ => True := by
    cases error.isAbandonment with
    | true => exact Tells.throw trivial
    | false =>
      exact (executor.takeBack_tells held).bind (fun _ _ _ => trivial)
        fun _ _ _ => Tells.throw trivial
  refine ran.attempt_bind (fun outcome => ?_) fun error => ⟨_, _, failed error⟩
  exact (leave_carries quiet still held).bind fun _ => Carries.pure fun _ => id

/-- A run whose calls all succeed comes to an outcome, and carries the data as its statements do. -/
theorem run_carries (quiet : executor.options = {}) (still : executor.connection.HoldsStill data)
    {plan : Plan} {state : σ} (valid : executor.connection.isValid state = true)
    (accepted : plan.check = .ok ()) {goal : Outcome → δ → Prop}
    (ran : Carries data start (executor.recorded.runStatements none plan) goal)
    (begins : start (data state))
    (succeeded : ∀ entry ∈ executor.transcript plan state, entry.isSuccess = true) :
    ∃ outcome, ((executor.run plan).perform state).1 = .ok outcome ∧
      goal outcome (data ((executor.run plan).perform state).2) := by
  have validity : executor.recorded.connection.isValid (state, []) = true := valid
  have unlimited : executor.recorded.deadlineAt (state, []) = none := by
    unfold deadlineAt
    rw [show executor.recorded.options = {} from quiet]
    rfl
  have noted := executor.run_recorded plan state
  rw [executor.recorded.perform_run_accepted validity accepted, unlimited] at noted
  obtain ⟨outcome, final, entries, same, goes⟩ := runHeld_carries quiet still _ ran state []
  obtain ⟨came, left, all⟩ : outcome = _ ∧ final = _ ∧ entries = _ := by
    have ends := same.symm.trans noted
    rw [Prod.mk.injEq, Prod.mk.injEq] at ends
    exact ends
  rw [← came, ← left]
  exact goes begins (all ▸ succeeded)

end Executor

end OracleSql
