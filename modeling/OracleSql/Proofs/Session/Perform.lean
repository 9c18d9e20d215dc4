/-
This file says what a session comes to. A session that starts in a state has an outcome and leaves a
state, and both follow from what its parts come to: a part that fails ends the session in the state
it left, and after a part that succeeds the rest goes on from there. The lemmas beside `perform` are
all that later proofs use of the way sessions are made.

A relation between two sessions is mostly shown along the way in which they are put together. What
that takes is `Congruence`.
-/

import OracleSql.Session.Executor

namespace OracleSql.Session

variable {σ α β : Type}

/-- What a session that starts in a state comes to: its outcome, and the state it leaves. -/
def perform (session : Session σ α) (state : σ) : Except Error α × σ :=
  (session.run.run state).run

theorem perform_pure (result : α) (state : σ) :
    (pure result : Session σ α).perform state = (.ok result, state) := rfl

theorem perform_ofExcept (outcome : Except Error α) (state : σ) :
    (ofExcept outcome : Session σ α).perform state = (outcome, state) := rfl

theorem perform_ask (question : σ → α) (state : σ) :
    (ask question).perform state = (.ok (question state), state) := rfl

/-- An attempt succeeds with the outcome of what is attempted. -/
theorem perform_attempt (session : Session σ α) (state : σ) :
    session.attempt.perform state =
      (.ok (session.perform state).1, (session.perform state).2) := rfl

theorem perform_bind (session : Session σ α) (next : α → Session σ β) (state : σ) :
    (session >>= next).perform state =
      match session.perform state with
      | (.ok result, after) => (next result).perform after
      | (.error error, after) => (.error error, after) := by
  show (match (session.run.run state).run with
    | (outcome, after) => ((ExceptT.bindCont next outcome).run after).run) = _
  unfold perform
  cases (session.run.run state).run with
  | mk outcome after => cases outcome <;> rfl

/-- After a part that succeeds the rest goes on. -/
theorem perform_bind_ok {session : Session σ α} {state after : σ} {result : α}
    (done : session.perform state = (.ok result, after)) (next : α → Session σ β) :
    (session >>= next).perform state = (next result).perform after := by
  rw [perform_bind, done]

/-- A part that fails ends the session. -/
theorem perform_bind_error {session : Session σ α} {state after : σ} {error : Error}
    (failed : session.perform state = (.error error, after)) (next : α → Session σ β) :
    (session >>= next).perform state = (.error error, after) := by
  rw [perform_bind, failed]

/-- Two parts succeed where the first does and the second does from where it left off. -/
theorem perform_bind_eq_ok {session : Session σ α} {next : α → Session σ β} {state after : σ}
    {result : β} :
    (session >>= next).perform state = (.ok result, after) ↔
      ∃ first middle, session.perform state = (.ok first, middle) ∧
        (next first).perform middle = (.ok result, after) := by
  rw [perform_bind]
  constructor
  · intro done
    split at done
    next first middle came => exact ⟨first, middle, came, done⟩
    next => cases done
  · rintro ⟨first, middle, came, done⟩
    rw [came]
    exact done

/-! ### Relations that go along -/

variable {τ : Type} {related : {α : Type} → Session σ α → Session τ α → Prop}

/-- A relation between sessions that holds of those that are put together in the same way from
related parts. -/
structure Congruence (related : {α : Type} → Session σ α → Session τ α → Prop) : Prop where
  ofExcept {α : Type} (outcome : Except Error α) : related (ofExcept outcome) (ofExcept outcome)
  bind {α β : Type} {first : Session σ α} {second : Session τ α} {next : α → Session σ β}
    {other : α → Session τ β} (parts : related first second)
    (rests : ∀ result, related (next result) (other result)) :
    related (first >>= next) (second >>= other)

/-- Traversals are related if they are at each item. -/
theorem Congruence.mapM (congruence : Congruence related) (items : List α)
    {body : α → Session σ β} {other : α → Session τ β}
    (each : ∀ item, related (body item) (other item)) :
    related (items.mapM body) (items.mapM other) := by
  induction items with
  | nil => exact congruence.ofExcept (.ok [])
  | cons item rest inductionHypothesis =>
    rw [List.mapM_cons, List.mapM_cons]
    refine congruence.bind (each item) fun result => ?_
    exact congruence.bind inductionHypothesis fun results => congruence.ofExcept (.ok _)

end OracleSql.Session
