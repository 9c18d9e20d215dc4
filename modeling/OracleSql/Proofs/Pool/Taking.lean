/-
This file says what comes of asking a pool for a session. While all may be in use nothing happens.
Otherwise the sessions that wait are examined in their order, each one that is not good any longer
is discarded, and the first one that is good is handed out; where there is none a new one is opened.
`Hands` says so once, and later proofs use nothing else of the way in which a session is taken.
-/

import OracleSql.Pool.Basic
import OracleSql.Proofs.Session.Perform

namespace OracleSql

variable {σ κ : Type}

/-! ### Parts in a row -/

/-- After a part the rest goes on from the state it left. -/
theorem run_bind_of_run {α β : Type} {part : StateM σ α} {before after : σ} {result : α}
    (came : part.run before = (result, after)) (next : α → StateM σ β) :
    (part >>= next).run before = (next result).run after := by
  rw [StateT.run_bind, came]
  rfl

/-! ### Sessions that are still good -/

/-- A session without an open transaction: there was none, or it was rolled back. -/
inductive Connection.Clears (connection : Connection σ) : σ → σ → Prop where
  | closed {world : σ} (none : connection.inTransaction world = false) :
    Clears connection world world
  | rolledBack {world : σ} (left : connection.inTransaction world = true)
    (answered : (connection.rollback world).answer = .ok ()) :
    Clears connection world (connection.rollback world).arrived

namespace Pool

/-- A session that is examined and found good: it was not invalidated and is not stale, nothing is
left of a transaction, and then it answers a ping. -/
structure Recycled (connector : Connector σ κ) (settings : PoolSettings) (session : PooledSession κ)
    (examined cleared handed : σ) : Prop where
  valid : (connector.connection session.key).isValid examined = true
  fresh : staleness? settings (connector.now examined) session = none
  clears : (connector.connection session.key).Clears examined cleared
  answers : (connector.ping session.key).perform cleared = (.ok (), handed)

/-- What is made ready is good. -/
theorem recycled_of_recycle {connector : Connector σ κ} {settings : PoolSettings}
    {session : PooledSession κ} {examined handed : σ}
    (made : (recycle connector settings session).perform examined = (.ok (), handed)) :
    ∃ cleared, Recycled connector settings session examined cleared handed := by
  unfold recycle at made
  obtain ⟨_, _, ⟨⟩, made⟩ := Session.perform_bind_eq_ok.mp made
  cases valid : (connector.connection session.key).isValid examined with
  | false =>
    rw [valid] at made
    cases made
  | true =>
    rw [valid] at made
    obtain ⟨_, _, ⟨⟩, made⟩ := Session.perform_bind_eq_ok.mp made
    cases fresh : staleness? settings (connector.now examined) session with
    | some fault =>
      rw [fresh] at made
      cases made
    | none =>
      rw [fresh] at made
      obtain ⟨_, _, ⟨⟩, made⟩ := Session.perform_bind_eq_ok.mp made
      cases left : (connector.connection session.key).inTransaction examined with
      | false =>
        rw [left] at made
        exact ⟨examined, valid, fresh, .closed left, made⟩
      | true =>
        rw [left] at made
        obtain ⟨_, _, awaited, made⟩ := Session.perform_bind_eq_ok.mp made
        obtain ⟨answered, rfl⟩ := Prod.mk.inj awaited
        exact ⟨_, valid, fresh, .rolledBack left answered, made⟩

/-- What comes of examining the sessions that wait, one after the other: the first good one, if
there is one, and those behind it. -/
inductive Examined (connector : Connector σ κ) (settings : PoolSettings) :
    List (PooledSession κ) → σ → Option (PooledSession κ) → List (PooledSession κ) → σ → Prop where
  | exhausted {world : σ} : Examined connector settings [] world none [] world
  | ready {session : PooledSession κ} {rest : List (PooledSession κ)} {before after : σ}
    (made : (recycle connector settings session).perform before = (.ok (), after)) :
    Examined connector settings (session :: rest) before (some session) rest after
  | discarded {session : PooledSession κ} {rest left : List (PooledSession κ)}
    {found : Option (PooledSession κ)} {before middle after : σ} {error : Error}
    (failed : (recycle connector settings session).perform before = (.error error, middle))
    (others : Examined connector settings rest middle found left after) :
    Examined connector settings (session :: rest) before found left after

namespace Examined

variable {connector : Connector σ κ} {settings : PoolSettings} {before after : σ}
  {waiting left : List (PooledSession κ)} {found : Option (PooledSession κ)}

/-- The first good session and those behind it are some of those that waited. -/
theorem sublist (examined : Examined connector settings waiting before found left after) :
    List.Sublist (found.toList ++ left) waiting := by
  induction examined with
  | exhausted => exact List.Sublist.refl _
  | ready made => exact List.Sublist.refl _
  | discarded failed others inductionHypothesis => exact inductionHypothesis.cons _

/-- Where none is good, none is left. -/
theorem left_eq_nil (examined : Examined connector settings waiting before none left after) :
    left = [] := by
  generalize nothing : (none : Option (PooledSession κ)) = found at examined
  induction examined with
  | exhausted => rfl
  | ready made => cases nothing
  | discarded failed others inductionHypothesis => exact inductionHypothesis nothing

end Examined

theorem examined_firstReady (connector : Connector σ κ) (settings : PoolSettings)
    (waiting : List (PooledSession κ)) (before : σ) :
    let examined := (firstReady connector settings waiting).run before
    Examined connector settings waiting before examined.1.1 examined.1.2 examined.2 := by
  induction waiting generalizing before with
  | nil => exact .exhausted
  | cons session rest inductionHypothesis =>
    intro examined
    rcases come : (recycle connector settings session).perform before with ⟨outcome, middle⟩
    have goes : examined = _ := run_bind_of_run come _
    cases outcome with
    | ok done =>
      have found : examined = ((some session, rest), middle) := goes
      rw [found]
      exact .ready come
    | error error =>
      have others : examined = (firstReady connector settings rest).run middle := goes
      rw [others]
      exact .discarded come (inductionHypothesis middle)

/-- What comes of asking a pool. -/
inductive Hands (connector : Connector σ κ) (pool : Pool κ) (before : σ) :
    Taken κ → Pool κ → σ → Prop where
  | refused (full : pool.settings.maxOpen ≤ pool.held.length) :
    Hands connector pool before (refused pool.settings) pool before
  | reused {session : PooledSession κ} {left : List (PooledSession κ)} {after : σ}
    (room : pool.held.length < pool.settings.maxOpen)
    (examined : Examined connector pool.settings pool.idle before (some session) left after) :
    Hands connector pool before (.session session.key)
      { pool with
        idle := left
        held := { session with taken := connector.now after } :: pool.held } after
  | opened {key : κ} {left : List (PooledSession κ)} {asked after : σ}
    (room : pool.held.length < pool.settings.maxOpen)
    (examined : Examined connector pool.settings pool.idle before none left asked)
    (made : (connector.connect pool.target).perform asked = (.ok key, after)) :
    Hands connector pool before (.session key)
      { pool with
        idle := left
        held := ⟨key, connector.now after, connector.now after⟩ :: pool.held } after
  | failed {error : Error} {left : List (PooledSession κ)} {asked after : σ}
    (examined : Examined connector pool.settings pool.idle before none left asked)
    (failed : (connector.connect pool.target).perform asked = (.error error, after)) :
    Hands connector pool before (.failed error) { pool with idle := left } after

theorem hands_take (connector : Connector σ κ) (pool : Pool κ) (before : σ) :
    let asked := (take connector pool).run before
    Hands connector pool before asked.1.1 asked.1.2 asked.2 := by
  dsimp only
  by_cases full : pool.settings.maxOpen ≤ pool.held.length
  · rw [take, if_pos full]
    exact .refused full
  have room := Nat.lt_of_not_le full
  have examined := examined_firstReady connector pool.settings pool.idle before
  rcases come : (firstReady connector pool.settings pool.idle).run before with
    ⟨⟨found, left⟩, middle⟩
  rw [come] at examined
  rw [take, if_neg full, run_bind_of_run come]
  cases found with
  | some session => exact .reused room examined
  | none =>
    rcases connected : (connector.connect pool.target).run.run middle with ⟨outcome, after⟩
    dsimp only
    rw [run_bind_of_run connected]
    cases outcome with
    | ok key => exact .opened room examined connected
    | error error => exact .failed examined connected

theorem hands_of_take {connector : Connector σ κ} {pool left : Pool κ} {taken : Taken κ}
    {before after : σ} (come : (take connector pool).run before = ((taken, left), after)) :
    Hands connector pool before taken left after := by
  have hands := hands_take connector pool before
  rw [come] at hands
  exact hands

/-! ### Sessions that are given back -/

/-- Giving a session back keeps all sessions. -/
theorem giveBack_perm [DecidableEq κ] (pool : Pool κ) (key : κ) :
    List.Perm ((pool.giveBack key).idle ++ (pool.giveBack key).held) (pool.idle ++ pool.held) := by
  unfold giveBack
  dsimp only
  rw [List.append_assoc]
  exact (List.filter_append_perm _ _).append_left _

end Pool

end OracleSql
