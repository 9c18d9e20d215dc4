/-
This file says how many sessions a pool has. There are never more than may be open. How many wait is
not bounded by itself: all sessions that are given back wait, so that as many may come to wait as
are open. A pool stays within a limit on waiting sessions, whatever is given back to it, exactly
while no more than that are open, and all its lives stay within `maxIdle` only if this is `maxOpen`.

Each step is looked at once, by `Hands.size_le`: a pool grows only by a session that is opened, and
then none waits. `fill` and `drain` lead to a pool in which all sessions wait.
-/

import OracleSql.Proofs.Pool.Rehearsed

namespace OracleSql

variable {σ κ : Type}

/-- Whether a session is given back. -/
def PoolEvent.isReturn : PoolEvent κ → Bool
  | handed _ _ => false
  | returned _ _ => true

/-- In accepted settings no more sessions are meant to wait than may be open. -/
theorem PoolSettings.maxIdle_le_maxOpen {settings : PoolSettings} (valid : settings.fault? = none) :
    settings.maxIdle ≤ settings.maxOpen := by
  unfold fault? at valid
  split at valid
  · cases valid
  · split at valid
    · cases valid
    · next within => exact Nat.le_of_not_lt within

namespace Pool

variable {connector : Connector σ κ} {pool left : Pool κ} {world after : σ} {taken : Taken κ}

/-! ### Steps -/

/-- A pool grows only when a session is opened, which may be while fewer are in use than may be
open. Then none waits. -/
theorem Hands.size_le (hands : Hands connector pool world taken left after) :
    left.size ≤ pool.size ∨
      left.idle = [] ∧ left.held.length = pool.held.length + 1 ∧
        pool.held.length < pool.settings.maxOpen := by
  cases hands with
  | refused full => exact .inl (Nat.le_refl _)
  | reused room examined =>
    have fewer := examined.sublist.length_le
    simp only [Option.toList_some, List.singleton_append, List.length_cons] at fewer
    refine .inl ?_
    simp only [size, List.length_cons]
    omega
  | opened room examined connected => exact .inr ⟨examined.left_eq_nil, rfl, room⟩
  | failed examined failed =>
    have fewer := examined.sublist.length_le
    exact .inl (Nat.add_le_add_right fewer _)

/-- A pool does not grow when nothing is handed out. -/
theorem Hands.size_le_of_unhanded (hands : Hands connector pool world taken left after)
    (unhanded : ∀ event ∈ taken.events (connector.now after), event.isReturn = true) :
    left.size ≤ pool.size := by
  cases hands with
  | refused full => exact Nat.le_refl _
  | reused room examined => cases unhanded _ List.mem_cons_self
  | opened room examined connected => cases unhanded _ List.mem_cons_self
  | failed examined failed => exact Nat.add_le_add_right examined.sublist.length_le _

variable [DecidableEq κ]

theorem size_giveBack (pool : Pool κ) (key : κ) : (pool.giveBack key).size = pool.size := by
  have same := (pool.giveBack_perm key).length_eq
  rwa [List.length_append, List.length_append] at same

/-! ### Lives -/

namespace Lives

variable {known : σ → κ → Prop} {first : Pool κ} {start : σ} {log : List (PoolEvent κ)}

/-- No more sessions are open than may be. -/
theorem size_le_maxOpen (lives : Lives connector known first start log pool world)
    (few : first.size ≤ first.settings.maxOpen) : pool.size ≤ first.settings.maxOpen := by
  induction lives with
  | started => exact few
  | elsewhere _ _ inductionHypothesis => exact inductionHypothesis
  | asked lives come inductionHypothesis =>
    obtain same | ⟨none, more, room⟩ := (hands_of_take come).size_le
    · exact Nat.le_trans same inductionHypothesis
    · rw [lives.settings_eq.1] at room
      rw [size, none, more, List.length_nil, Nat.zero_add]
      exact room
  | returned _ _ inductionHypothesis =>
    rw [size_giveBack]
    exact inductionHypothesis

/-- While sessions are only given back the pool does not grow. -/
theorem size_le_of_returns (lives : Lives connector known first start log pool world)
    (returns : ∀ event ∈ log, event.isReturn = true) : pool.size ≤ first.size := by
  induction lives with
  | started => exact Nat.le_refl _
  | elsewhere _ _ inductionHypothesis => exact inductionHypothesis returns
  | asked _ come inductionHypothesis =>
    obtain ⟨before, unhanded⟩ := List.forall_mem_append.mp returns
    exact Nat.le_trans ((hands_of_take come).size_le_of_unhanded unhanded)
      (inductionHypothesis before)
  | returned _ _ inductionHypothesis =>
    rw [size_giveBack]
    exact inductionHypothesis (List.forall_mem_append.mp returns).1

end Lives

/-! ### Pools in which all sessions wait -/

/-- All sessions that are in use may be given back one after the other, and then all wait. -/
theorem drain (connector : Connector σ κ) (known : σ → κ → Prop) (pool : Pool κ) (world : σ) :
    ∃ log left, Lives connector known pool world log left world ∧
      (∀ event ∈ log, event.isReturn = true) ∧ left.idle.length = pool.size := by
  rcases held : pool.held with _ | ⟨session, rest⟩
  · refine ⟨[], pool, .started, List.forall_mem_nil _, ?_⟩
    rw [size, held]
    rfl
  · have inUse : session ∈ pool.held := held ▸ List.mem_cons_self
    have fewer : (pool.giveBack session.key).held.length < pool.held.length := by
      refine List.length_filter_lt_length_iff_exists.mpr ⟨session, inUse, ?_⟩
      simp
    obtain ⟨log, left, lives, returns, waiting⟩ :=
      drain connector known (pool.giveBack session.key) world
    have returned : Lives connector known pool world
        [.returned session.key (connector.now world)] (pool.giveBack session.key) world :=
      .returned .started (List.mem_map_of_mem inUse)
    refine ⟨_, left, returned.trans lives, List.forall_mem_cons.mpr ⟨rfl, returns⟩, ?_⟩
    rw [waiting, size_giveBack]
termination_by pool.held.length

omit [DecidableEq κ] in
/-- While sessions can be opened, a pool in which none waits can hand out one more. -/
theorem take_of_empty {pool : Pool κ} {world after : σ} {key : κ} (none : pool.idle = [])
    (room : pool.held.length < pool.settings.maxOpen)
    (connected : (connector.connect pool.target).perform world = (.ok key, after)) :
    ∃ left, (pool.take connector).run world = ((.session key, left), after) ∧ left.idle = [] ∧
      left.held.length = pool.held.length + 1 := by
  rcases come : (pool.take connector).run world with ⟨⟨taken, left⟩, later⟩
  obtain ⟨target, settings, idle, held⟩ := pool
  cases none
  cases hands_of_take come with
  | refused full => exact absurd room (Nat.not_lt.mpr full)
  | reused room examined => cases examined
  | opened room examined opened =>
    cases examined
    cases connected.symm.trans opened
    exact ⟨_, rfl, rfl, rfl⟩
  | failed examined failed =>
    cases examined
    cases connected.symm.trans failed

/-- While sessions can be opened, as many can be in use as may be open. -/
theorem fill (known : σ → κ → Prop) {target : ConnectTarget} {settings : PoolSettings} {start : σ}
    {willing : σ → Prop} (first : willing start)
    (opens : ∀ world, willing world →
      ∃ key after, (connector.connect target).perform world = (.ok key, after) ∧ willing after)
    (count : Nat) (few : count ≤ settings.maxOpen) :
    ∃ log pool world, Lives connector known { target, settings } start log pool world ∧
      willing world ∧ pool.idle = [] ∧ pool.held.length = count := by
  induction count with
  | zero => exact ⟨[], _, start, .started, first, rfl, rfl⟩
  | succ count inductionHypothesis =>
    obtain ⟨log, pool, world, lives, still, none, same⟩ :=
      inductionHypothesis (Nat.le_of_succ_le few)
    obtain ⟨sameSettings, sameTarget⟩ := lives.settings_eq
    obtain ⟨key, after, connected, later⟩ := opens world still
    have room : pool.held.length < pool.settings.maxOpen := by
      rw [same, sameSettings]
      exact few
    rw [← show pool.target = target from sameTarget] at connected
    obtain ⟨left, come, none, more⟩ := take_of_empty none room connected
    exact ⟨_, left, after, .asked lives come, later, none, more.trans (congrArg _ same)⟩

/-! ### The bound -/

/-- **Waiting sessions are bounded by the open ones only.** A pool that started without sessions
never has more of them than may be open. From where it stands, no more than `maxIdle` sessions wait
whatever is given back exactly if no more than that are open. And while sessions can be opened, all
lives of the pool keep no more than that waiting exactly if `maxIdle` is `maxOpen`. -/
theorem idle_bounded_iff {connector : Connector σ κ} {known : σ → κ → Prop} {target : ConnectTarget}
    {settings : PoolSettings} (valid : settings.fault? = none) {start : σ} {willing : σ → Prop}
    (first : willing start)
    (opens : ∀ world, willing world →
      ∃ key after, (connector.connect target).perform world = (.ok key, after) ∧ willing after) :
    (∀ log pool world, Lives connector known { target, settings } start log pool world →
      pool.size ≤ settings.maxOpen ∧
      ((∀ further left later, Lives connector known pool world further left later →
          (∀ event ∈ further, event.isReturn = true) → left.idle.length ≤ settings.maxIdle) ↔
        pool.size ≤ settings.maxIdle)) ∧
    ((∀ log pool world, Lives connector known { target, settings } start log pool world →
        pool.idle.length ≤ settings.maxIdle) ↔
      settings.maxIdle = settings.maxOpen) := by
  have bounded {log : List (PoolEvent κ)} {pool : Pool κ} {world : σ}
      (lives : Lives connector known { target, settings } start log pool world) :
      pool.size ≤ settings.maxOpen :=
    lives.size_le_maxOpen (Nat.zero_le _)
  have waits (pool : Pool κ) : pool.idle.length ≤ pool.size := Nat.le_add_right _ _
  refine ⟨fun log pool world lives => ⟨bounded lives, fun keeps => ?_, ?_⟩, fun keeps => ?_, ?_⟩
  · obtain ⟨further, left, goesOn, returns, all⟩ := drain connector known pool world
    exact all ▸ keeps further left world goesOn returns
  · intro few further left later goesOn returns
    exact Nat.le_trans (waits left) (Nat.le_trans (goesOn.size_le_of_returns returns) few)
  · refine Nat.le_antisymm (PoolSettings.maxIdle_le_maxOpen valid) ?_
    obtain ⟨log, pool, world, lives, _, none, full⟩ :=
      fill known first opens settings.maxOpen (Nat.le_refl _)
    obtain ⟨further, left, goesOn, _, all⟩ := drain connector known pool world
    have kept := keeps _ left world (lives.trans goesOn)
    rwa [all, size, none, full, List.length_nil, Nat.zero_add] at kept
  · intro same log pool world lives
    exact same ▸ Nat.le_trans (waits pool) (bounded lives)

/-- Where both limits are the same, no more than that wait. -/
theorem idle_bounded_iff_same_limits :
    let connector := Rehearsal.connector
    let settings : PoolSettings := { maxOpen := 2, maxIdle := 2 }
    let willing := fun (world : Rehearsal) => world.refusal = none
    settings.fault? = none ∧ willing {} ∧
      (∀ world, willing world → ∃ key after,
        (connector.connect {}).perform world = (.ok key, after) ∧ willing after) ∧
      ∀ log pool world,
        Lives connector Rehearsal.Opened { target := {}, settings } {} log pool world →
          pool.idle.length ≤ 2 := by
  intro connector settings willing
  have opens (world : Rehearsal) (first : willing world) : ∃ key after,
      (connector.connect {}).perform world = (.ok key, after) ∧ willing after := by
    have connected := Rehearsal.perform_connect {} world
    rw [show world.refusal = none from first] at connected
    exact ⟨_, _, connected, first⟩
  have start : willing {} := rfl
  exact ⟨rfl, start, opens, (idle_bounded_iff rfl start opens).2.mpr rfl⟩

/-- **More sessions wait than are meant to.** Two sessions are handed out and given back to a pool
in which one is meant to stay open after use. Both wait. -/
theorem more_idle_than_meant :
    let settings : PoolSettings := { maxOpen := 2, maxIdle := 1 }
    settings.fault? = none ∧ ∃ pool world,
      Lives Rehearsal.connector Rehearsal.Opened { target := {}, settings } {}
        [.handed 0 0, .handed 1 0, .returned 0 0, .returned 1 0] pool world ∧
      settings.maxIdle < pool.idle.length := by
  intro settings
  have handed : Lives Rehearsal.connector Rehearsal.Opened { target := {}, settings } {}
      [.handed 0 0, .handed 1 0]
      { target := {}, settings, held := [⟨1, 0, 0⟩, ⟨0, 0, 0⟩] }
      { calls := [.connect 1 {}, .connect 0 {}], sessions := [{}, {}] } :=
    .asked (.asked .started rfl) rfl
  have returned := Lives.returned (.returned handed (List.mem_cons_of_mem _ List.mem_cons_self))
    List.mem_cons_self
  exact ⟨rfl, _, _, returned, by decide⟩

end Pool

end OracleSql
