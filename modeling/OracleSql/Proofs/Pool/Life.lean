/-
This file says how a pool is used. It is asked for sessions and gets them back, in any order;
between these calls anything may happen to the sessions and to the time. A log notes when a session
was handed out and when it was given back. What is relied on is said by `Onward` and `Lawful`: time
does not run backwards, a session that was invalidated stays invalidated, no key is given twice, and
a transaction that was rolled back is over.
-/

import OracleSql.Proofs.Pool.Taking

namespace OracleSql

variable {σ κ : Type}

/-! ### The world around a pool -/

namespace Connector

variable (connector : Connector σ κ) (known : σ → κ → Prop)

/-- A later world, where `known` are the keys that were given. -/
structure Onward (before after : σ) : Prop where
  clock : connector.now before ≤ connector.now after
  given {key : κ} : known before key → known after key
  marked {key : κ} : (connector.connection key).isValid before = false →
    (connector.connection key).isValid after = false

/-- What is relied on of a connector and its connections. -/
structure Lawful : Prop where
  connect_onward (target : ConnectTarget) (before : σ) :
    connector.Onward known before ((connector.connect target).perform before).2
  connect_new {target : ConnectTarget} {key : κ} {before after : σ}
    (connected : (connector.connect target).perform before = (.ok key, after)) :
    ¬ known before key ∧ known after key
  ping_onward (key : κ) (before : σ) :
    connector.Onward known before ((connector.ping key).perform before).2
  rollback_onward (key : κ) (before : σ) :
    connector.Onward known before ((connector.connection key).rollback before).arrived
  rollback_closes {key : κ} {before : σ}
    (answered : ((connector.connection key).rollback before).answer = .ok ()) :
    (connector.connection key).inTransaction ((connector.connection key).rollback before).arrived =
      false

variable {connector known} {first before middle after : σ}

namespace Onward

theorem refl (world : σ) : connector.Onward known world world :=
  ⟨Nat.le_refl _, id, id⟩

theorem trans (early : connector.Onward known before middle)
    (late : connector.Onward known middle after) : connector.Onward known before after :=
  ⟨Nat.le_trans early.clock late.clock, fun member => late.given (early.given member),
    fun mark => late.marked (early.marked mark)⟩

/-- Parts in a row lead onward if each of them does. -/
theorem perform_bind {α β : Type} {part : Session σ α} {next : α → Session σ β}
    (each : ∀ before, connector.Onward known before (part.perform before).2)
    (rest : ∀ result before, connector.Onward known before ((next result).perform before).2)
    (before : σ) : connector.Onward known before ((part >>= next).perform before).2 := by
  have early := each before
  rw [Session.perform_bind]
  generalize part.perform before = come at early ⊢
  obtain ⟨outcome, middle⟩ := come
  cases outcome with
  | ok result => exact early.trans (rest result middle)
  | error error => exact early

end Onward

end Connector

namespace Pool

open Connector

variable {connector : Connector σ κ} {known : σ → κ → Prop}

theorem recycle_onward (lawful : connector.Lawful known) (settings : PoolSettings)
    (session : PooledSession κ) (before : σ) :
    connector.Onward known before ((recycle connector settings session).perform before).2 := by
  unfold recycle
  refine Onward.perform_bind (fun world => .refl world) (fun valid before => ?_) before
  cases valid with
  | false => exact .refl before
  | true =>
    refine Onward.perform_bind (fun world => .refl world) (fun now before => ?_) before
    dsimp only
    split
    · exact .refl before
    · refine Onward.perform_bind (fun world => .refl world) (fun left before => ?_) before
      cases left with
      | false => exact lawful.ping_onward session.key before
      | true =>
        exact Onward.perform_bind (lawful.rollback_onward session.key)
          (fun _ => lawful.ping_onward session.key) before

theorem Examined.onward (lawful : connector.Lawful known) {settings : PoolSettings}
    {waiting left : List (PooledSession κ)} {found : Option (PooledSession κ)} {before after : σ}
    (examined : Examined connector settings waiting before found left after) :
    connector.Onward known before after := by
  induction examined with
  | exhausted => exact .refl _
  | @ready session _ before _ made =>
    have onward := recycle_onward lawful settings session before
    rwa [made] at onward
  | @discarded session _ _ _ before _ _ _ failed _ others =>
    have onward := recycle_onward lawful settings session before
    rw [failed] at onward
    exact onward.trans others

theorem Hands.onward (lawful : connector.Lawful known) {pool left : Pool κ} {taken : Taken κ}
    {before after : σ} (hands : Hands connector pool before taken left after) :
    connector.Onward known before after := by
  have connected {asked : σ} {outcome : Except Error κ}
      (made : (connector.connect pool.target).perform asked = (outcome, after)) :
      connector.Onward known asked after := by
    have onward := lawful.connect_onward pool.target asked
    rwa [made] at onward
  cases hands with
  | refused full => exact .refl _
  | reused room examined => exact examined.onward lawful
  | opened room examined made => exact (examined.onward lawful).trans (connected made)
  | failed examined made => exact (examined.onward lawful).trans (connected made)

end Pool

/-! ### The life of a pool -/

/-- What is noted of the use of a pool. -/
inductive PoolEvent (κ : Type) where
  | handed (key : κ) (time : Tick)
  | returned (key : κ) (time : Tick)
  deriving DecidableEq

/-- The key that an event is about. -/
def PoolEvent.key : PoolEvent κ → κ
  | handed key _ => key
  | returned key _ => key

/-- What is noted when a pool was asked. -/
def Taken.events (time : Tick) : Taken κ → List (PoolEvent κ)
  | session key => [.handed key time]
  | failed _ => []
  | blocked => []

namespace Pool

/-- A refusal is not noted. -/
theorem events_refused (settings : PoolSettings) (time : Tick) :
    (refused settings : Taken κ).events time = [] := by
  unfold refused
  split <;> rfl

variable [DecidableEq κ]

/-- A pool that is used: it starts in a world, and after what the log notes it stands as given, in
another world. -/
inductive Lives (connector : Connector σ κ) (known : σ → κ → Prop) (first : Pool κ) (start : σ) :
    List (PoolEvent κ) → Pool κ → σ → Prop where
  | started : Lives connector known first start [] first start
  /-- Sessions are used or invalidated, and time passes. -/
  | elsewhere {log : List (PoolEvent κ)} {pool : Pool κ} {world later : σ}
    (lives : Lives connector known first start log pool world)
    (onward : connector.Onward known world later) :
    Lives connector known first start log pool later
  | asked {log : List (PoolEvent κ)} {pool left : Pool κ} {world after : σ} {taken : Taken κ}
    (lives : Lives connector known first start log pool world)
    (come : (pool.take connector).run world = ((taken, left), after)) :
    Lives connector known first start (log ++ taken.events (connector.now after)) left after
  | returned {log : List (PoolEvent κ)} {pool : Pool κ} {world : σ}
    (lives : Lives connector known first start log pool world) {key : κ}
    (held : key ∈ pool.held.map PooledSession.key) :
    Lives connector known first start (log ++ [.returned key (connector.now world)])
      (pool.giveBack key) world

namespace Lives

variable {connector : Connector σ κ} {known : σ → κ → Prop} {first pool later : Pool κ}
  {start world after : σ} {log further : List (PoolEvent κ)}

/-- A life goes on. -/
theorem trans (lives : Lives connector known first start log pool world)
    (goesOn : Lives connector known pool world further later after) :
    Lives connector known first start (log ++ further) later after := by
  induction goesOn with
  | started => rwa [List.append_nil]
  | elsewhere _ onward inductionHypothesis => exact .elsewhere inductionHypothesis onward
  | asked _ come inductionHypothesis =>
    rw [← List.append_assoc]
    exact .asked inductionHypothesis come
  | returned _ held inductionHypothesis =>
    rw [← List.append_assoc]
    exact .returned inductionHypothesis held

theorem onward (lives : Lives connector known first start log pool world)
    (lawful : connector.Lawful known) : connector.Onward known start world := by
  induction lives with
  | started => exact .refl _
  | elsewhere _ onward inductionHypothesis => exact inductionHypothesis.trans onward
  | asked _ come inductionHypothesis =>
    exact inductionHypothesis.trans ((hands_of_take come).onward lawful)
  | returned _ _ inductionHypothesis => exact inductionHypothesis

/-- The settings and the target stay. -/
theorem settings_eq (lives : Lives connector known first start log pool world) :
    pool.settings = first.settings ∧ pool.target = first.target := by
  induction lives with
  | started => exact ⟨rfl, rfl⟩
  | elsewhere _ _ inductionHypothesis => exact inductionHypothesis
  | asked _ come inductionHypothesis =>
    cases hands_of_take come <;> exact inductionHypothesis
  | returned _ _ inductionHypothesis => exact inductionHypothesis

end Lives

end Pool

end OracleSql
