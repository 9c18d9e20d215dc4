/-
This file says which sessions a pool hands out. A session is new, or it was given back and is still
good when it is examined: it was not invalidated, it is neither too old nor was idle for too long,
no transaction is open, and then it answers a ping. So a session that was invalidated once is not
handed out again.

What a pool holds about its sessions is compared with what was noted of them. `Kept` is the
invariant: a session is in one place only, it was opened when it was first handed out, and the last
that was noted of one that waits is that it was given back.
-/

import OracleSql.Proofs.Pool.Rehearsed

namespace OracleSql

variable {σ κ : Type} [DecidableEq κ]

/-! ### What is noted of a session -/

/-- The events that are about a key. -/
def PoolEvent.story (key : κ) (log : List (PoolEvent κ)) : List (PoolEvent κ) :=
  log.filter fun event => event.key == key

namespace PoolEvent

variable {key : κ} {log : List (PoolEvent κ)}

/-- Nothing was noted of a key that no event is about. -/
theorem story_eq_nil (unknown : ∀ event ∈ log, event.key ≠ key) : story key log = [] := by
  rw [story, List.filter_eq_nil_iff]
  intro event member same
  exact unknown event member (beq_iff_eq.mp same)

theorem story_append (log further : List (PoolEvent κ)) :
    story key (log ++ further) = story key log ++ story key further :=
  List.filter_append _ _

theorem story_append_self (event : PoolEvent κ) (same : event.key = key) :
    story key (log ++ [event]) = story key log ++ [event] := by
  have noted : story key [event] = [event] :=
    List.filter_eq_self.mpr (List.forall_mem_singleton.mpr (beq_iff_eq.mpr same))
  rw [story_append, noted]

theorem story_append_other (event : PoolEvent κ) (other : event.key ≠ key) :
    story key (log ++ [event]) = story key log := by
  rw [story_append, story_eq_nil (List.forall_mem_singleton.mpr other), List.append_nil]

/-- The first event stays the first one. -/
theorem head?_story_append {event : PoolEvent κ} (first : (story key log).head? = some event)
    (further : List (PoolEvent κ)) : (story key (log ++ further)).head? = some event := by
  rw [story_append, List.head?_append, first]
  rfl

theorem mem_of_head?_story {event : PoolEvent κ} (first : (story key log).head? = some event) :
    event ∈ log :=
  (List.mem_filter.mp (List.mem_of_mem_head? first)).1

end PoolEvent

namespace Pool

open Connector PoolEvent

/-! ### The invariant -/

/-- The keys of some sessions. -/
def keys (sessions : List (PooledSession κ)) : List κ :=
  sessions.map PooledSession.key

/-- What a pool knows about its sessions agrees with what was noted. -/
structure Kept (connector : Connector σ κ) (known : σ → κ → Prop) (log : List (PoolEvent κ))
    (pool : Pool κ) (world : σ) : Prop where
  distinct : (keys (pool.idle ++ pool.held)).Nodup
  known : ∀ event ∈ log, known world event.key
  opened : ∀ session ∈ pool.idle ++ pool.held,
    (story session.key log).head? = some (.handed session.key session.opened)
  waiting : ∀ session ∈ pool.idle, ∃ given, session.taken ≤ given ∧
    (story session.key log).getLast? = some (.returned session.key given)
  past : ∀ session ∈ pool.idle ++ pool.held, session.taken ≤ connector.now world

namespace Kept

variable {connector : Connector σ κ} {known : σ → κ → Prop} {pool left : Pool κ} {world after : σ}
  {log : List (PoolEvent κ)}

theorem onward (kept : Kept connector known log pool world)
    (onward : connector.Onward known world after) : Kept connector known log pool after where
  distinct := kept.distinct
  known event member := onward.given (kept.known event member)
  opened := kept.opened
  waiting := kept.waiting
  past session member := Nat.le_trans (kept.past session member) onward.clock

/-- The keys of the sessions are known. -/
theorem known_of_mem (kept : Kept connector known log pool world) {session : PooledSession κ}
    (member : session ∈ pool.idle ++ pool.held) : known world session.key :=
  kept.known _ (mem_of_head?_story (kept.opened session member))

/-- Sessions that wait may be discarded. -/
theorem discard (kept : Kept connector known log pool world) {idle : List (PooledSession κ)}
    (sublist : List.Sublist idle pool.idle) :
    Kept connector known log { pool with idle } world := by
  have fewer : List.Sublist (idle ++ pool.held) (pool.idle ++ pool.held) :=
    sublist.append (List.Sublist.refl _)
  exact {
    distinct := (fewer.map PooledSession.key).nodup kept.distinct
    known := kept.known
    opened := fun session member => kept.opened session (fewer.subset member)
    waiting := fun session member => kept.waiting session (sublist.subset member)
    past := fun session member => kept.past session (fewer.subset member) }

/-- The session that has waited longest is handed out. -/
theorem reuse {session : PooledSession κ} {rest : List (PooledSession κ)}
    (kept : Kept connector known log { pool with idle := session :: rest } world) :
    Kept connector known (log ++ [.handed session.key (connector.now world)])
      { pool with
        idle := rest
        held := { session with taken := connector.now world } :: pool.held } world := by
  have ⟨distinct, knows, opened, waiting, past⟩ := kept
  have apart : session.key ∉ keys (rest ++ pool.held) := (List.nodup_cons.mp distinct).1
  constructor
  · show (keys (rest ++ _ :: pool.held)).Nodup
    rw [keys, (List.perm_middle.map PooledSession.key).nodup_iff]
    exact distinct
  · refine List.forall_mem_append.mpr ⟨knows, List.forall_mem_singleton.mpr ?_⟩
    exact kept.known_of_mem List.mem_cons_self
  · have all : ∀ other ∈ session :: (rest ++ pool.held), (story other.key
        (log ++ [.handed session.key (connector.now world)])).head? =
          some (.handed other.key other.opened) :=
      fun other member => head?_story_append (opened other member) _
    rw [List.forall_mem_cons] at all
    refine fun other member => ?_
    rcases List.mem_cons.mp (List.perm_middle.mem_iff.mp member) with rfl | member
    · exact all.1
    · exact all.2 other member
  · -- No other session that waits has its key, so what was noted of them last is the same.
    intro other member
    have different : session.key ≠ other.key := fun same =>
      apart (List.mem_map.mpr ⟨other, List.mem_append_left _ member, same.symm⟩)
    obtain ⟨given, order, last⟩ := waiting other (List.mem_cons_of_mem _ member)
    refine ⟨given, order, ?_⟩
    rwa [story_append_other (.handed session.key _) different]
  · refine fun other member => ?_
    rcases List.mem_cons.mp (List.perm_middle.mem_iff.mp member) with rfl | member
    · exact Nat.le_refl _
    · exact past other (List.mem_cons_of_mem _ member)

/-- A session with a new key is handed out. -/
theorem enter {key : κ} (kept : Kept connector known log { pool with idle := [] } world)
    (unknown : ∀ event ∈ log, event.key ≠ key) (issued : known world key) :
    Kept connector known (log ++ [.handed key (connector.now world)])
      { pool with
        idle := []
        held := ⟨key, connector.now world, connector.now world⟩ :: pool.held } world := by
  have ⟨distinct, knows, opened, _, past⟩ := kept
  have apart : key ∉ keys pool.held := by
    intro member
    obtain ⟨session, held, same⟩ := List.mem_map.mp member
    exact unknown _ (mem_of_head?_story (opened session held)) same
  constructor
  · exact List.nodup_cons.mpr ⟨apart, distinct⟩
  · exact List.forall_mem_append.mpr ⟨knows, List.forall_mem_singleton.mpr issued⟩
  · refine List.forall_mem_cons.mpr ⟨?_, ?_⟩
    · have only : story key (log ++ [.handed key (connector.now world)]) = _ :=
        story_append_self _ rfl
      rw [only, story_eq_nil unknown]
      rfl
    · exact fun session member => head?_story_append (opened session member) _
  · exact List.forall_mem_nil _
  · exact List.forall_mem_cons.mpr ⟨Nat.le_refl _, past⟩

theorem take (lawful : connector.Lawful known) (kept : Kept connector known log pool world)
    {taken : Taken κ} (hands : Hands connector pool world taken left after) :
    Kept connector known (log ++ taken.events (connector.now after)) left after := by
  have later := kept.onward (hands.onward lawful)
  cases hands with
  | refused full =>
    rw [events_refused, List.append_nil]
    exact kept
  | reused room examined => exact (later.discard examined.sublist).reuse
  | opened room examined connected =>
    obtain ⟨new, issued⟩ := lawful.connect_new connected
    rw [examined.left_eq_nil]
    refine (later.discard (List.nil_sublist _)).enter (fun event member same => new ?_) issued
    exact same ▸ (examined.onward lawful).given (kept.known event member)
  | failed examined connected =>
    rw [Taken.events, List.append_nil]
    exact later.discard examined.sublist

theorem giveBack (kept : Kept connector known log pool world) {key : κ}
    (held : key ∈ keys pool.held) :
    Kept connector known (log ++ [.returned key (connector.now world)]) (pool.giveBack key)
      world := by
  have same := pool.giveBack_perm key
  constructor
  · rw [keys, (same.map PooledSession.key).nodup_iff]
    exact kept.distinct
  · refine List.forall_mem_append.mpr ⟨kept.known, List.forall_mem_singleton.mpr ?_⟩
    obtain ⟨session, member, rfl⟩ := List.mem_map.mp held
    exact kept.known_of_mem (List.mem_append_right _ member)
  · exact fun session member => head?_story_append (kept.opened session (same.mem_iff.mp member)) _
  · intro session member
    by_cases meant : session.key = key
    · refine ⟨connector.now world, ?_, ?_⟩
      · exact kept.past session (same.mem_iff.mp (List.mem_append_left _ member))
      · rw [story_append_self (.returned key _) meant.symm, List.getLast?_concat, meant]
    · have waited : session ∈ pool.idle := by
        refine (List.mem_append.mp member).resolve_right fun moved => meant ?_
        exact beq_iff_eq.mp (List.mem_filter.mp moved).2
      obtain ⟨given, order, last⟩ := kept.waiting session waited
      refine ⟨given, order, ?_⟩
      rwa [story_append_other (.returned key _) (Ne.symm meant)]
  · exact fun session member => kept.past session (same.mem_iff.mp member)

end Kept

/-- Whatever happens to a pool that starts without sessions, it knows them as they were noted. -/
theorem Lives.kept {connector : Connector σ κ} {known : σ → κ → Prop}
    (lawful : connector.Lawful known) {target : ConnectTarget} {settings : PoolSettings}
    {pool : Pool κ} {start world : σ} {log : List (PoolEvent κ)}
    (lives : Lives connector known { target, settings } start log pool world) :
    Kept connector known log pool world := by
  induction lives with
  | started =>
    exact ⟨List.nodup_nil, List.forall_mem_nil _, List.forall_mem_nil _, List.forall_mem_nil _,
      List.forall_mem_nil _⟩
  | elsewhere _ onward inductionHypothesis => exact inductionHypothesis.onward onward
  | asked _ come inductionHypothesis => exact inductionHypothesis.take lawful (hands_of_take come)
  | returned _ held inductionHypothesis => exact inductionHypothesis.giveBack held

/-! ### What is handed out -/

/-- A session that was opened just now, and was not handed out before. -/
structure HandedNew (connector : Connector σ κ) (target : ConnectTarget) (log : List (PoolEvent κ))
    (key : κ) (asked handed : σ) : Prop where
  connected : (connector.connect target).perform asked = (.ok key, handed)
  unknown : ∀ event ∈ log, event.key ≠ key

/-- A session that was opened at one time, given back at another and not handed out since, and is
still good when it is `examined`. Once nothing is left of a transaction it is `cleared`, and then it
answers a ping. -/
structure HandedAgain (connector : Connector σ κ) (settings : PoolSettings)
    (log : List (PoolEvent κ)) (key : κ) (birth given : Tick) (examined cleared handed : σ) :
    Prop where
  opened : (story key log).head? = some (.handed key birth)
  returned : (story key log).getLast? = some (.returned key given)
  valid : (connector.connection key).isValid examined = true
  young : ∀ longest ∈ settings.maxLifetime, connector.now examined ≤ birth + longest.nanoseconds
  rested : ∀ longest ∈ settings.maxIdleTime, connector.now examined ≤ given + longest.nanoseconds
  clears : (connector.connection key).Clears examined cleared
  closed : (connector.connection key).inTransaction cleared = false
  answers : (connector.ping key).perform cleared = (.ok (), handed)

omit [DecidableEq κ] in
/-- A session that is not stale is neither too old nor was idle for too long. -/
theorem bounded_of_staleness? {settings : PoolSettings} {now : Tick} {session : PooledSession κ}
    (fresh : staleness? settings now session = none) :
    (∀ longest ∈ settings.maxLifetime, now ≤ session.opened + longest.nanoseconds) ∧
      ∀ longest ∈ settings.maxIdleTime, now ≤ session.taken + longest.nanoseconds := by
  have bounded {limit : Option Duration} {since : Tick} (within : ¬ exceeds limit (now - since)) :
      ∀ longest ∈ limit, now ≤ since + longest.nanoseconds := by
    rintro longest rfl
    have passed : ¬ longest.nanoseconds < now - since := fun later => within (decide_eq_true later)
    exact Nat.sub_le_iff_le_add'.mp (Nat.not_lt.mp passed)
  unfold staleness? at fresh
  split at fresh
  · cases fresh
  · next young =>
    split at fresh
    · cases fresh
    · next rested => exact ⟨bounded young, bounded rested⟩

omit [DecidableEq κ] in
/-- What is handed out after it waited was found good. -/
theorem Examined.recycled {connector : Connector σ κ} {known : σ → κ → Prop}
    (lawful : connector.Lawful known) {settings : PoolSettings}
    {waiting left : List (PooledSession κ)} {session : PooledSession κ} {before handed : σ}
    (examined : Examined connector settings waiting before (some session) left handed) :
    ∃ examined cleared, connector.Onward known before examined ∧
      Recycled connector settings session examined cleared handed := by
  generalize found : some session = ready at examined
  induction examined with
  | exhausted => cases found
  | @ready _ _ before _ made =>
    cases found
    obtain ⟨cleared, recycled⟩ := recycled_of_recycle made
    exact ⟨before, cleared, .refl before, recycled⟩
  | @discarded other _ _ _ before _ _ _ failed _ inductionHypothesis =>
    obtain ⟨examined, cleared, onward, recycled⟩ := inductionHypothesis found
    have passed := recycle_onward lawful settings other before
    rw [failed] at passed
    exact ⟨examined, cleared, passed.trans onward, recycled⟩

/-- A session that waited and was found good is handed out again. -/
theorem Kept.handedAgain {connector : Connector σ κ} {known : σ → κ → Prop}
    (lawful : connector.Lawful known) {log : List (PoolEvent κ)} {pool : Pool κ}
    {world examined cleared handed : σ} (kept : Kept connector known log pool world)
    {session : PooledSession κ} (waited : session ∈ pool.idle)
    (recycled : Recycled connector pool.settings session examined cleared handed) :
    ∃ given, HandedAgain connector pool.settings log session.key session.opened given examined
      cleared handed := by
  obtain ⟨given, order, last⟩ := kept.waiting session waited
  obtain ⟨young, rested⟩ := bounded_of_staleness? recycled.fresh
  have closed : (connector.connection session.key).inTransaction cleared = false := by
    cases recycled.clears with
    | closed none => exact none
    | rolledBack _ answered => exact lawful.rollback_closes answered
  exact ⟨given, {
    opened := kept.opened session (List.mem_append_left _ waited)
    returned := last
    valid := recycled.valid
    young
    -- It was given back after it had been taken, so it has not been idle for longer.
    rested := fun longest set => Nat.le_trans (rested longest set) (Nat.add_le_add_right order _)
    clears := recycled.clears
    closed
    answers := recycled.answers }⟩

/-- What is handed out is new, or is handed out again. -/
theorem Kept.handed {connector : Connector σ κ} {known : σ → κ → Prop}
    (lawful : connector.Lawful known) {log : List (PoolEvent κ)} {pool left : Pool κ}
    {world handed : σ} {key : κ} (kept : Kept connector known log pool world)
    (hands : Hands connector pool world (.session key) left handed) :
    (∃ asked, connector.Onward known world asked ∧
        HandedNew connector pool.target log key asked handed) ∨
      ∃ birth given examined cleared, connector.Onward known world examined ∧
        HandedAgain connector pool.settings log key birth given examined cleared handed := by
  generalize asked : Taken.session key = taken at hands
  cases hands with
  | refused full =>
    unfold refused at asked
    split at asked <;> cases asked
  | failed examined failed => cases asked
  | reused room examined =>
    cases asked
    obtain ⟨found, cleared, onward, recycled⟩ := examined.recycled lawful
    have waited := examined.sublist.subset List.mem_cons_self
    obtain ⟨given, again⟩ := kept.handedAgain lawful waited recycled
    exact .inr ⟨_, given, found, cleared, onward, again⟩
  | opened room examined connected =>
    cases asked
    have onward := examined.onward lawful
    refine .inl ⟨_, onward, connected, fun event member same => ?_⟩
    exact (lawful.connect_new connected).1 (same ▸ onward.given (kept.known event member))

/-- **A pool hands out good sessions only.** Whatever happened to a pool that started without
sessions: when it hands one out, this one is new, or it was given back, is valid, has an age and an
idle time within the limits, has no open transaction, and has answered a ping after that. At no
earlier time since its key was noted it was invalid. -/
theorem handed_session_good {connector : Connector σ κ} {known : σ → κ → Prop}
    (lawful : connector.Lawful known) {target : ConnectTarget} {settings : PoolSettings}
    {start world handed : σ} {log : List (PoolEvent κ)} {pool left : Pool κ} {key : κ}
    (lives : Lives connector known { target, settings } start log pool world)
    (come : (pool.take connector).run world = ((.session key, left), handed)) :
    ((∃ asked, connector.Onward known world asked ∧
        HandedNew connector target log key asked handed) ∨
      ∃ birth given examined cleared, connector.Onward known world examined ∧
        HandedAgain connector settings log key birth given examined cleared handed) ∧
    ∀ earlier between since further,
      Lives connector known { target, settings } start earlier between since →
      Lives connector known between since further pool world →
      key ∈ earlier.map PoolEvent.key → (connector.connection key).isValid since = true := by
  obtain ⟨sameSettings, sameTarget⟩ := lives.settings_eq
  have good := (lives.kept lawful).handed lawful (hands_of_take come)
  rw [sameSettings, sameTarget] at good
  refine ⟨good, fun earlier between since further before after member => ?_⟩
  obtain ⟨event, noted, rfl⟩ := List.mem_map.mp member
  -- A mark stays, and a key that was noted is not given again.
  refine Decidable.byContradiction fun invalid => ?_
  have marked := (after.onward lawful).marked (eq_false_of_ne_true invalid)
  obtain ⟨asked, onward, new⟩ | ⟨_, _, _, _, onward, again⟩ := good
  · have given := ((before.trans after).kept lawful).known event (List.mem_append_left _ noted)
    exact (lawful.connect_new new.connected).1 (onward.given given)
  · exact absurd again.valid (by rw [onward.marked marked]; exact Bool.false_ne_true)

/-- A session is given back with an open transaction, which is rolled back before the session is
handed out again. -/
theorem handed_session_good_rolledBack :
    let connector := Rehearsal.connector
    let settings : PoolSettings := { maxLifetime := some ⟨100⟩, maxIdleTime := some ⟨50⟩ }
    let log : List (PoolEvent Nat) := [.handed 0 0, .returned 0 10]
    let pool : Pool Nat := { target := {}, settings, idle := [⟨0, 0, 0⟩] }
    let world : Rehearsal :=
      { now := 40, calls := [.connect 0 {}], sessions := [{ inTransaction := true }] }
    connector.Lawful Rehearsal.Opened ∧
      Lives connector Rehearsal.Opened { target := {}, settings } {} log pool world ∧
      ∃ left handed, (pool.take connector).run world = ((.session 0, left), handed) ∧
        handed.history = [.connect 0 {}, .rollback, .ping 0] ∧
        ∃ birth given examined cleared,
          HandedAgain connector settings log 0 birth given examined cleared handed := by
  intro connector settings log pool world
  have lawful := Rehearsal.connector_lawful
  let opened : Rehearsal := { calls := [.connect 0 {}], sessions := [{}] }
  let used : Rehearsal := { opened with now := 10, sessions := [{ inTransaction := true }] }
  have begun : Lives connector Rehearsal.Opened { target := {}, settings } {} [.handed 0 0]
      { target := {}, settings, held := [⟨0, 0, 0⟩] } opened :=
    .asked .started rfl
  have use : connector.Onward Rehearsal.Opened opened used :=
    Rehearsal.onward_of_isValid (Nat.zero_le _) (Nat.le_refl _) fun
      | 0 => rfl
      | _ + 1 => rfl
  have wait : connector.Onward Rehearsal.Opened used world :=
    Rehearsal.onward_of_isValid (by decide) (Nat.le_refl _) fun _ => rfl
  have lives : Lives connector Rehearsal.Opened { target := {}, settings } {} log pool world :=
    .elsewhere (.returned (.elsewhere begun use) List.mem_cons_self) wait
  have come : ∃ left handed, (pool.take connector).run world = ((.session 0, left), handed) ∧
      handed.history = [.connect 0 {}, .rollback, .ping 0] := ⟨_, _, rfl, rfl⟩
  obtain ⟨left, handed, come, calls⟩ := come
  refine ⟨lawful, lives, left, handed, come, calls, ?_⟩
  obtain ⟨_, _, new⟩ | ⟨birth, given, examined, cleared, _, again⟩ :=
    (handed_session_good lawful lives come).1
  · exact absurd rfl (new.unknown (.handed 0 0) List.mem_cons_self)
  · exact ⟨birth, given, examined, cleared, again⟩

end Pool

end OracleSql
