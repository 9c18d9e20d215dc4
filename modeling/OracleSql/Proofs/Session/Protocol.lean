/-
This file shows which calls a run may make, and in which order. The calls of a run are those that
open what holds the plan together, then statements of the plan, then those that close it or take it
back; `Framed` says what each of the three parts may hold, and `Exit.framed` finds them in every
exit of a run. The protocol follows from the three parts: the statements are a first part of the
plan and stop at the first failure, a transaction of the caller is left alone, and a commit comes
last, once, and only when every statement was answered and every input row has its returned row.
-/

import Mathlib.Data.List.Basic
import OracleSql.Proofs.Session.Transcript

namespace OracleSql

variable {σ α : Type}

/-! ### Rules -/

/-- A statement is sent only after calls that succeeded, on a connection that is not marked as
unusable. -/
def Entry.Allows (earlier later : Entry) : Prop :=
  later.act.isStatement = true → earlier.isSuccess = true ∧ earlier.act ≠ .invalidate

/-- Every statement was answered, and what they returned matches the input rows. -/
def Plan.Settled (plan : Plan) (calls : List Entry) : Prop :=
  ∃ replies outcome, replies.length = plan.statements.length ∧
    calls = List.zipWith Statement.answered plan.statements replies ∧
    plan.outcome (List.zipWith Statement.gain plan.statements replies) = .ok outcome

/-! ### The parts of a run -/

/-- A statement that may be given up is sent once or not at all. -/
theorem Ended.statements_prefix {options : CallOptions} {deadline : Option Tick} {act : Act}
    {result : Reply → α} {shown : Error → Error} {outcome : Except Error α} {calls : List Entry}
    (ended : Ended options deadline act result shown outcome calls)
    (sent : act.isStatement = true) : (statementCalls calls).map Entry.act <+: [act] := by
  have unsent : Act.invalidate.isStatement = false := rfl
  cases ended <;> simp [statementCalls, Entry.invalidation, sent, unsent]

/-- A call that was made comes first, and nothing but a mark on the connection follows it. -/
theorem Ended.eq_cons_of_mem {options : CallOptions} {deadline : Option Tick} {act : Act}
    {result : Reply → α} {shown : Error → Error} {outcome : Except Error α} {calls : List Entry}
    (ended : Ended options deadline act result shown outcome calls) (other : act ≠ .invalidate)
    {ending : Ending} (member : ⟨act, ending⟩ ∈ calls) :
    ∃ rest, calls = ⟨act, ending⟩ :: rest ∧ ∀ entry ∈ rest, entry.act = .invalidate := by
  have marked (entry : Entry) (mark : entry ∈ [Entry.invalidation]) : entry.act = .invalidate := by
    rw [List.mem_singleton.mp mark]
    rfl
  cases ended with
  | succeeded reply =>
    rw [List.mem_singleton.mp member]
    exact ⟨[], rfl, List.forall_mem_nil _⟩
  | failed error =>
    rw [List.mem_singleton.mp member]
    exact ⟨[], rfl, List.forall_mem_nil _⟩
  | givenUp given =>
    rcases List.mem_cons.mp member with same | mark
    · rw [same]
      exact ⟨[.invalidation], rfl, marked⟩
    · exact absurd (marked _ mark) other
  | unsent given => exact absurd (marked _ member) other

namespace Executor

variable {executor : Executor σ} {deadline : Option Tick}

/-- A call that went well is all there is. -/
theorem Passed.success {act? : Option Act} {calls : List Entry}
    (passed : executor.Passed deadline act? (.ok ()) calls) :
    ∀ entry ∈ calls, entry.isSuccess = true ∧ some entry.act = act? := by
  cases act? with
  | none =>
    obtain ⟨_, rfl⟩ := passed
    exact List.forall_mem_nil _
  | some act =>
    cases passed with
    | succeeded reply =>
      intro entry member
      rw [List.mem_singleton.mp member]
      exact ⟨rfl, rfl⟩

namespace Ran

variable {statements : List Statement} {outcome : Except Error (List Gain)} {calls : List Entry}

theorem act_of_mem (ran : executor.Ran deadline statements outcome calls) :
    ∀ entry ∈ calls, entry.act.isStatement = true ∨ entry.act = .invalidate := by
  induction ran with
  | nil => exact List.forall_mem_nil _
  | @stopped statement _ _ _ ended =>
    intro entry member
    refine (ended.act_of_mem entry member).imp_left fun same => ?_
    rw [same]
    exact statement.isStatement_act
  | @cons statement _ _ _ reply _ inductionHypothesis =>
    intro entry member
    rcases List.mem_cons.mp member with rfl | member
    · exact .inl statement.isStatement_act
    · exact inductionHypothesis entry member

/-- The statements that were sent are a first part of all. -/
theorem statements_prefix (ran : executor.Ran deadline statements outcome calls) :
    (statementCalls calls).map Entry.act <+: statements.map Statement.act := by
  induction ran with
  | nil => exact List.prefix_refl []
  | @stopped statement rest _ _ ended =>
    have all : [statement.act] <+: (statement :: rest).map Statement.act :=
      List.prefix_append [statement.act] (rest.map Statement.act)
    exact (ended.statements_prefix statement.isStatement_act).trans all
  | @cons statement rest _ entries reply _ inductionHypothesis =>
    have first : statementCalls (statement.answered reply :: entries) =
        statement.answered reply :: statementCalls entries :=
      List.filter_cons_of_pos statement.isStatement_act
    rw [first, List.map_cons, List.map_cons]
    exact List.cons_prefix_cons.mpr ⟨rfl, inductionHypothesis⟩

/-- Nothing is sent after the first failure. -/
theorem pairwise_allows (ran : executor.Ran deadline statements outcome calls) :
    calls.Pairwise Entry.Allows := by
  induction ran with
  | nil => exact .nil
  | stopped ended =>
    cases ended with
    | failed _ => exact List.pairwise_singleton _ _
    | givenUp _ => exact List.pairwise_pair.mpr fun impossible => nomatch impossible
    | unsent _ => exact List.pairwise_singleton _ _
  | @cons statement _ _ _ reply _ inductionHypothesis =>
    refine .cons (fun later _ _ => ⟨rfl, fun marked => ?_⟩) inductionHypothesis
    have sent := statement.isStatement_act
    rw [show statement.act = .invalidate from marked] at sent
    exact Bool.false_ne_true sent

end Ran

/-! ### The three parts together -/

theorem Bracket.opening?_ne_invalidate (held : Bracket) : held.opening? ≠ some .invalidate := by
  cases held <;> nofun

/-- The calls before the statements, those for the statements and those after them. -/
structure Framed (executor : Executor σ) (deadline : Option Tick) (held : Bracket) (plan : Plan)
    (opening entries closing : List Entry) : Prop where
  opens : ∀ entry ∈ opening, some entry.act = held.opening? ∨ entry.act = .invalidate
  /-- Statements are sent only if the plan was opened. -/
  goes : entries = [] ∧ closing = [] ∨
    ∀ entry ∈ opening, entry.isSuccess = true ∧ some entry.act = held.opening?
  runs : ∃ statements outcome, statements <+: plan.statements ∧
    executor.Ran deadline statements outcome entries
  closes : (∀ entry ∈ closing, some entry.act = held.undoing?) ∨
    plan.Settled entries ∧ ∃ outcome, executor.Passed deadline held.closing? outcome closing

theorem Exit.framed {held : Bracket} {plan : Plan} {outcome : Except Error Outcome}
    {calls : List Entry} (exit : executor.Exit deadline held plan outcome calls) :
    ∃ opening entries closing, calls = opening ++ (entries ++ closing) ∧
      executor.Framed deadline held plan opening entries closing := by
  have settled {gains : List Gain} {outcome : Outcome} {entries : List Entry}
      (ran : executor.Ran deadline plan.statements (.ok gains) entries)
      (accounted : plan.outcome gains = .ok outcome) : plan.Settled entries := by
    obtain ⟨replies, length, same, gained⟩ := ran.replies
    exact ⟨replies, outcome, length, same, gained ▸ accounted⟩
  cases exit with
  | unopened opened =>
    exact ⟨_, [], [], (List.append_nil _).symm,
      { opens := opened.act_of_mem
        goes := .inl ⟨rfl, rfl⟩
        runs := ⟨[], _, List.nil_prefix, .nil⟩
        closes := .inl (List.forall_mem_nil _) }⟩
  | undone opened ran failed takenBack =>
    refine ⟨_, _, _, rfl,
      { opens := opened.act_of_mem
        goes := .inr opened.success
        runs := ⟨_, _, List.prefix_refl _, ran⟩
        closes := .inl fun entry member => ?_ }⟩
    have taken := takenBack.act_of_mem entry member
    split at taken
    · cases taken
    · exact taken
  | unclosed opened ran accounted closed =>
    exact ⟨_, _, _, rfl,
      { opens := opened.act_of_mem
        goes := .inr opened.success
        runs := ⟨_, _, List.prefix_refl _, ran⟩
        closes := .inr ⟨settled ran accounted, _, closed⟩ }⟩
  | finished opened ran accounted closed =>
    exact ⟨_, _, _, rfl,
      { opens := opened.act_of_mem
        goes := .inr opened.success
        runs := ⟨_, _, List.prefix_refl _, ran⟩
        closes := .inr ⟨settled ran accounted, _, closed⟩ }⟩

namespace Framed

variable {held : Bracket} {plan : Plan} {opening entries closing : List Entry}

theorem statement_or_invalidate
    (framed : executor.Framed deadline held plan opening entries closing) :
    ∀ entry ∈ entries, entry.act.isStatement = true ∨ entry.act = .invalidate := by
  obtain ⟨_, _, _, ran⟩ := framed.runs
  exact ran.act_of_mem

/-- Opening sends no statement, commits nothing and takes nothing back. -/
theorem opening_only (framed : executor.Framed deadline held plan opening entries closing) :
    ∀ entry ∈ opening, entry.act.isStatement = false ∧ entry.act ≠ .commit ∧
      entry.act.takesBack = false := by
  intro entry member
  rcases framed.opens entry member with opens | marked
  · cases held with
    | alone => cases opens
    | transaction =>
      rw [Option.some.inj opens]
      exact ⟨rfl, Act.noConfusion, rfl⟩
    | savepoint =>
      rw [Option.some.inj opens]
      exact ⟨rfl, Act.noConfusion, rfl⟩
  · rw [marked]
    exact ⟨rfl, Act.noConfusion, rfl⟩

/-- The statements open and end nothing. -/
theorem entries_only (framed : executor.Framed deadline held plan opening entries closing) :
    ∀ entry ∈ entries, entry.act ≠ .commit ∧ entry.act.isControl = false := by
  intro entry member
  rcases framed.statement_or_invalidate entry member with sent | marked
  · refine ⟨fun commits => ?_, ?_⟩
    · rw [commits] at sent
      exact Bool.false_ne_true sent
    · cases controls : entry.act.isControl with
      | false => rfl
      | true =>
        rw [Act.isStatement_of_isControl controls] at sent
        exact absurd sent Bool.false_ne_true
  · rw [marked]
    exact ⟨Act.noConfusion, rfl⟩

/-- Before it is closed, nothing is committed and nothing is taken back. -/
theorem before_closing (framed : executor.Framed deadline held plan opening entries closing) :
    ∀ entry ∈ opening ++ entries, entry.act ≠ .commit ∧ entry.act.takesBack = false := by
  intro entry member
  rcases List.mem_append.mp member with opens | runs
  · exact (framed.opening_only entry opens).2
  · obtain ⟨uncommitted, uncontrolled⟩ := framed.entries_only entry runs
    refine ⟨uncommitted, ?_⟩
    cases undoes : entry.act.takesBack with
    | false => rfl
    | true =>
      rw [Act.isControl_of_takesBack undoes] at uncontrolled
      exact absurd uncontrolled.symm Bool.false_ne_true

theorem closing_act (framed : executor.Framed deadline held plan opening entries closing) :
    ∀ entry ∈ closing, some entry.act = held.undoing? ∨ some entry.act = held.closing? ∨
      entry.act = .invalidate := by
  intro entry member
  rcases framed.closes with undoes | ⟨_, _, passed⟩
  · exact .inl (undoes entry member)
  · exact .inr (passed.act_of_mem entry member)

/-- Closing sends no statement. -/
theorem closing_only (framed : executor.Framed deadline held plan opening entries closing) :
    ∀ entry ∈ closing, entry.act.isStatement = false := by
  intro entry member
  rcases framed.closing_act entry member with undoes | closes | marked
  · exact Bracket.isStatement_of_call (.inr (.inr undoes))
  · exact Bracket.isStatement_of_call (.inr (.inl closes))
  · rw [marked]
    rfl

/-- The calls that open or end something are those of what holds the plan together. -/
theorem control_act (framed : executor.Framed deadline held plan opening entries closing) :
    ∀ entry ∈ opening ++ (entries ++ closing), entry.act.isControl = true →
      some entry.act = held.opening? ∨ some entry.act = held.undoing? ∨
        some entry.act = held.closing? := by
  have unmarked {entry : Entry} (controls : entry.act.isControl = true) :
      entry.act ≠ .invalidate := by
    intro marked
    rw [marked] at controls
    exact Bool.false_ne_true controls
  intro entry member controls
  rcases List.mem_append.mp member with opens | member
  · exact .inl ((framed.opens entry opens).resolve_right (unmarked controls))
  · rcases List.mem_append.mp member with runs | closes
    · rw [(framed.entries_only entry runs).2] at controls
      exact absurd controls Bool.false_ne_true
    · rcases framed.closing_act entry closes with undoes | closes | marked
      · exact .inr (.inl undoes)
      · exact .inr (.inr closes)
      · exact absurd marked (unmarked controls)

/-- If a commit is among the calls, it is the first after the statements, which are settled, and
nothing but a mark on the connection can follow. -/
theorem commit_split (framed : executor.Framed deadline held plan opening entries closing)
    {before after : List Entry} {ending : Ending}
    (split : opening ++ (entries ++ closing) = before ++ ⟨.commit, ending⟩ :: after) :
    before = opening ++ entries ∧ plan.Settled entries ∧
      ∀ entry ∈ after, entry.act = .invalidate := by
  have absent : (⟨.commit, ending⟩ : Entry) ∉ opening ++ entries := fun member =>
    (framed.before_closing _ member).1 rfl
  have closes : (⟨.commit, ending⟩ : Entry) ∈ closing := by
    have member : (⟨.commit, ending⟩ : Entry) ∈ opening ++ (entries ++ closing) := by
      rw [split]
      exact List.mem_append_right before List.mem_cons_self
    rw [← List.append_assoc] at member
    exact (List.mem_append.mp member).resolve_left absent
  rcases framed.closes with undoes | ⟨settled, outcome, passed⟩
  · have undone := undoes _ closes
    cases held <;> cases undone
  · have commits : held.closing? = some .commit := by
      cases held with
      | transaction => rfl
      | alone =>
        obtain ⟨_, rfl⟩ := passed
        exact absurd closes List.not_mem_nil
      | savepoint =>
        obtain ⟨_, rfl⟩ := passed
        exact absurd closes List.not_mem_nil
    rw [commits] at passed
    obtain ⟨rest, rfl, marks⟩ := Ended.eq_cons_of_mem passed nofun closes
    have unmarked : (⟨.commit, ending⟩ : Entry) ∉ rest := fun member => nomatch marks _ member
    rw [← List.append_assoc] at split
    obtain ⟨rfl, -, rfl⟩ := (List.append_cons_inj_of_notMem absent unmarked).mp split
    exact ⟨rfl, settled, marks⟩

/-- The statements of a run are sent in its middle part. -/
theorem statementCalls_eq (framed : executor.Framed deadline held plan opening entries closing) :
    statementCalls opening = [] ∧
      statementCalls (opening ++ (entries ++ closing)) = statementCalls entries := by
  have unsent : statementCalls opening = [] :=
    statementCalls_eq_nil fun entry member => (framed.opening_only entry member).1
  refine ⟨unsent, ?_⟩
  rw [statementCalls_append, statementCalls_append, unsent,
    statementCalls_eq_nil framed.closing_only, List.nil_append, List.append_nil]

/-- No statement is sent after a failure. -/
theorem pairwise_allows (framed : executor.Framed deadline held plan opening entries closing) :
    (opening ++ (entries ++ closing)).Pairwise Entry.Allows := by
  obtain ⟨_, _, _, ran⟩ := framed.runs
  have afterUnsent {earlier later : Entry} (unsent : later.act.isStatement = false) :
      earlier.Allows later := by
    intro sends
    rw [unsent] at sends
    exact absurd sends Bool.false_ne_true
  rw [List.pairwise_append, List.pairwise_append]
  refine ⟨List.pairwise_of_forall_mem_list fun _ _ later member => ?_,
    ⟨ran.pairwise_allows, List.pairwise_of_forall_mem_list fun _ _ later member => ?_,
      fun _ _ later member => ?_⟩, fun earlier opens later member => ?_⟩
  · exact afterUnsent (framed.opening_only later member).1
  · exact afterUnsent (framed.closing_only later member)
  · exact afterUnsent (framed.closing_only later member)
  · rcases framed.goes with ⟨rfl, rfl⟩ | opened
    · exact absurd member List.not_mem_nil
    · obtain ⟨succeeded, opens⟩ := opened earlier opens
      refine fun _ => ⟨succeeded, fun marked => ?_⟩
      rw [marked] at opens
      exact Bracket.opening?_ne_invalidate _ opens.symm

/-- There is at most one commit. -/
theorem count_commit_le_one
    (framed : executor.Framed deadline held plan opening entries closing) :
    ((opening ++ (entries ++ closing)).map Entry.act).count .commit ≤ 1 := by
  by_cases commits : Act.commit ∈ (opening ++ (entries ++ closing)).map Entry.act
  · obtain ⟨⟨act, ending⟩, member, same⟩ := List.mem_map.mp commits
    cases same
    obtain ⟨before, after, split⟩ := List.append_of_mem member
    obtain ⟨rfl, _, marks⟩ := framed.commit_split split
    have none_before : ((opening ++ entries).map Entry.act).count .commit = 0 := by
      rw [List.count_eq_zero, List.mem_map]
      rintro ⟨entry, inside, commits⟩
      exact (framed.before_closing entry inside).1 commits
    have none_after : (after.map Entry.act).count .commit = 0 := by
      rw [List.count_eq_zero, List.mem_map]
      rintro ⟨entry, inside, commits⟩
      cases (marks entry inside).symm.trans commits
    refine Nat.le_of_eq ?_
    rw [split, List.map_append, List.map_cons, List.count_append, none_before,
      List.count_cons_self, none_after]
  · rw [List.count_eq_zero.mpr commits]
    exact Nat.zero_le 1

/-- What is committed is not taken back. -/
theorem takesBack_of_commit (framed : executor.Framed deadline held plan opening entries closing)
    {entry : Entry} (member : entry ∈ opening ++ (entries ++ closing))
    (commits : entry.act = .commit) :
    ∀ other ∈ opening ++ (entries ++ closing), other.act.takesBack = false := by
  obtain ⟨act, ending⟩ := entry
  cases commits
  intro other inside
  obtain ⟨before, after, split⟩ := List.append_of_mem member
  obtain ⟨rfl, _, marks⟩ := framed.commit_split split
  rw [split] at inside
  rcases List.mem_append.mp inside with earlier | inside
  · exact (framed.before_closing other earlier).2
  · rcases List.mem_cons.mp inside with rfl | later
    · rfl
    · rw [marks other later]
      rfl

end Framed

/-! ### The protocol -/

/-- What holds of the calls of every run of a plan that starts in a state. -/
structure KeepsProtocol (executor : Executor σ) (plan : Plan) (state : σ) (calls : List Entry) :
    Prop where
  /-- A run that is refused makes no calls. -/
  refused : executor.connection.isValid state = false ∨ plan.check ≠ .ok () → calls = []
  /-- The statements that are sent are a first part of the plan. -/
  dispatched : (statementCalls calls).map Entry.act <+: plan.statements.map Statement.act
  /-- No statement is sent after a failure. -/
  stopped : calls.Pairwise Entry.Allows
  /-- A plan that needs no transaction opens and ends nothing. -/
  uncontrolled : plan.atomic = false ∨ plan.statements.length ≤ 1 →
    ∀ entry ∈ calls, entry.act.isControl = false
  /-- The open transaction of the caller is neither begun again nor ended. -/
  nested : executor.connection.inTransaction state = true →
    ∀ entry ∈ calls, entry.act.isControl = true →
      entry.act = .savepoint planSavepoint ∨ entry.act = .rollbackTo planSavepoint
  committedOnce : (calls.map Entry.act).count .commit ≤ 1
  /-- A commit comes after all statements and only if these are settled. -/
  committedLast : ∀ before ending after, calls = before ++ ⟨.commit, ending⟩ :: after →
    plan.Settled (statementCalls before) ∧
      ∀ entry ∈ after, entry.act = .invalidate
  /-- What is committed is not taken back. -/
  committedAlone : ∀ entry ∈ calls, entry.act = .commit →
    ∀ other ∈ calls, other.act.takesBack = false

/-- A plan that opens or ends something is an atomic one of several statements, and in the open
transaction of the caller it uses its savepoint. -/
theorem Framed.control_of_bracketAt {plan : Plan} {state : σ}
    {opening entries closing : List Entry}
    (framed : executor.Framed deadline (executor.bracketAt plan state) plan opening entries closing)
    {entry : Entry} (member : entry ∈ opening ++ (entries ++ closing))
    (controls : entry.act.isControl = true) :
    (plan.atomic = true ∧ 1 < plan.statements.length) ∧
      (executor.connection.inTransaction state = true →
        entry.act = .savepoint planSavepoint ∨ entry.act = .rollbackTo planSavepoint) := by
  have acts := framed.control_act entry member controls
  unfold bracketAt bracket at acts
  split at acts
  · rename_i several
    rw [Bool.and_eq_true, decide_eq_true_eq] at several
    refine ⟨several, fun opened => ?_⟩
    rw [opened] at acts
    rcases acts with opens | undoes | closes
    · exact .inl (Option.some.inj opens)
    · exact .inr (Option.some.inj undoes)
    · cases closes
  · rcases acts with impossible | impossible | impossible <;> cases impossible

/-- The three parts of a run keep to the protocol. -/
theorem Framed.keepsProtocol {plan : Plan} {state : σ} {opening entries closing : List Entry}
    (framed : executor.Framed deadline (executor.bracketAt plan state) plan opening entries closing)
    (refused : executor.connection.isValid state = false ∨ plan.check ≠ .ok () →
      opening ++ (entries ++ closing) = []) :
    executor.KeepsProtocol plan state (opening ++ (entries ++ closing)) := by
  obtain ⟨statements, outcome, first, ran⟩ := framed.runs
  obtain ⟨unsent, sent⟩ := framed.statementCalls_eq
  refine
    { refused
      dispatched := sent ▸ ran.statements_prefix.trans (first.map Statement.act)
      stopped := framed.pairwise_allows
      uncontrolled := fun small entry member => ?_
      nested := fun opened entry member controls =>
        (framed.control_of_bracketAt member controls).2 opened
      committedOnce := framed.count_commit_le_one
      committedLast := fun before ending after split => ?_
      committedAlone := fun entry member commits => framed.takesBack_of_commit member commits }
  · cases controls : entry.act.isControl with
    | false => rfl
    | true =>
      obtain ⟨⟨atomic, several⟩, _⟩ := framed.control_of_bracketAt member controls
      rcases small with single | few
      · rw [single] at atomic
        exact absurd atomic Bool.false_ne_true
      · exact absurd several (Nat.not_lt.mpr few)
  · obtain ⟨rfl, settled, marks⟩ := framed.commit_split split
    have all : ∀ entry ∈ entries, entry.act.isStatement = true := by
      obtain ⟨_, _, _, rfl, _⟩ := settled
      exact Statement.isStatement_of_mem_answered
    rw [statementCalls_append, unsent, statementCalls_eq_self all]
    exact ⟨settled, marks⟩

/-- The calls of every run have the three parts. -/
theorem transcript_framed (plan : Plan) (state : σ) :
    ∃ opening entries closing,
      executor.transcript plan state = opening ++ (entries ++ closing) ∧
        executor.Framed (executor.deadlineAt state) (executor.bracketAt plan state) plan
          opening entries closing := by
  rcases executor.transcript_nil_or_exit plan state with silent | exit
  · exact ⟨[], [], [], silent,
      { opens := List.forall_mem_nil _
        goes := .inl ⟨rfl, rfl⟩
        runs := ⟨[], _, List.nil_prefix, .nil⟩
        closes := .inl (List.forall_mem_nil _) }⟩
  · exact exit.framed

/-- On every connection and with every deadline or cancellation, the calls of a run keep to the
protocol; and they are those of the run itself, since recording them makes no difference to it. -/
theorem run_keepsProtocol (executor : Executor σ) (plan : Plan) (state : σ) :
    (executor.recorded.run plan).perform (state, []) =
        (((executor.run plan).perform state).1, ((executor.run plan).perform state).2,
          executor.transcript plan state) ∧
      executor.KeepsProtocol plan state (executor.transcript plan state) := by
  refine ⟨executor.run_recorded plan state, ?_⟩
  obtain ⟨opening, entries, closing, same, framed⟩ := executor.transcript_framed plan state
  have refused : executor.connection.isValid state = false ∨ plan.check ≠ .ok () →
      executor.transcript plan state = [] :=
    executor.transcript_refused
  rw [same] at refused ⊢
  exact framed.keepsProtocol refused

end Executor

end OracleSql
