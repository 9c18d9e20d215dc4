/-
This file shows what is left of an atomic plan that failed. Where several statements are held
together and one of them fails, or what they return does not match, what was done is taken back; and
where a call was given up, the connection is marked as unusable. A plan of one statement is not held
together by anything, so what its statement did stays even where the returned rows do not match.
-/

import Mathlib.Data.List.Basic
import OracleSql.Proofs.Session.Transcript
import OracleSql.Session.Script
import OracleSql.Change.Insert

namespace OracleSql

variable {σ α : Type}

/-- The error that the call was answered with. -/
def Entry.failure? (entry : Entry) : Option Error :=
  match entry.ending with
  | .failed error => some error
  | _ => none

namespace Executor

/-- What was done is taken back, or the connection is marked as unusable. -/
def CleanedUp (calls : List Entry) : Prop :=
  ∃ entry ∈ calls, entry.act = .rollback ∨ entry.act = .rollbackTo planSavepoint ∨
    entry.act = .invalidate

/-- Something was opened for the plan, or a statement of it has run. -/
def Begun (calls : List Entry) : Prop :=
  ∃ entry ∈ calls, entry.isSuccess = true ∧
    (entry.act.isStatement = true ∨ entry.act = .begin ∨ entry.act = .savepoint planSavepoint)

instance (calls : List Entry) : Decidable (CleanedUp calls) :=
  inferInstanceAs (Decidable (∃ entry ∈ calls, _))

instance (calls : List Entry) : Decidable (Begun calls) :=
  inferInstanceAs (Decidable (∃ entry ∈ calls, _))

namespace CleanedUp

variable {earlier later : List Entry}

theorem append_left (cleaned : CleanedUp earlier) : CleanedUp (earlier ++ later) := by
  obtain ⟨entry, member, cleans⟩ := cleaned
  exact ⟨entry, List.mem_append_left later member, cleans⟩

theorem append_right (cleaned : CleanedUp later) : CleanedUp (earlier ++ later) := by
  obtain ⟨entry, member, cleans⟩ := cleaned
  exact ⟨entry, List.mem_append_right earlier member, cleans⟩

theorem of_invalidation (member : .invalidation ∈ later) : CleanedUp later :=
  ⟨.invalidation, member, .inr (.inr rfl)⟩

end CleanedUp

end Executor

/-! ### The parts of a run -/

/-- A call that may be given up was answered with an error, or the connection is marked. -/
theorem Ended.failed_or_cleanedUp {options : CallOptions} {deadline : Option Tick}
    {act : Act} {result : Reply → α} {shown : Error → Error} {error : Error} {calls : List Entry}
    (ended : Ended options deadline act result shown (.error error) calls) :
    (∃ failure, calls = [⟨act, .failed failure⟩] ∧ error = shown failure) ∨
      Executor.CleanedUp calls :=
  ended.failed_or_givenUp.imp_right fun given => .of_invalidation given.2

namespace Executor

variable {executor : Executor σ} {deadline : Option Tick}

/-- Statements that failed had one that was answered with the error, or the connection is marked. -/
theorem Ran.failed_or_cleanedUp {statements : List Statement} {error : Error} {calls : List Entry}
    (ran : executor.Ran deadline statements (.error error) calls) :
    (∃ entry ∈ calls, entry.act.isStatement = true ∧
      ∃ failure ∈ entry.failure?, failure.isAbandonment = error.isAbandonment) ∨
      CleanedUp calls := by
  obtain ⟨statement, _, answered, last, rfl, ended⟩ := ran.exists_stopped
  rcases ended.failed_or_cleanedUp with ⟨failure, rfl, rfl⟩ | cleaned
  · exact .inl ⟨_, List.mem_append_right answered List.mem_cons_self, statement.isStatement_act,
      failure, rfl, (executor.isAbandonment_placed statement failure).symm⟩
  · exact .inr cleaned.append_right

/-- Rows that do not match are no call that was given up. -/
theorem isAbandonment_of_outcome {plan : Plan} {gains : List Gain} {error : Error}
    (failed : plan.outcome gains = .error error) : error.isAbandonment = false := by
  unfold Plan.outcome at failed
  dsimp only at failed
  split at failed
  · split at failed
    · split at failed
      · cases failed
      · cases failed
        rfl
    · cases failed
  · cases failed

theorem Undone.cleanedUp {held : Bracket} {calls : List Entry} (holds : held ≠ .alone)
    (undone : Undone held.undoing? calls) : CleanedUp calls := by
  cases held with
  | alone => exact absurd rfl holds
  | transaction =>
    obtain ⟨_, _, rfl⟩ := undone
    exact ⟨_, List.mem_cons_self, .inl rfl⟩
  | savepoint =>
    obtain ⟨_, _, rfl⟩ := undone
    exact ⟨_, List.mem_cons_self, .inr (.inl rfl)⟩

/-- What could not be opened was not begun, or the connection is marked. -/
theorem Passed.cleanedUp_of_opening {held : Bracket} {error : Error} {calls : List Entry}
    (opened : executor.Passed deadline held.opening? (.error error) calls) (begun : Begun calls) :
    CleanedUp calls := by
  cases came : held.opening? with
  | none =>
    rw [came] at opened
    cases opened.1
  | some act =>
    rw [came] at opened
    rcases Ended.failed_or_cleanedUp opened with ⟨failure, rfl, _⟩ | cleaned
    · obtain ⟨entry, member, succeeded, _⟩ := begun
      rw [List.mem_singleton.mp member] at succeeded
      cases succeeded
    · exact cleaned

/-- What could not be closed has a commit that was answered with an error, or the connection is
marked. -/
theorem Passed.cleanedUp_of_closing {held : Bracket} {error : Error} {calls : List Entry}
    (closed : executor.Passed deadline held.closing? (.error error) calls)
    (committed : ∀ entry ∈ calls, entry.act = .commit → entry.failure? = none) :
    CleanedUp calls := by
  cases held with
  | alone => cases closed.1
  | savepoint => cases closed.1
  | transaction =>
    rcases Ended.failed_or_cleanedUp closed with ⟨failure, rfl, _⟩ | cleaned
    · cases committed _ List.mem_cons_self rfl
    · exact cleaned

/-! ### Runs -/

/-- The statements of a plan that were held together and failed are taken back, or the connection is
marked, unless a statement was itself answered with the error of a call that was given up. -/
theorem Exit.cleanedUp {held : Bracket} {plan : Plan} {error : Error} {calls : List Entry}
    (exit : executor.Exit deadline held plan (.error error) calls) (holds : held ≠ .alone)
    (begun : Begun calls)
    (committed : ∀ entry ∈ calls, entry.act = .commit → entry.failure? = none)
    (answered : ∀ entry ∈ calls, entry.act.isStatement = true →
      ∀ failure ∈ entry.failure?, failure.isAbandonment = false) : CleanedUp calls := by
  cases exit with
  | unopened opened => exact opened.cleanedUp_of_opening begun
  | @undone result _ opening entries undoing opened ran failed takenBack =>
    cases abandoned : error.isAbandonment with
    | false =>
      rw [abandoned] at takenBack
      exact ((Undone.cleanedUp holds takenBack).append_right).append_right
    | true =>
      cases result with
      | ok gains =>
        rw [isAbandonment_of_outcome failed] at abandoned
        cases abandoned
      | error failure =>
        cases failed
        rcases ran.failed_or_cleanedUp with ⟨entry, member, sent, own, known, same⟩ | cleaned
        · have inside : entry ∈ opening ++ (entries ++ undoing) :=
            List.mem_append_right _ (List.mem_append_left _ member)
          rw [← same, answered entry inside sent own known] at abandoned
          cases abandoned
        · exact (cleaned.append_left).append_right
  | @unclosed _ _ _ opening entries closing opened ran accounted closed =>
    refine ((closed.cleanedUp_of_closing fun entry member => ?_).append_right).append_right
    exact committed entry (List.mem_append_right _ (List.mem_append_right _ member))

theorem bracketAt_ne_alone {plan : Plan} (executor : Executor σ) (state : σ)
    (atomic : plan.atomic = true) (several : 1 < plan.statements.length) :
    executor.bracketAt plan state ≠ .alone := by
  unfold bracketAt bracket
  rw [atomic, decide_eq_true several]
  cases executor.connection.inTransaction state <;> nofun

/-- An atomic plan of several statements that was begun and fails is taken back, or the connection
is marked as unusable; here the commit is not what was answered with an error, and no statement was
itself answered with the error of a call that was given up. -/
theorem failed_run_cleanedUp (executor : Executor σ) (plan : Plan) (state : σ) (error : Error)
    (atomic : plan.atomic = true) (several : 1 < plan.statements.length)
    (failed : ((executor.run plan).perform state).1 = .error error)
    (begun : Begun (executor.transcript plan state))
    (committed : ∀ entry ∈ executor.transcript plan state,
      entry.act = .commit → entry.failure? = none)
    (answered : ∀ entry ∈ executor.transcript plan state, entry.act.isStatement = true →
      ∀ failure ∈ entry.failure?, failure.isAbandonment = false) :
    CleanedUp (executor.transcript plan state) := by
  rcases executor.transcript_nil_or_exit plan state with silent | exit
  · obtain ⟨entry, member, _⟩ := begun
    rw [silent] at member
    exact absurd member List.not_mem_nil
  · rw [failed] at exit
    exact exit.cleanedUp (executor.bracketAt_ne_alone state atomic several) begun committed answered

/-- An insertion of two rows from which a column is wanted back. -/
def twoRows : Insert where
  table := "t"
  rows := { form := .many ["a"] [[.int 0], [.int 1]] }
  returning := ["id"]

/-- A statement of this insertion, with room for so many rows. -/
def twoRowsStatement (binds : Binds) (room offset : Nat) : Statement where
  sql := "INSERT INTO \"T\" (\"A\") VALUES (:1) RETURNING \"ID\" INTO :2"
  binds
  shape := .returning [{ marker := "2", column := "id", rows := room }]
  operation := "insert"
  table := some "t"
  inputOffset := offset

/-- The plan with a statement for each of the two rows. -/
def twoStatements : Plan where
  statements :=
    [twoRowsStatement (.positional [.int 0]) 1 0, twoRowsStatement (.positional [.int 1]) 1 1]
  atomic := true
  returning := some .perRow
  inputRows := some 2

/-- A session that fails the second insertion. -/
def failingSession : ScriptedSession where
  script := { failures := [{ pattern := "INSERT", native := ⟨some 1, "unique"⟩, skip := 1 }] }

/-- Where the second of two rows fails, the first is taken back. -/
theorem failed_run_cleanedUp_second_row :
    twoRows.plan {} = .ok twoStatements ∧
      CleanedUp (transcript { dialect := {}, connection := Rehearsal.connection 0 } twoStatements
        { sessions := [failingSession] }) := by
  let executor : Executor Rehearsal := { dialect := {}, connection := Rehearsal.connection 0 }
  let state : Rehearsal := { sessions := [failingSession] }
  let error : Error :=
    .database ⟨some 1, "unique"⟩ { operation := some "insert", table := some "t" }
  obtain ⟨built, failed, begun, committed, answered⟩ :
      twoRows.plan {} = .ok twoStatements ∧
        ((executor.run twoStatements).perform state).1 = .error error ∧
        Begun (executor.transcript twoStatements state) ∧
        (∀ entry ∈ executor.transcript twoStatements state,
          entry.act = .commit → entry.failure? = none) ∧
        ∀ entry ∈ executor.transcript twoStatements state, entry.act.isStatement = true →
          ∀ failure ∈ entry.failure?, failure.isAbandonment = false := by
    decide +kernel
  exact ⟨built, failed_run_cleanedUp executor twoStatements state error rfl (by decide) failed begun
    committed answered⟩

/-! ### Plans of one statement -/

/-- The plan with one statement for both rows. -/
def oneStatement : Plan where
  statements := [twoRowsStatement (.batch [[.int 0], [.int 1]]) 2 0]
  atomic := true
  returning := some .bulk
  inputRows := some 2

/-- A session that loses the last of the rows that it returns. -/
def losingSession : ScriptedSession where
  script := { dropsLast := true }

/-- The plan of one statement for several rows is atomic too. It fails where a returned row is
missing, after the rows were put in, and then nothing is taken back and the connection is not
marked. -/
theorem lone_statement_not_cleanedUp :
    twoRows.plan { bulkReturning := true } = .ok oneStatement ∧ oneStatement.atomic = true ∧
      let executor : Executor Rehearsal :=
        { dialect := { bulkReturning := true }, connection := Rehearsal.connection 0 }
      let state : Rehearsal := { sessions := [losingSession] }
      ((executor.run oneStatement).perform state).1 = .error (.other (.missing 1)) ∧
        Begun (executor.transcript oneStatement state) ∧
        ¬ CleanedUp (executor.transcript oneStatement state) := by
  decide +kernel

end Executor

end OracleSql
