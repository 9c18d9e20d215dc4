/-
This file says what a run comes to whose calls all succeed. Without a deadline and a cancellation no
call is given up, so each statement has its answer, and what the plan makes of the answers is what
the run comes to. If the plan makes an error of them, nothing is committed.
-/

import OracleSql.Proofs.Session.Transcript

namespace OracleSql

variable {σ α : Type}

/-! ### The parts of a run -/

/-- A call that cannot be given up and comes to an error did not succeed. -/
theorem Ended.exists_unsuccessful {act : Act} {result : Reply → α} {shown : Error → Error}
    {error : Error} {calls : List Entry}
    (ended : Ended {} none act result shown (.error error) calls) :
    ∃ entry ∈ calls, entry.isSuccess = false := by
  rcases ended.failed_or_givenUp with ⟨failure, rfl, _⟩ | ⟨given, _⟩
  · exact ⟨_, List.mem_cons_self, rfl⟩
  · exact absurd given (CallOptions.not_givesUp error)

namespace Executor

variable {executor : Executor σ}

theorem Passed.exists_unsuccessful (quiet : executor.options = {}) {act? : Option Act}
    {error : Error} {calls : List Entry} (passed : executor.Passed none act? (.error error) calls) :
    ∃ entry ∈ calls, entry.isSuccess = false := by
  cases act? with
  | none => cases passed.1
  | some act =>
    unfold Passed at passed
    rw [quiet] at passed
    exact Ended.exists_unsuccessful passed

theorem Ran.exists_unsuccessful (quiet : executor.options = {}) {statements : List Statement}
    {error : Error} {calls : List Entry}
    (ran : executor.Ran none statements (.error error) calls) :
    ∃ entry ∈ calls, entry.isSuccess = false := by
  obtain ⟨statement, _, answered, last, rfl, ended⟩ := ran.exists_stopped
  unfold Sent at ended
  rw [quiet] at ended
  obtain ⟨entry, member, failed⟩ := ended.exists_unsuccessful
  exact ⟨entry, List.mem_append_right answered member, failed⟩

/-! ### Runs -/

/-- What holds a plan together is not opened or taken back by a commit. -/
theorem Bracket.ne_commit (held : Bracket) :
    held.opening? ≠ some .commit ∧ held.undoing? ≠ some .commit := by
  cases held <;> exact ⟨nofun, nofun⟩

theorem Exit.answered (quiet : executor.options = {}) {held : Bracket} {plan : Plan}
    {outcome : Except Error Outcome} {calls : List Entry}
    (exit : executor.Exit none held plan outcome calls)
    (succeeded : ∀ entry ∈ calls, entry.isSuccess = true) :
    ∃ replies, replies.length = plan.statements.length ∧
      statementCalls calls =
        List.zipWith Statement.answered plan.statements replies ∧
      outcome = plan.outcome (List.zipWith Statement.gain plan.statements replies) ∧
      ∀ error, outcome = .error error → ∀ entry ∈ calls, entry.act ≠ .commit := by
  have impossible {part : List Entry} (within : ∀ entry ∈ part, entry ∈ calls)
      (failed : ∃ entry ∈ part, entry.isSuccess = false) : False := by
    obtain ⟨entry, member, unsuccessful⟩ := failed
    rw [succeeded entry (within entry member)] at unsuccessful
    cases unsuccessful
  have sifted {opening closing : List Entry} {replies : List Reply}
      (opens : ∀ entry ∈ opening, entry.act.isStatement = false)
      (closes : ∀ entry ∈ closing, entry.act.isStatement = false) :
      statementCalls (opening ++
          (List.zipWith Statement.answered plan.statements replies ++ closing)) =
        List.zipWith Statement.answered plan.statements replies := by
    rw [statementCalls_append, statementCalls_append, statementCalls_eq_nil opens,
      statementCalls_eq_nil closes, statementCalls_eq_self Statement.isStatement_of_mem_answered,
      List.nil_append, List.append_nil]
  cases exit with
  | unopened opened => exact (impossible (fun _ => id) (opened.exists_unsuccessful quiet)).elim
  | @undone result error opening entries undoing opened ran failed takenBack =>
    cases result with
    | error failure =>
      have within : ∀ entry ∈ entries, entry ∈ opening ++ (entries ++ undoing) := fun _ member =>
        List.mem_append_right _ (List.mem_append_left _ member)
      exact (impossible within (ran.exists_unsuccessful quiet)).elim
    | ok gains =>
      obtain ⟨replies, length, rfl, rfl⟩ := ran.replies
      have undoes : ∀ entry ∈ undoing, some entry.act = held.undoing? := by
        intro entry member
        have called := takenBack.act_of_mem entry member
        split at called
        · cases called
        · exact called
      refine ⟨replies, length, ?_, failed.symm, fun _ _ entry member commits => ?_⟩
      · exact sifted (opened.isStatement_of_mem (.inl rfl)) fun entry member =>
          Bracket.isStatement_of_call (.inr (.inr (undoes entry member)))
      · rcases List.mem_append.mp member with opens | member
        · rcases opened.act_of_mem entry opens with called | marked
          · exact held.ne_commit.1 (called.symm.trans (congrArg some commits))
          · cases commits.symm.trans marked
        · rcases List.mem_append.mp member with runs | taken
          · have sent := Statement.isStatement_of_mem_answered entry runs
            rw [commits] at sent
            cases sent
          · exact held.ne_commit.2 ((undoes entry taken).symm.trans (congrArg some commits))
  | @unclosed _ _ _ opening entries closing opened ran accounted closed =>
    have within : ∀ entry ∈ closing, entry ∈ opening ++ (entries ++ closing) := fun _ member =>
      List.mem_append_right _ (List.mem_append_right _ member)
    exact (impossible within (closed.exists_unsuccessful quiet)).elim
  | finished opened ran accounted closed =>
    obtain ⟨replies, length, rfl, rfl⟩ := ran.replies
    refine ⟨replies, length, ?_, accounted.symm, fun _ impossible => nomatch impossible⟩
    exact sifted (opened.isStatement_of_mem (.inl rfl)) (closed.isStatement_of_mem (.inr rfl))

end Executor

end OracleSql
