/-
This file shows that scripted sessions can be relied on as the sessions of a pool are. A session
gets the number of those that were opened before it, only `invalidate` marks one, and a rollback
that succeeds ends the transaction. So what is proved of pools in general holds of those that are
rehearsed.
-/

import OracleSql.Proofs.Pool.Life
import OracleSql.Session.Script

namespace OracleSql.Rehearsal

/-! ### What calls leave -/

/-- The numbers of the sessions that were opened. -/
abbrev Opened (rehearsal : Rehearsal) (number : Nat) : Prop :=
  number < rehearsal.sessions.length

theorem session_modify (rehearsal : Rehearsal) (number other : Nat)
    (change : ScriptedSession → ScriptedSession) : (rehearsal.modify number change).session other =
      if number = other ∧ Opened rehearsal number then change (rehearsal.session number)
      else rehearsal.session other := by
  unfold session modify Opened
  dsimp only
  rw [List.getElem?_modify]
  by_cases meant : number = other
  · subst meant
    by_cases there : number < rehearsal.sessions.length <;> simp [there]
  · simp [meant]

/-- A change that leaves one session valid or invalid leaves all so. -/
theorem isValid_modify (rehearsal : Rehearsal) {number : Nat}
    {change : ScriptedSession → ScriptedSession}
    (same : (change (rehearsal.session number)).isValid = (rehearsal.session number).isValid)
    (other : Nat) :
    ((rehearsal.modify number change).session other).isValid =
      (rehearsal.session other).isValid := by
  rw [session_modify]
  split
  · next meant => rw [same, meant.1]
  · rfl

/-- Rehearsals go onward when the sessions stay as valid as they are and new ones may come. -/
theorem onward_of_isValid {before after : Rehearsal} (clock : before.now ≤ after.now)
    (count : before.sessions.length ≤ after.sessions.length)
    (same : ∀ number, (after.session number).isValid = (before.session number).isValid) :
    connector.Onward Opened before after where
  clock := clock
  given opened := Nat.lt_of_lt_of_le opened count
  marked {number} mark := (same number).trans mark

theorem control_onward (number : Nat) (call : Call) (text : String) (opens : Bool)
    (rehearsal : Rehearsal) :
    connector.Onward Opened rehearsal (control number call text opens rehearsal).arrived := by
  unfold control play
  dsimp only
  generalize takeFailure text (rehearsal.session number).script.failures = taken
  obtain ⟨failure, failures⟩ := taken
  have passes : rehearsal.now ≤
      rehearsal.now + (rehearsal.session number).script.delay.nanoseconds :=
    Nat.le_add_right _ _
  cases failure with
  | some native =>
    refine onward_of_isValid passes ?_ fun other => ?_
    · exact Nat.le_of_eq (List.length_modify _ _ _).symm
    · exact isValid_modify (rehearsal.note call) rfl other
  | none =>
    refine onward_of_isValid passes ?_ fun other => ?_
    · exact Nat.le_of_eq ((List.length_modify _ _ _).trans (List.length_modify _ _ _)).symm
    · exact (isValid_modify _ rfl other).trans
        (isValid_modify (rehearsal.note call) rfl other)

/-- A transaction that was rolled back is over. A session that was not opened has none. -/
theorem inTransaction_rollback {number : Nat} {rehearsal : Rehearsal}
    (answered : ((connection number).rollback rehearsal).answer = .ok ()) :
    (connection number).inTransaction ((connection number).rollback rehearsal).arrived = false := by
  unfold connection control play at answered ⊢
  dsimp only at answered ⊢
  generalize takeFailure "ROLLBACK" (rehearsal.session number).script.failures = taken
    at answered ⊢
  obtain ⟨failure, failures⟩ := taken
  cases failure with
  | some native => cases answered
  | none =>
    show ((modify (modify (rehearsal.note .rollback) number _) number _).session
      number).inTransaction = false
    have count (first second : ScriptedSession → ScriptedSession) : (modify (modify
        (rehearsal.note .rollback) number first) number second).sessions.length =
          rehearsal.sessions.length :=
      (List.length_modify _ _ _).trans (List.length_modify _ _ _)
    by_cases opened : Opened rehearsal number
    · rw [session_modify, if_pos ⟨rfl, Nat.lt_of_lt_of_eq opened (List.length_modify _ _ _).symm⟩]
    · rw [session, List.getElem?_eq_none (by rw [count]; exact Nat.not_lt.mp opened)]
      rfl

theorem perform_connect (target : ConnectTarget) (rehearsal : Rehearsal) :
    (connector.connect target).perform rehearsal =
      (match rehearsal.refusal with
        | some native => .error (.database native {})
        | none => .ok rehearsal.sessions.length,
      { rehearsal.note (.connect rehearsal.sessions.length target) with
        sessions := rehearsal.sessions ++ [rehearsal.opening] }) := by
  obtain ⟨now, calls, sessions, opening, refusal, silence⟩ := rehearsal
  cases refusal <;> rfl

theorem perform_ping (number : Nat) (rehearsal : Rehearsal) :
    (connector.ping number).perform rehearsal =
      (match rehearsal.silence with
        | some native => .error (.database native {})
        | none => .ok (),
      rehearsal.note (.ping number)) := by
  obtain ⟨now, calls, sessions, opening, refusal, silence⟩ := rehearsal
  cases silence <;> rfl

/-! ### The connector -/

/-- Scripted sessions can be relied on. -/
theorem connector_lawful : connector.Lawful Opened where
  connect_onward target before := by
    rw [perform_connect]
    refine ⟨Nat.le_refl _, fun opened => ?_, fun {number} marked => ?_⟩
    · exact Nat.lt_of_lt_of_le opened (List.length_append ▸ Nat.le_add_right _ _)
    · change (before.sessions[number]?.getD {}).isValid = false at marked
      have opened : Opened before number := by
        refine Decidable.byContradiction fun missing => ?_
        rw [List.getElem?_eq_none (Nat.not_lt.mp missing)] at marked
        cases marked
      show ((before.sessions ++ [before.opening])[number]?.getD {}).isValid = false
      rwa [List.getElem?_append_left opened]
  connect_new {target key before after} connected := by
    rw [perform_connect] at connected
    obtain ⟨outcome, rfl⟩ := Prod.mk.inj connected
    cases refusal : before.refusal with
    | some native =>
      rw [refusal] at outcome
      cases outcome
    | none =>
      rw [refusal] at outcome
      cases outcome
      exact ⟨Nat.lt_irrefl _, by simp [Opened]⟩
  ping_onward key before := by
    rw [perform_ping]
    exact onward_of_isValid (Nat.le_refl _) (Nat.le_refl _) fun _ => rfl
  rollback_onward key before := control_onward key .rollback "ROLLBACK" false before
  rollback_closes := inTransaction_rollback

end OracleSql.Rehearsal
