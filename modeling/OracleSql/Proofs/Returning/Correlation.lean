/-
This file says when returned rows are brought into the order of the input rows. Every returned row
carries the number of an input row. The rows can be ordered just if the numbers are those of all
input rows, each once, in whatever order; and then the row with a number stands at this number.
-/

import OracleSql.Proofs.Outcome
import OracleSql.Session.Executor
import Mathlib.Data.List.Perm.Basic

namespace OracleSql

/-! ### Faults -/

/-- Returned rows have no fault if their numbers are in range, differ, and did not come before. -/
theorem ReturnFault.first?_eq_none_iff (sent : Nat) (earlier : List Nat)
    (returned : List ReturnedRow) :
    first? sent earlier returned = none ↔
      (∀ item ∈ returned, item.number < sent ∧ item.number ∉ earlier) ∧
        (returned.map ReturnedRow.number).Nodup := by
  induction returned generalizing earlier with
  | nil => simp [first?]
  | cons item rest inductionHypothesis =>
    rw [first?, List.forall_mem_cons, List.map_cons, List.nodup_cons]
    by_cases outside : sent ≤ item.number
    · rw [if_pos outside]
      refine ⟨nofun, ?_⟩
      rintro ⟨⟨⟨inside, _⟩, _⟩, _⟩
      exact absurd inside (Nat.not_lt.mpr outside)
    rw [if_neg outside]
    by_cases twice : earlier.contains item.number
    · rw [if_pos twice]
      refine ⟨nofun, ?_⟩
      rintro ⟨⟨⟨_, fresh⟩, _⟩, _⟩
      exact absurd (List.contains_iff_mem.mp twice) fresh
    rw [if_neg twice, inductionHypothesis]
    have inside : item.number < sent := Nat.lt_of_not_le outside
    have fresh : item.number ∉ earlier := fun member => twice (List.contains_iff_mem.mpr member)
    constructor
    · rintro ⟨each, distinct⟩
      refine ⟨⟨⟨inside, fresh⟩, fun other member => ?_⟩, ?_, distinct⟩
      · exact ⟨(each other member).1, fun old => (each other member).2 (List.mem_cons_of_mem _ old)⟩
      · intro again
        obtain ⟨other, member, same⟩ := List.mem_map.mp again
        exact (each other member).2 (same ▸ List.mem_cons_self)
    · rintro ⟨⟨_, each⟩, single, distinct⟩
      refine ⟨fun other member => ⟨(each other member).1, fun old => ?_⟩, distinct⟩
      rcases List.mem_cons.mp old with same | old
      · exact single (same ▸ List.mem_map_of_mem member)
      · exact (each other member).2 old

/-- Rows with the numbers of all input rows have no fault, in whatever order they come. -/
theorem ReturnFault.first?_eq_none_of_perm {returned : List ReturnedRow} {sent : Nat}
    (all : (returned.map ReturnedRow.number).Perm (List.range sent)) :
    first? sent [] returned = none := by
  rw [first?_eq_none_iff]
  refine ⟨fun item member => ⟨?_, List.not_mem_nil⟩, all.nodup_iff.mpr List.nodup_range⟩
  exact List.mem_range.mp (all.mem_iff.mp (List.mem_map_of_mem member))

/-! ### The row with a number -/

theorem rowOf_of_mem {returned : List ReturnedRow}
    (distinct : (returned.map ReturnedRow.number).Nodup) {item : ReturnedRow}
    (member : item ∈ returned) : rowOf returned item.number = .ok item.row := by
  have found : returned.find? (fun candidate => candidate.number == item.number) = some item := by
    induction returned with
    | nil => cases member
    | cons first rest inductionHypothesis =>
      rw [List.map_cons, List.nodup_cons] at distinct
      rcases List.mem_cons.mp member with rfl | later
      · exact List.find?_cons_of_pos (beq_self_eq_true item.number)
      · refine (List.find?_cons_of_neg fun same => ?_).trans (inductionHypothesis distinct.2 later)
        exact distinct.1 (eq_of_beq same ▸ List.mem_map_of_mem later)
  rw [rowOf, found]

theorem mem_of_rowOf {returned : List ReturnedRow} {input : Nat} {row : Row}
    (found : rowOf returned input = .ok row) : input ∈ returned.map ReturnedRow.number := by
  unfold rowOf at found
  split at found
  · rename_i item first
    have same := List.find?_some first
    rw [beq_iff_eq] at same
    exact same ▸ List.mem_map_of_mem (List.mem_of_find?_eq_some first)
  · cases found

/-! ### All rows -/

/-- The rows can be ordered just if their numbers are those of all input rows, each once; and then
each of them stands at its number. -/
theorem correlate_eq_ok_iff (returned : List ReturnedRow) (sent : Nat) (rows : List Row) :
    correlate returned sent = .ok rows ↔
      (returned.map ReturnedRow.number).Perm (List.range sent) ∧ rows.length = sent ∧
        ∀ item ∈ returned, rows[item.number]? = some item.row := by
  unfold correlate
  constructor
  · intro ordered
    split at ordered
    · cases ordered
    rename_i faultless
    obtain ⟨inside, distinct⟩ := (ReturnFault.first?_eq_none_iff _ _ _).mp faultless
    have each := mapM_eq_ok_iff.mp ordered
    have length : sent = rows.length := List.length_range.symm.trans each.length_eq
    have row (number : Nat) (bound : number < rows.length) :
        rowOf returned number = .ok rows[number] := by
      have found := each.get (by rw [List.length_range, length]; exact bound) bound
      rwa [List.get_eq_getElem, List.getElem_range] at found
    refine ⟨?_, length.symm, fun item member => ?_⟩
    · rw [List.perm_ext_iff_of_nodup distinct List.nodup_range]
      intro number
      rw [List.mem_range]
      constructor
      · intro member
        obtain ⟨item, within, rfl⟩ := List.mem_map.mp member
        exact (inside item within).1
      · intro bound
        exact mem_of_rowOf (row number (length ▸ bound))
    · have bound : item.number < rows.length := length ▸ (inside item member).1
      have same := (row item.number bound).symm.trans (rowOf_of_mem distinct member)
      rw [List.getElem?_eq_getElem bound, Except.ok.inj same]
  · rintro ⟨all, length, placed⟩
    have distinct : (returned.map ReturnedRow.number).Nodup := all.nodup_iff.mpr List.nodup_range
    rw [ReturnFault.first?_eq_none_of_perm all]
    refine mapM_eq_ok_iff.mpr (List.forall₂_iff_get.mpr ⟨?_, fun number _ bound => ?_⟩)
    · rw [List.length_range, length]
    · have member : number ∈ returned.map ReturnedRow.number :=
        all.mem_iff.mpr (List.mem_range.mpr (length ▸ bound))
      obtain ⟨item, within, rfl⟩ := List.mem_map.mp member
      have found := placed item within
      rw [List.getElem?_eq_getElem bound] at found
      rw [List.get_eq_getElem, List.getElem_range, List.get_eq_getElem, Option.some.inj found]
      exact rowOf_of_mem distinct within

/-- What a plan makes of gains that count what came back. -/
theorem Plan.outcome_of_returned {plan : Plan} {sent : Nat} (wanted : plan.returning.isSome = true)
    (counted : plan.inputRows = some sent) {gains : List Gain}
    (each : ∀ gain ∈ gains, gain.affected = .ofNat gain.returned.length) :
    plan.outcome gains =
      ((correlate (gains.flatMap Gain.returned) sent).mapError Error.other).map fun rows =>
        { rowsAffected := .ofNat (gains.flatMap Gain.returned).length, rows } := by
  have affected (start : UInt64) : gains.foldl (fun total gain => total + gain.affected) start =
      start + .ofNat (gains.flatMap Gain.returned).length := by
    induction gains generalizing start with
    | nil => exact (UInt64.add_zero start).symm
    | cons gain rest inductionHypothesis =>
      obtain ⟨first, others⟩ := List.forall_mem_cons.mp each
      rw [List.foldl_cons, inductionHypothesis others, first, List.flatMap_cons, List.length_append,
        UInt64.ofNat_add, UInt64.add_assoc]
  unfold outcome
  dsimp only
  rw [affected 0, UInt64.zero_add, wanted, counted, Bool.true_or, if_pos rfl]
  dsimp only
  cases correlate (gains.flatMap Gain.returned) sent <;> rfl

end OracleSql
