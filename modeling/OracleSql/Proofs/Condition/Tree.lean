/-
This file reads conditions as trees. The lists inside a condition make Lean's own induction work on
conditions and on lists of them side by side; `Condition.inductionOnParts` works on conditions alone
and has the parts of a joined condition as members of its list. The questions that are asked of all
parts of a condition are put into the words of lists, and so is what holds of their pieces.
-/

import OracleSql.Condition
import OracleSql.Proofs.Outcome

namespace OracleSql

namespace Condition

/-! ### Induction -/

/-- Induction over conditions, where the parts of a joined condition are the members of a list. -/
@[induction_eliminator]
theorem inductionOnParts {motive : Condition → Prop}
    (all : ∀ parts, (∀ part ∈ parts, motive part) → motive (.all parts))
    (any : ∀ parts, (∀ part ∈ parts, motive part) → motive (.any parts))
    (negation : ∀ inner, motive inner → motive (.negation inner))
    (compare : ∀ column comparison value, motive (.compare column comparison value))
    (nullness : ∀ column isNull, motive (.nullness column isNull))
    (membership : ∀ column values negated, motive (.membership column values negated))
    (range : ∀ column low high negated, motive (.range column low high negated))
    (template : ∀ sql values, motive (.template sql values))
    (fragment : ∀ sql, motive (.fragment sql))
    (always : motive .always) (never : motive .never) (condition : Condition) :
    motive condition := by
  refine @Condition.rec motive (fun parts => ∀ part ∈ parts, motive part) all any negation compare
    nullness membership range template fragment always never ?_ ?_ condition
  · intro part member
    cases member
  · intro head rest first others part member
    rcases List.mem_cons.mp member with rfl | member
    · exact first
    · exact others part member

/-! ### Parts -/

theorem allEmpty_eq (parts : List Condition) : allEmpty parts = parts.all isEmpty := by
  induction parts with
  | nil => rfl
  | cons part rest inductionHypothesis =>
    rw [allEmpty, List.all_cons, inductionHypothesis]

theorem allAlways_eq (parts : List Condition) :
    allAlways parts = parts.all fun part => part.isEmpty || part.isAlways := by
  induction parts with
  | nil => rfl
  | cons part rest inductionHypothesis =>
    rw [allAlways, List.all_cons, inductionHypothesis]

theorem someAlways_eq (parts : List Condition) : someAlways parts = parts.any isAlways := by
  induction parts with
  | nil => rfl
  | cons part rest inductionHypothesis =>
    rw [someAlways, List.any_cons, inductionHypothesis]

section

variable (holds : List Piece → Prop)
  (enclosed : ∀ pieces, holds pieces → holds (Piece.enclosed "(" ")" pieces))

include enclosed in
theorem parenthesized_holds (wanted : Bool) {pieces : List Piece} (own : holds pieces) :
    holds (parenthesized wanted pieces) := by
  cases wanted with
  | false => exact own
  | true => exact enclosed pieces own

include enclosed in
/-- What holds of the pieces of some conditions, in parentheses too, holds of them in a row. -/
theorem partPieces_each (dialect : Dialect) (wanted : Condition → Bool) (parts : List Condition)
    (each : ∀ part ∈ parts, Ensures holds (part.pieces dialect)) :
    Ensures (fun members => ∀ member ∈ members, holds member)
      (partPieces dialect wanted parts) := by
  induction parts with
  | nil => exact Ensures.ok fun _ impossible => absurd impossible List.not_mem_nil
  | cons part rest inductionHypothesis =>
    obtain ⟨first, others⟩ := List.forall_mem_cons.mp each
    rw [partPieces]
    split
    · exact inductionHypothesis others
    · refine Ensures.bind first fun pieces own => ?_
      refine Ensures.bind (inductionHypothesis others) fun members more => Ensures.ok ?_
      exact List.forall_mem_cons.mpr ⟨parenthesized_holds holds enclosed _ own, more⟩

end

end Condition

end OracleSql
