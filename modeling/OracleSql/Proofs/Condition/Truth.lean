/-
This file says what a condition means. A condition is true, false or unknown for a row, as the
server has it: NOT, AND and OR are those of three values. The meaning is given relative to what the
single predicates and fragments say; the constants, and the test against no values at all, say the
same for every row. Parts that say nothing are taken out of a condition before it is read.

The main fact is that a value which a condition has while nothing is known of its predicates is its
value whatever they say. So a condition is constantly true just if it is so there.
-/

import OracleSql.Proofs.Condition.Tree
import Mathlib.Data.List.Basic

namespace OracleSql

/-! ### Truth values -/

/-- The truth values of a condition. -/
inductive Truth where
  | no
  | unknown
  | yes
  deriving DecidableEq

namespace Truth

/-- The value of a condition under NOT. -/
def not : Truth → Truth
  | no => yes
  | unknown => unknown
  | yes => no

/-- The value of two conditions under AND. -/
def and : Truth → Truth → Truth
  | yes, other => other
  | no, _ => no
  | unknown, no => no
  | unknown, _ => unknown

/-- The value of two conditions under OR. -/
def or : Truth → Truth → Truth
  | no, other => other
  | yes, _ => yes
  | unknown, yes => yes
  | unknown, _ => unknown

/-- The value of a constant. -/
def ofBool (holds : Bool) : Truth :=
  if holds then yes else no

/-- The value of conditions that are joined by AND. -/
def all (truths : List Truth) : Truth :=
  truths.foldr and yes

/-- The value of conditions that are joined by OR. -/
def any (truths : List Truth) : Truth :=
  truths.foldr or no

theorem all_cons (truth : Truth) (rest : List Truth) : all (truth :: rest) = truth.and (all rest) :=
  rfl

theorem any_cons (truth : Truth) (rest : List Truth) : any (truth :: rest) = truth.or (any rest) :=
  rfl

theorem and_eq_yes (left right : Truth) : left.and right = yes ↔ left = yes ∧ right = yes := by
  cases left <;> cases right <;> decide

theorem and_eq_no (left right : Truth) : left.and right = no ↔ left = no ∨ right = no := by
  cases left <;> cases right <;> decide

theorem or_eq_yes (left right : Truth) : left.or right = yes ↔ left = yes ∨ right = yes := by
  cases left <;> cases right <;> decide

theorem or_eq_no (left right : Truth) : left.or right = no ↔ left = no ∧ right = no := by
  cases left <;> cases right <;> decide

theorem not_eq_yes (truth : Truth) : truth.not = yes ↔ truth = no := by
  cases truth <;> decide

theorem not_eq_no (truth : Truth) : truth.not = no ↔ truth = yes := by
  cases truth <;> decide

theorem all_eq_yes (truths : List Truth) : all truths = yes ↔ ∀ truth ∈ truths, truth = yes := by
  induction truths with
  | nil => simp [all]
  | cons truth rest inductionHypothesis =>
    rw [all_cons, and_eq_yes, List.forall_mem_cons]
    exact and_congr_right fun _ => inductionHypothesis

theorem all_eq_no (truths : List Truth) : all truths = no ↔ ∃ truth ∈ truths, truth = no := by
  induction truths with
  | nil => simp [all]
  | cons truth rest inductionHypothesis =>
    rw [all_cons, and_eq_no, List.exists_mem_cons_iff]
    exact or_congr_right inductionHypothesis

theorem any_eq_yes (truths : List Truth) : any truths = yes ↔ ∃ truth ∈ truths, truth = yes := by
  induction truths with
  | nil => simp [any]
  | cons truth rest inductionHypothesis =>
    rw [any_cons, or_eq_yes, List.exists_mem_cons_iff]
    exact or_congr_right inductionHypothesis

theorem any_eq_no (truths : List Truth) : any truths = no ↔ ∀ truth ∈ truths, truth = no := by
  induction truths with
  | nil => simp [any]
  | cons truth rest inductionHypothesis =>
    rw [any_cons, or_eq_no, List.forall_mem_cons]
    exact and_congr_right fun _ => inductionHypothesis

theorem all_append (first second : List Truth) :
    all (first ++ second) = (all first).and (all second) := by
  induction first with
  | nil => rfl
  | cons truth rest inductionHypothesis =>
    rw [List.cons_append, all_cons, all_cons, inductionHypothesis]
    cases truth <;> cases all rest <;> cases all second <;> rfl

theorem any_append (first second : List Truth) :
    any (first ++ second) = (any first).or (any second) := by
  induction first with
  | nil => rfl
  | cons truth rest inductionHypothesis =>
    rw [List.cons_append, any_cons, any_cons, inductionHypothesis]
    cases truth <;> cases any rest <;> cases any second <;> rfl

theorem all_singleton (truth : Truth) : all [truth] = truth := by
  cases truth <;> rfl

theorem any_singleton (truth : Truth) : any [truth] = truth := by
  cases truth <;> rfl

/-- Unknown values, if there are some, come to an unknown value. -/
theorem joined_unknown {truths : List Truth} (some : truths ≠ [])
    (each : ∀ truth ∈ truths, truth = unknown) :
    all truths = unknown ∧ any truths = unknown := by
  induction truths with
  | nil => exact absurd rfl some
  | cons truth rest inductionHypothesis =>
    obtain ⟨rfl, others⟩ := List.forall_mem_cons.mp each
    cases rest with
    | nil => decide
    | cons next further =>
      obtain ⟨conjoined, disjoined⟩ := inductionHypothesis (List.cons_ne_nil _ _) others
      rw [all_cons, any_cons, conjoined, disjoined]
      decide

end Truth

/-! ### Conditions -/

namespace Condition

mutual

/-- The condition with the parts taken out of it that say nothing. -/
def pruned : Condition → Condition
  | all parts => all (prunedParts parts)
  | any parts => any (prunedParts parts)
  | negation inner => negation inner.pruned
  | condition => condition

/-- The conditions that say something, with the parts taken out of them that say nothing. -/
def prunedParts : List Condition → List Condition
  | [] => []
  | part :: rest => if part.isEmpty then prunedParts rest else part.pruned :: prunedParts rest

end

theorem prunedParts_eq (parts : List Condition) :
    prunedParts parts = (parts.filter fun part => !part.isEmpty).map pruned := by
  induction parts with
  | nil => rfl
  | cons part rest inductionHypothesis =>
    rw [prunedParts, List.filter_cons]
    by_cases empty : part.isEmpty
    · simp [empty, inductionHypothesis]
    · simp [empty, inductionHypothesis]

mutual

/-- The value of a condition, where `valuation` gives the values of its predicates and fragments. -/
def truth (valuation : Condition → Truth) : Condition → Truth
  | all parts => Truth.all (truths valuation parts)
  | any parts => Truth.any (truths valuation parts)
  | negation inner => (truth valuation inner).not
  | membership column values negated =>
    if values.isEmpty then Truth.ofBool negated else valuation (membership column values negated)
  | always => .yes
  | never => .no
  | predicate => valuation predicate

/-- The values of several conditions. -/
def truths (valuation : Condition → Truth) : List Condition → List Truth
  | [] => []
  | part :: rest => truth valuation part :: truths valuation rest

end

theorem truths_eq (valuation : Condition → Truth) (parts : List Condition) :
    truths valuation parts = parts.map (truth valuation) := by
  induction parts with
  | nil => rfl
  | cons part rest inductionHypothesis =>
    rw [truths, List.map_cons, inductionHypothesis]

/-- The value of a condition without its empty parts. -/
def meaning (valuation : Condition → Truth) (condition : Condition) : Truth :=
  condition.pruned.truth valuation

theorem meaning_all (valuation : Condition → Truth) (parts : List Condition) :
    (all parts).meaning valuation =
      Truth.all ((parts.filter fun part => !part.isEmpty).map (meaning valuation)) := by
  rw [meaning, pruned, truth, truths_eq, prunedParts_eq, List.map_map]
  rfl

theorem meaning_any (valuation : Condition → Truth) (parts : List Condition) :
    (any parts).meaning valuation =
      Truth.any ((parts.filter fun part => !part.isEmpty).map (meaning valuation)) := by
  rw [meaning, pruned, truth, truths_eq, prunedParts_eq, List.map_map]
  rfl

theorem meaning_negation (valuation : Condition → Truth) (inner : Condition) :
    (negation inner).meaning valuation = (inner.meaning valuation).not := by
  rw [meaning, pruned, truth]
  rfl

theorem meaning_membership (valuation : Condition → Truth) (column : String)
    (values : List Value) (negated : Bool) :
    (membership column values negated).meaning valuation =
      if values.isEmpty then Truth.ofBool negated
      else valuation (membership column values negated) :=
  rfl

/-! ### Constant conditions -/

/-- A value that a condition has while nothing is known of its predicates is its value whatever
they say. -/
theorem truth_of_folded (condition : Condition) (valuation : Condition → Truth) :
    (condition.truth (fun _ => .unknown) = .yes → condition.truth valuation = .yes) ∧
      (condition.truth (fun _ => .unknown) = .no → condition.truth valuation = .no) := by
  induction condition with
  | all parts inductionHypothesis =>
    simp only [truth, truths_eq, Truth.all_eq_yes, Truth.all_eq_no, List.mem_map,
      forall_exists_index, and_imp, forall_apply_eq_imp_iff₂, exists_exists_and_eq_and]
    constructor
    · intro folded part member
      exact (inductionHypothesis part member).1 (folded part member)
    · intro part member folded
      exact ⟨part, member, (inductionHypothesis part member).2 folded⟩
  | any parts inductionHypothesis =>
    simp only [truth, truths_eq, Truth.any_eq_yes, Truth.any_eq_no, List.mem_map,
      forall_exists_index, and_imp, forall_apply_eq_imp_iff₂, exists_exists_and_eq_and]
    constructor
    · intro part member folded
      exact ⟨part, member, (inductionHypothesis part member).1 folded⟩
    · intro folded part member
      exact (inductionHypothesis part member).2 (folded part member)
  | negation inner inductionHypothesis =>
    simp only [truth, Truth.not_eq_yes, Truth.not_eq_no]
    exact inductionHypothesis.symm
  | membership column values negated =>
    unfold truth
    by_cases none : values.isEmpty
    · rw [if_pos none, if_pos none]
      exact ⟨id, id⟩
    · rw [if_neg none, if_neg none]
      constructor <;> intro impossible <;> cases impossible
  | always => exact ⟨id, id⟩
  | never => exact ⟨id, id⟩
  | _ => constructor <;> intro impossible <;> cases impossible

/-- What a condition comes to while nothing is known of its predicates and fragments. -/
def folded (condition : Condition) : Truth :=
  condition.meaning fun _ => .unknown

/-- A condition is constantly true just if it comes to that with nothing known. -/
theorem folded_eq_yes (condition : Condition) :
    condition.folded = .yes ↔ ∀ valuation, condition.meaning valuation = .yes :=
  ⟨fun known valuation => (truth_of_folded condition.pruned valuation).1 known,
    fun constant => constant _⟩

end Condition

/-! ### Filters -/

namespace Filter

/-- The value of a filter: its conditions that say something, joined by AND. -/
def meaning (valuation : Condition → Truth) (filter : Filter) : Truth :=
  (Condition.all filter.conditions).meaning valuation

theorem meaning_eq_yes (valuation : Condition → Truth) (filter : Filter) :
    filter.meaning valuation = .yes ↔
      ∀ condition ∈ filter.conditions, condition.isEmpty = false →
        condition.meaning valuation = .yes := by
  rw [meaning, Condition.meaning_all, Truth.all_eq_yes, List.forall_mem_map]
  simp only [List.mem_filter, Bool.not_eq_true', and_imp]

end Filter

end OracleSql
