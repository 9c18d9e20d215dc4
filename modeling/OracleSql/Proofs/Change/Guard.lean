/-
This file says what the guard against changes of all rows achieves. Where such changes are not
allowed, a change is built only if one of its conditions says something and is not recognised as
holding for every row. What is recognised does hold for every row, but not all that holds for every
row is recognised: a test that a column is none of no values does, and so does a NOT over most
constants. So a guarded change can still reach every row, and the main statement says exactly when
it cannot.
-/

import OracleSql.Proofs.Change.Parts
import OracleSql.Proofs.Condition.Truth

namespace OracleSql

namespace Condition

/-! ### What is recognised -/

theorem isEmpty_of_isAlways (condition : Condition) (recognised : condition.isAlways = true) :
    condition.isEmpty = false := by
  induction condition with
  | all parts =>
    rw [isAlways, Bool.and_eq_true, Bool.not_eq_true'] at recognised
    exact recognised.1
  | any parts inductionHypothesis =>
    rw [isAlways, someAlways_eq, List.any_eq_true] at recognised
    obtain ⟨part, member, some⟩ := recognised
    rw [isEmpty, allEmpty_eq, List.all_eq_false]
    exact ⟨part, member, by rw [inductionHypothesis part member some]; decide⟩
  | negation inner =>
    cases inner with
    | never => rfl
    | _ => cases recognised
  | _ => rfl

/-- What the guard recognises holds for every row, whatever its predicates say. -/
theorem meaning_of_isAlways (condition : Condition) (recognised : condition.isAlways = true)
    (valuation : Condition → Truth) : condition.meaning valuation = .yes := by
  induction condition with
  | all parts inductionHypothesis =>
    rw [isAlways, Bool.and_eq_true, allAlways_eq, List.all_eq_true] at recognised
    rw [meaning_all, Truth.all_eq_yes, List.forall_mem_map]
    intro part member
    obtain ⟨member, full⟩ := List.mem_filter.mp member
    have always := recognised.2 part member
    rw [Bool.not_eq_true'] at full
    rw [full, Bool.false_or] at always
    exact inductionHypothesis part member always
  | any parts inductionHypothesis =>
    rw [isAlways, someAlways_eq, List.any_eq_true] at recognised
    obtain ⟨part, member, some⟩ := recognised
    rw [meaning_any, Truth.any_eq_yes]
    refine ⟨part.meaning valuation, List.mem_map_of_mem ?_, inductionHypothesis part member some⟩
    rw [List.mem_filter, isEmpty_of_isAlways part some]
    exact ⟨member, rfl⟩
  | negation inner =>
    cases inner with
    | never => rfl
    | _ => cases recognised
  | always => rfl
  | _ => cases recognised

/-! ### What is not recognised -/

mutual

/-- Whether no part of the condition is a constant, as a test against no values is one. -/
def isOpen : Condition → Bool
  | all parts => allOpen parts
  | any parts => allOpen parts
  | negation inner => inner.isOpen
  | membership _ values _ => !values.isEmpty
  | always => false
  | never => false
  | _ => true

/-- Whether no part of some conditions is a constant. -/
def allOpen : List Condition → Bool
  | [] => true
  | part :: rest => part.isOpen && allOpen rest

end

mutual

/-- Whether every list of values that a column is to be none of has members, and every NOT stands
over the constant that no row meets or over a condition without constants. -/
def isPlain : Condition → Bool
  | all parts => allPlain parts
  | any parts => allPlain parts
  | negation inner => inner.isNever || inner.isOpen
  | membership _ values negated => !(values.isEmpty && negated)
  | _ => true

/-- Whether each of some conditions is plain. -/
def allPlain : List Condition → Bool
  | [] => true
  | part :: rest => part.isPlain && allPlain rest

end

theorem allOpen_eq (parts : List Condition) : allOpen parts = parts.all isOpen := by
  induction parts with
  | nil => rfl
  | cons part rest inductionHypothesis =>
    rw [allOpen, List.all_cons, inductionHypothesis]

theorem allPlain_eq (parts : List Condition) : allPlain parts = parts.all isPlain := by
  induction parts with
  | nil => rfl
  | cons part rest inductionHypothesis =>
    rw [allPlain, List.all_cons, inductionHypothesis]

/-- Nothing is known of a condition without constants while nothing is known of its predicates. -/
theorem folded_of_isOpen (condition : Condition) (free : condition.isOpen = true)
    (full : condition.isEmpty = false) : condition.folded = .unknown := by
  have joined (parts : List Condition)
      (each : ∀ part ∈ parts, part.isOpen = true → part.isEmpty = false → part.folded = .unknown)
      (free : allOpen parts = true) (full : allEmpty parts = false) :
      Truth.all ((parts.filter fun part => !part.isEmpty).map folded) = .unknown ∧
        Truth.any ((parts.filter fun part => !part.isEmpty).map folded) = .unknown := by
    rw [allOpen_eq, List.all_eq_true] at free
    rw [allEmpty_eq, List.all_eq_false] at full
    refine Truth.joined_unknown ?_ ?_
    · obtain ⟨part, member, some⟩ := full
      refine List.ne_nil_of_mem (List.mem_map_of_mem (List.mem_filter.mpr ⟨member, ?_⟩))
      rw [Bool.not_eq_true', ← Bool.not_eq_true]
      exact some
    · rw [List.forall_mem_map]
      intro part member
      obtain ⟨member, some⟩ := List.mem_filter.mp member
      exact each part member (free part member) (by simpa using some)
  induction condition with
  | all parts inductionHypothesis =>
    rw [folded, meaning_all]
    exact (joined parts inductionHypothesis free full).1
  | any parts inductionHypothesis =>
    rw [folded, meaning_any]
    exact (joined parts inductionHypothesis free full).2
  | negation inner inductionHypothesis =>
    have unknown := inductionHypothesis free full
    rw [folded] at unknown ⊢
    rw [meaning_negation, unknown]
    rfl
  | membership column values negated =>
    rw [isOpen, Bool.not_eq_true'] at free
    rw [folded, meaning_membership, free]
    rfl
  | always => cases free
  | never => cases free
  | _ => rfl

/-- A plain condition that is constantly true is recognised. -/
theorem isAlways_of_folded (condition : Condition) (plain : condition.isPlain = true)
    (full : condition.isEmpty = false) (constant : condition.folded = .yes) :
    condition.isAlways = true := by
  induction condition with
  | all parts inductionHypothesis =>
    rw [isPlain, allPlain_eq, List.all_eq_true] at plain
    rw [folded, meaning_all, Truth.all_eq_yes, List.forall_mem_map] at constant
    rw [isEmpty] at full
    rw [isAlways, full, allAlways_eq, Bool.not_false, Bool.true_and, List.all_eq_true]
    intro part member
    by_cases empty : part.isEmpty = true
    · rw [empty, Bool.true_or]
    · rw [Bool.not_eq_true] at empty
      have kept : part ∈ parts.filter fun part => !part.isEmpty :=
        List.mem_filter.mpr ⟨member, by rw [empty]; rfl⟩
      rw [inductionHypothesis part member (plain part member) empty (constant part kept),
        Bool.or_true]
  | any parts inductionHypothesis =>
    rw [isPlain, allPlain_eq, List.all_eq_true] at plain
    rw [folded, meaning_any, Truth.any_eq_yes] at constant
    obtain ⟨_, image, holds⟩ := constant
    obtain ⟨part, kept, rfl⟩ := List.mem_map.mp image
    obtain ⟨member, some⟩ := List.mem_filter.mp kept
    rw [isAlways, someAlways_eq, List.any_eq_true]
    exact ⟨part, member, inductionHypothesis part member (plain part member)
      (by simpa using some) holds⟩
  | negation inner =>
    rw [isPlain, Bool.or_eq_true] at plain
    rcases plain with never | free
    · exact never
    · have unknown := folded_of_isOpen inner free full
      rw [folded] at unknown constant
      rw [meaning_negation, unknown] at constant
      cases constant
  | membership column values negated =>
    rw [folded, meaning_membership] at constant
    by_cases none : values.isEmpty = true
    · rw [if_pos none] at constant
      rw [isPlain, none, Bool.true_and, Bool.not_eq_true'] at plain
      rw [plain] at constant
      cases constant
    · rw [if_neg none] at constant
      cases constant
  | always => rfl
  | never => cases constant
  | _ => cases constant

end Condition

/-! ### The guard -/

namespace Filter

/-- Whether some values of the predicates make the filter other than true. -/
def LeavesOut (filter : Filter) : Prop :=
  ∃ valuation, filter.meaning valuation ≠ .yes

/-- A filter can leave a row out just if one of its conditions can. -/
theorem leavesOut_iff (filter : Filter) :
    filter.LeavesOut ↔
      ∃ condition ∈ filter.conditions, condition.isEmpty = false ∧ condition.folded ≠ .yes := by
  constructor
  · rintro ⟨valuation, differs⟩
    rw [ne_eq, meaning_eq_yes] at differs
    push Not at differs
    obtain ⟨condition, member, full, some⟩ := differs
    exact ⟨condition, member, full, fun constant =>
      some ((condition.folded_eq_yes.mp constant) valuation)⟩
  · rintro ⟨condition, member, full, known⟩
    refine ⟨fun _ => .unknown, fun constant => known ?_⟩
    exact (meaning_eq_yes _ filter).mp constant condition member full

/-- A filter of plain conditions that passes the guard can leave a row out. -/
theorem leavesOut_of_restricts (filter : Filter) (restricts : filter.restricts = true)
    (plain : ∀ condition ∈ filter.conditions, condition.isPlain = true) : filter.LeavesOut := by
  rw [Filter.restricts, List.any_eq_true] at restricts
  obtain ⟨condition, member, passes⟩ := restricts
  rw [Bool.and_eq_true, Bool.not_eq_true', Bool.not_eq_true'] at passes
  obtain ⟨full, unrecognised⟩ := passes
  refine filter.leavesOut_iff.mpr ⟨condition, member, full, fun constant => ?_⟩
  have recognised := condition.isAlways_of_folded (plain condition member) full constant
  rw [unrecognised] at recognised
  cases recognised

end Filter

/-- Where changes of all rows are not allowed, a removal or a change of rows that is planned can
leave a row out exactly if one of its conditions says something and is not constantly true. It can
if its conditions are plain, since the guard recognises the plain ones that are constantly true. -/
theorem guarded_change_leavesOut_iff (dialect : Dialect)
    (guarded : dialect.allowGlobalUpdate = false) :
    (∀ (delete : Delete) (plan : Plan), delete.allowAll = false → delete.plan dialect = .ok plan →
      (delete.filter.LeavesOut ↔ ∃ condition ∈ delete.filter.conditions,
        condition.isEmpty = false ∧ condition.folded ≠ .yes) ∧
      ((∀ condition ∈ delete.filter.conditions, condition.isPlain = true) →
        delete.filter.LeavesOut)) ∧
    ∀ (update : Update) (plan : Plan), update.allowAll = false → update.plan dialect = .ok plan →
      (update.filter.LeavesOut ↔ ∃ condition ∈ update.filter.conditions,
        condition.isEmpty = false ∧ condition.folded ≠ .yes) ∧
      ((∀ condition ∈ update.filter.conditions, condition.isPlain = true) →
        update.filter.LeavesOut) := by
  constructor
  · intro delete plan bare planned
    obtain ⟨statement, built, _⟩ := map_eq_ok.mp (mapError_eq_ok.mp planned)
    obtain ⟨allowed, _⟩ := Delete.parts_of_build built
    rw [bare, guarded, Bool.or_false, Bool.or_false] at allowed
    exact ⟨delete.filter.leavesOut_iff, delete.filter.leavesOut_of_restricts allowed⟩
  · intro update plan bare planned
    obtain ⟨statement, built, _⟩ := map_eq_ok.mp (mapError_eq_ok.mp planned)
    obtain ⟨allowed, _⟩ := Update.parts_of_build built
    rw [bare, guarded, Bool.or_false, Bool.or_false] at allowed
    exact ⟨update.filter.leavesOut_iff, update.filter.leavesOut_of_restricts allowed⟩

/-- The two parts at a removal and a change of rows. -/
theorem guarded_removal_leavesOut :
    let removal : Delete :=
      { table := "t"
        filter := ⟨[.membership "id" [] true,
          .any [.compare "a" .equal .null, .negation .always]]⟩ }
    let change : Update :=
      { table := "t"
        assignments := [("a", .value .null)]
        filter := ⟨[.negation (.compare "a" .equal .null)]⟩ }
    removal.filter.LeavesOut ∧ change.filter.LeavesOut := by
  intro removal change
  obtain ⟨plan, planned⟩ := exists_of_isOk (by decide +kernel : (removal.plan {}).isOk = true)
  obtain ⟨other, plannedToo⟩ := exists_of_isOk (by decide +kernel : (change.plan {}).isOk = true)
  constructor
  · refine ((guarded_change_leavesOut_iff {} rfl).1 removal plan rfl planned).1.mpr ?_
    exact ⟨_, List.mem_cons_of_mem _ List.mem_cons_self, rfl, by decide⟩
  · refine ((guarded_change_leavesOut_iff {} rfl).2 change other rfl plannedToo).2 ?_
    intro condition member
    rw [List.mem_singleton] at member
    rw [member]
    rfl

/-- A removal of all rows passes the guard with a test that a column is none of no values, and a
change of all rows with a NOT over a NOT. -/
theorem guarded_removal_of_all_rows :
    let removal : Delete := { table := "t", filter := ⟨[.membership "id" [] true]⟩ }
    let change : Update :=
      { table := "t"
        assignments := [("a", .value .null)]
        filter := ⟨[.negation (.negation .always)]⟩ }
    removal.allowAll = false ∧ change.allowAll = false ∧ ({} : Dialect).allowGlobalUpdate = false ∧
      (∃ plan, removal.plan {} = .ok plan) ∧ (∃ plan, change.plan {} = .ok plan) ∧
      ¬removal.filter.LeavesOut ∧ ¬change.filter.LeavesOut := by
  intro removal change
  refine ⟨rfl, rfl, rfl, exists_of_isOk (by decide +kernel), exists_of_isOk (by decide +kernel),
    ?_, ?_⟩
  · rintro ⟨valuation, differs⟩
    exact differs rfl
  · rintro ⟨valuation, differs⟩
    exact differs rfl

end OracleSql
