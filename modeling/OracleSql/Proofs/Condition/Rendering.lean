/-
This file shows that a written condition means what its tree means. The text is read with the
precedence of SQL and the tree by its structure, without the parts that say nothing; whatever the
predicates are taken to be, the values are the same. A fragment means what its own text means when
it is read alone, so that no operator in it takes a neighbour, and a test against a list that is cut
into several means these tests together.

The induction keeps two facts of every condition. What is written has the value when it stands alone
or in parentheses; and if the condition gets no parentheses beside an AND, it has the value there as
well. Beside an OR the first of them is enough.
-/

import OracleSql.Proofs.Condition.Predicate

namespace OracleSql

/-! ### Fragments and predicates -/

namespace Draft

/-- Whether pieces are built, and each literal, quoted name, comment and parenthesis in them is
closed. -/
def isBalanced : Draft → Bool
  | .ok pieces =>
    (tokens? (pieces.flatMap Piece.glyphs)).any fun tokens => Token.depth? 0 tokens = some 0
  | .error _ => false

variable (assignment : List Token → Truth)

/-- The value of a predicate that is written. -/
def predicateTruth : Draft → Truth
  | .ok pieces => assignment (Piece.tokens pieces)
  | .error _ => .unknown

/-- The value of a fragment that is read alone. -/
def fragmentTruth : Draft → Truth
  | .ok pieces => (Piece.reading assignment pieces).getD .unknown
  | .error _ => .unknown

variable {assignment}

/-- A balanced fragment that stands alone or in parentheses has the value that it has by itself. -/
theorem means_of_isBalanced {draft : Draft} (balanced : isBalanced draft = true) :
    ∃ pieces, draft = .ok pieces ∧ Means assignment pieces (fragmentTruth assignment draft) := by
  cases draft with
  | error failure => cases balanced
  | ok pieces =>
    simp only [isBalanced, Option.any_eq_true, decide_eq_true_eq] at balanced
    obtain ⟨tokens, scanned, closed⟩ := balanced
    obtain ⟨parts, phrase, rfl⟩ := Phrase.exists_of_balanced assignment closed
    have renders : Renders assignment pieces parts := ⟨scanned, phrase⟩
    refine ⟨pieces, rfl, parts, renders, ?_⟩
    rw [fragmentTruth, renders.reading]
    rfl

end Draft

namespace Condition

mutual

/-- Whether the columns of a condition are names and its fragments are balanced. -/
def isLegible (dialect : Dialect) : Condition → Bool
  | all parts => allLegible dialect parts
  | any parts => allLegible dialect parts
  | negation inner => inner.isLegible dialect
  | compare column _ _ => (dialect.nameText column).isOk
  | nullness column _ => (dialect.nameText column).isOk
  | membership column values _ => values.isEmpty || (dialect.nameText column).isOk
  | range column _ _ _ => (dialect.nameText column).isOk
  | template sql values => Draft.isBalanced (dialect.fragment sql { positional := values })
  | fragment sql => Draft.isBalanced (dialect.fragment sql {})
  | always => true
  | never => true

/-- Whether each of some conditions is legible. -/
def allLegible (dialect : Dialect) : List Condition → Bool
  | [] => true
  | part :: rest => part.isLegible dialect && allLegible dialect rest

end

theorem allLegible_eq (dialect : Dialect) (parts : List Condition) :
    allLegible dialect parts = parts.all (isLegible dialect) := by
  induction parts with
  | nil => rfl
  | cons part rest inductionHypothesis =>
    rw [allLegible, List.all_cons, inductionHypothesis]

/-- What the single conditions of a tree say, where `assignment` gives the values of predicates. -/
def leafTruth (dialect : Dialect) (assignment : List Token → Truth) : Condition → Truth
  | membership column values negated =>
    let tests := (chunks maxListLength values).map fun list =>
      Draft.predicateTruth assignment
        ((dialect.nameText column).map fun name => listPieces dialect name negated list)
    if negated then Truth.all tests else Truth.any tests
  | template sql values =>
    Draft.fragmentTruth assignment (dialect.fragment sql { positional := values })
  | fragment sql => Draft.fragmentTruth assignment (dialect.fragment sql {})
  | condition => Draft.predicateTruth assignment (condition.pieces dialect)

/-! ### Parentheses -/

variable {dialect : Dialect} {assignment : List Token → Truth}

theorem means_parenthesized (wanted : Bool) {own : List Piece} {truth : Truth}
    (means : Means assignment own truth) : Means assignment (parenthesized wanted own) truth := by
  cases wanted with
  | false => exact means
  | true => exact means.enclosed.means

theorem meansJoined_parenthesized {wanted : Bool} {own : List Piece} {truth : Truth}
    (means : Means assignment own truth)
    (bare : wanted = false → MeansJoined assignment own truth) :
    MeansJoined assignment (parenthesized wanted own) truth := by
  cases wanted with
  | false => exact bare rfl
  | true => exact means.enclosed

/-- Tests against several lists are joined and put in parentheses, a single one stands by itself. -/
theorem membership_means {column written : String} (named : dialect.nameText column = .ok written)
    {values : List Value} (some : values.isEmpty = false) (negated : Bool) :
    ∃ own, pieces dialect (.membership column values negated) = .ok own ∧
      MeansJoined assignment own
        (leafTruth dialect assignment (.membership column values negated)) := by
  have value : leafTruth dialect assignment (.membership column values negated) =
      if negated then Truth.all ((chunks maxListLength values).map fun list =>
        assignment (Piece.tokens (listPieces dialect written negated list)))
      else Truth.any ((chunks maxListLength values).map fun list =>
        assignment (Piece.tokens (listPieces dialect written negated list))) := by
    rw [leafTruth, named]
    rfl
  rw [value, pieces, membershipPieces, named, some, if_neg Bool.false_ne_true]
  refine ⟨_, rfl, ?_⟩
  have each : List.Forall₂ (MeansJoined assignment)
      ((chunks maxListLength values).map (listPieces dialect written negated))
      ((chunks maxListLength values).map fun list =>
        assignment (Piece.tokens (listPieces dialect written negated list))) := by
    rw [List.forall₂_map_left_iff, List.forall₂_map_right_iff, List.forall₂_same]
    exact fun list _ => (list_isTest named negated list).isPredicate assignment
  have present : (chunks maxListLength values).map (listPieces dialect written negated) ≠ [] := by
    cases values with
    | nil => cases some
    | cons first rest =>
      rw [chunks]
      exact List.cons_ne_nil _ _
  cases negated with
  | true =>
    have joined := MeansJoined.join present each
    exact meansJoined_parenthesized joined.means fun _ => joined
  | false =>
    have joined := Means.join present (each.imp fun _ _ means => means.means)
    refine meansJoined_parenthesized joined fun single => ?_
    have bound := of_decide_eq_false single
    have length := List.length_pos_iff.mpr present
    obtain ⟨own, truth, lists, truths, sole⟩ := forall₂_single each (by omega)
    rw [lists, truths, if_neg Bool.false_ne_true, if_neg Bool.false_ne_true, Truth.any_singleton]
    exact sole

/-! ### Trees -/

/-- What holds of the parts of a tree that say something, in their parentheses, holds of the list
of them. -/
theorem exists_partPieces {wanted : Condition → Bool} {related : List Piece → Truth → Prop}
    {truths : Condition → Truth} {parts : List Condition}
    (each : ∀ part ∈ parts, part.isEmpty = false →
      ∃ own, pieces dialect part = .ok own ∧
        related (parenthesized (wanted part) own) (truths part)) :
    ∃ lists, partPieces dialect wanted parts = .ok lists ∧
      List.Forall₂ related lists ((parts.filter fun part => !part.isEmpty).map truths) := by
  induction parts with
  | nil => exact ⟨[], rfl, .nil⟩
  | cons part rest inductionHypothesis =>
    rw [List.forall_mem_cons] at each
    obtain ⟨lists, built, others⟩ := inductionHypothesis each.2
    rw [partPieces, List.filter_cons]
    cases empty : part.isEmpty with
    | true => exact ⟨lists, built, others⟩
    | false =>
      obtain ⟨own, written, head⟩ := each.1 empty
      refine ⟨parenthesized (wanted part) own :: lists, ?_, .cons head others⟩
      rw [if_neg Bool.false_ne_true, written, built]
      rfl

/-- The written condition means what its tree means, also beside an AND if it gets no
parentheses there. -/
def Keeps (dialect : Dialect) (assignment : List Token → Truth) (condition : Condition) : Prop :=
  ∃ own, pieces dialect condition = .ok own ∧
    Means assignment own (condition.meaning (leafTruth dialect assignment)) ∧
      (condition.enclosedInAll = false →
        MeansJoined assignment own (condition.meaning (leafTruth dialect assignment)))

theorem Keeps.ofJoined {condition : Condition}
    (written : ∃ own, pieces dialect condition = .ok own ∧
      MeansJoined assignment own (condition.meaning (leafTruth dialect assignment))) :
    Keeps dialect assignment condition := by
  obtain ⟨own, built, joined⟩ := written
  exact ⟨own, built, joined.means, fun _ => joined⟩

theorem Keeps.ofTest {condition : Condition}
    (written : ∃ own, pieces dialect condition = .ok own)
    (tests : Ensures IsTest (pieces dialect condition))
    (single : condition.meaning (leafTruth dialect assignment) =
      Draft.predicateTruth assignment (pieces dialect condition)) :
    Keeps dialect assignment condition := by
  obtain ⟨own, built⟩ := written
  refine Keeps.ofJoined ⟨own, built, ?_⟩
  rw [single, built]
  exact (tests own built).isPredicate assignment

theorem exists_of_allEmpty {parts : List Condition} (some : allEmpty parts = false) :
    ∃ part ∈ parts, part.isEmpty = false := by
  rw [allEmpty_eq, List.all_eq_false] at some
  simpa only [Bool.not_eq_true] using some

/-- The parts of a joined condition that say something are written in a row, each with the value
that it keeps there. -/
theorem exists_row {wanted : Condition → Bool} {related : List Piece → Truth → Prop}
    {truths : Condition → Truth} {parts : List Condition} (some : allEmpty parts = false)
    (each : ∀ part ∈ parts, part.isEmpty = false →
      ∃ own, pieces dialect part = .ok own ∧
        related (parenthesized (wanted part) own) (truths part)) :
    ∃ lists, partPieces dialect wanted parts = .ok lists ∧ lists ≠ [] ∧
      List.Forall₂ related lists ((parts.filter fun part => !part.isEmpty).map truths) := by
  obtain ⟨lists, built, related⟩ := exists_partPieces each
  refine ⟨lists, built, ?_, related⟩
  rintro rfl
  obtain ⟨part, member, present⟩ := exists_of_allEmpty some
  have none := List.map_eq_nil_iff.mp (List.forall₂_nil_left_iff.mp related)
  rw [List.filter_eq_nil_iff] at none
  exact none part member (by rw [present]; rfl)

/-- Conditions joined by AND keep their values, if each of them does. -/
theorem all_meansJoined {parts : List Condition} (some : allEmpty parts = false)
    (each : ∀ part ∈ parts, part.isEmpty = false → Keeps dialect assignment part) :
    ∃ own, pieces dialect (all parts) = .ok own ∧
      MeansJoined assignment own ((all parts).meaning (leafTruth dialect assignment)) := by
  have written : ∀ part ∈ parts, part.isEmpty = false → ∃ own, pieces dialect part = .ok own ∧
      MeansJoined assignment (parenthesized part.enclosedInAll own)
        (part.meaning (leafTruth dialect assignment)) := by
    intro part member present
    obtain ⟨own, built, means, joined⟩ := each part member present
    exact ⟨own, built, meansJoined_parenthesized means joined⟩
  obtain ⟨lists, built, present, related⟩ := exists_row some written
  rw [pieces, built, meaning_all]
  exact ⟨_, rfl, MeansJoined.join present related⟩

/-- Conditions joined by OR keep their values, if each of them does. -/
theorem any_means {parts : List Condition} (some : allEmpty parts = false)
    (each : ∀ part ∈ parts, part.isEmpty = false → Keeps dialect assignment part) :
    ∃ own, pieces dialect (any parts) = .ok own ∧
      Means assignment own ((any parts).meaning (leafTruth dialect assignment)) := by
  have written : ∀ part ∈ parts, part.isEmpty = false → ∃ own, pieces dialect part = .ok own ∧
      Means assignment (parenthesized part.enclosedInAny own)
        (part.meaning (leafTruth dialect assignment)) := by
    intro part member present
    obtain ⟨own, built, means, _⟩ := each part member present
    exact ⟨own, built, means_parenthesized _ means⟩
  obtain ⟨lists, built, present, related⟩ := exists_row some written
  rw [pieces, built, meaning_any]
  exact ⟨_, rfl, Means.join present related⟩

theorem constant_meansJoined (holds : Bool) :
    MeansJoined assignment [.text (if holds then "1=1" else "1=0")] (Truth.ofBool holds) := by
  cases holds with
  | true =>
    have inert : ∀ token ∈ [.word ['1'], .sign '=', .word ['1']], Token.isInert token = true := by
      decide
    exact ⟨_, ⟨rfl, .tokens inert⟩, by decide, rfl, rfl⟩
  | false =>
    have inert : ∀ token ∈ [.word ['1'], .sign '=', .word ['0']], Token.isInert token = true := by
      decide
    exact ⟨_, ⟨rfl, .tokens inert⟩, by decide, rfl, rfl⟩

/-- Every legible condition that says something keeps its value when it is written. -/
theorem keeps (dialect : Dialect) (assignment : List Token → Truth) (condition : Condition)
    (present : condition.isEmpty = false) (legible : condition.isLegible dialect = true) :
    Keeps dialect assignment condition := by
  induction condition with
  | all parts inductionHypothesis =>
    rw [isLegible, allLegible_eq, List.all_eq_true] at legible
    exact Keeps.ofJoined (all_meansJoined present fun part member some =>
      inductionHypothesis part member some (legible part member))
  | any parts inductionHypothesis =>
    rw [isLegible, allLegible_eq, List.all_eq_true] at legible
    obtain ⟨own, built, means⟩ := any_means present fun part member some =>
      inductionHypothesis part member some (legible part member)
    -- Beside an AND it stands in parentheses, and has no other value to keep.
    exact ⟨own, built, means, fun bare => by cases bare⟩
  | negation inner inductionHypothesis =>
    obtain ⟨own, built, means, _⟩ := inductionHypothesis present legible
    rw [isEmpty] at present
    refine Keeps.ofJoined ⟨Piece.enclosed "NOT (" ")" own, ?_, ?_⟩
    · rw [pieces, present, if_neg Bool.false_ne_true, built]
      rfl
    · rw [meaning_negation]
      exact means.negated
  | compare column comparison value =>
    obtain ⟨written, named⟩ := exists_of_isOk legible
    have built : ∃ own, pieces dialect (.compare column comparison value) = .ok own := by
      rw [pieces, comparePieces, named]
      by_cases folds : comparison.foldsCase
      · exact ⟨_, if_pos folds⟩
      · exact ⟨_, if_neg folds⟩
    exact Keeps.ofTest built (compare_isTest column comparison value) rfl
  | nullness column isNull =>
    obtain ⟨written, named⟩ := exists_of_isOk legible
    have built : ∃ own, pieces dialect (.nullness column isNull) = .ok own := by
      rw [pieces, named]
      exact ⟨_, rfl⟩
    exact Keeps.ofTest built (nullness_isTest column isNull) rfl
  | membership column values negated =>
    cases none : values.isEmpty with
    | true =>
      refine Keeps.ofJoined ⟨_, by rw [pieces, membershipPieces, if_pos none], ?_⟩
      rw [meaning_membership, if_pos none]
      exact constant_meansJoined negated
    | false =>
      rw [isLegible, none, Bool.false_or] at legible
      obtain ⟨written, named⟩ := exists_of_isOk legible
      have written := @membership_means dialect assignment _ _ named _ none negated
      refine Keeps.ofJoined ?_
      rw [meaning_membership, none]
      exact written
  | range column low high negated =>
    obtain ⟨written, named⟩ := exists_of_isOk legible
    have built : ∃ own, pieces dialect (.range column low high negated) = .ok own := by
      rw [pieces, named]
      exact ⟨_, rfl⟩
    exact Keeps.ofTest built (range_isTest column low high negated) rfl
  | template sql values =>
    obtain ⟨own, built, means⟩ := @Draft.means_of_isBalanced assignment _ legible
    exact ⟨own, by rw [pieces, built], means, fun bare => by cases bare⟩
  | fragment sql =>
    obtain ⟨own, built, means⟩ := @Draft.means_of_isBalanced assignment _ legible
    exact ⟨own, by rw [pieces, built], means, fun bare => by cases bare⟩
  | always => exact Keeps.ofJoined ⟨_, rfl, constant_meansJoined true⟩
  | never => exact Keeps.ofJoined ⟨_, rfl, constant_meansJoined false⟩

end Condition

/-! ### Filters -/

namespace Filter

variable {dialect : Dialect} {assignment : List Token → Truth}

/-- Whether each condition of the filter is legible. -/
def isLegible (dialect : Dialect) (filter : Filter) : Bool :=
  filter.conditions.all (Condition.isLegible dialect)

theorem enclosed_eq {filter : Filter} (several : filter.hasSeveral = true) :
    filter.enclosed = Condition.enclosedInAll := by
  funext condition
  cases condition with
  | any parts => rfl
  | _ =>
    show (filter.hasSeveral && _) = _
    rw [several]
    rfl

/-- Every legible filter that says something keeps its value when it is written. -/
theorem means {filter : Filter} (present : filter.isEmpty = false)
    (legible : filter.isLegible dialect = true) :
    ∃ own, filter.pieces dialect = .ok own ∧
      Means assignment own (filter.meaning (Condition.leafTruth dialect assignment)) := by
  rw [isLegible, List.all_eq_true] at legible
  rw [isEmpty, ← Condition.allEmpty_eq] at present
  have each : ∀ part ∈ filter.conditions, part.isEmpty = false →
      Condition.Keeps dialect assignment part :=
    fun part member some => Condition.keeps dialect assignment part some (legible part member)
  cases several : filter.hasSeveral with
  | true =>
    obtain ⟨own, built, joined⟩ := Condition.all_meansJoined present each
    refine ⟨own, ?_, joined.means⟩
    rw [pieces, enclosed_eq several]
    exact built
  | false =>
    have written : ∀ part ∈ filter.conditions, part.isEmpty = false →
        ∃ own, part.pieces dialect = .ok own ∧
          Means assignment (Condition.parenthesized (filter.enclosed part) own)
            (part.meaning (Condition.leafTruth dialect assignment)) := by
      intro part member some
      obtain ⟨own, built, means, _⟩ := each part member some
      exact ⟨own, built, Condition.means_parenthesized _ means⟩
    obtain ⟨lists, built, some, related⟩ := Condition.exists_row present written
    have length := related.length_eq
    have bound := of_decide_eq_false several
    rw [List.length_map] at length
    have single : lists.length = 1 := by
      have positive := List.length_pos_iff.mpr some
      omega
    obtain ⟨own, truth, rfl, truths, sole⟩ := forall₂_single related single
    refine ⟨own, ?_, ?_⟩
    · rw [pieces, built]
      rfl
    · rw [meaning, Condition.meaning_all, truths, Truth.all_singleton]
      exact sole

end Filter

/-- What is written for a condition, or for a filter, has the value of its tree for every assignment
of values to the predicates. -/
theorem reading_written_condition (dialect : Dialect) :
    (∀ condition : Condition, condition.isEmpty = false → condition.isLegible dialect = true →
      ∃ own, condition.pieces dialect = .ok own ∧ ∀ assignment,
        Piece.reading assignment own =
          some (condition.meaning (Condition.leafTruth dialect assignment))) ∧
    (∀ filter : Filter, filter.isEmpty = false → filter.isLegible dialect = true →
      ∃ own, filter.pieces dialect = .ok own ∧ ∀ assignment,
        Piece.reading assignment own =
          some (filter.meaning (Condition.leafTruth dialect assignment))) := by
  constructor
  · intro condition present legible
    obtain ⟨own, written, _⟩ :=
      Condition.keeps dialect (fun _ => .unknown) condition present legible
    refine ⟨own, written, fun assignment => ?_⟩
    obtain ⟨other, again, means, _⟩ := Condition.keeps dialect assignment condition present legible
    cases written.symm.trans again
    exact means.reading
  · intro filter present legible
    obtain ⟨own, written, _⟩ := @Filter.means dialect (fun _ => .unknown) filter present legible
    refine ⟨own, written, fun assignment => ?_⟩
    obtain ⟨other, again, means⟩ := @Filter.means dialect assignment filter present legible
    cases written.symm.trans again
    exact means.reading

/-- Fragments with an OR keep their values beside an AND. -/
theorem reading_written_condition_of_fragments :
    let condition : Condition := .all [.compare "a" .equal (.int 1), .any [],
      .fragment "x = 1 OR y = 2", .negation (.range "d" (.int 4) (.int 5) false)]
    let filter : Filter := ⟨[condition, .template "b = ? OR (c = ?)" [.int 2, .int 3],
      .membership "t.id" [] true]⟩
    (condition.isEmpty = false ∧ condition.isLegible {} = true ∧
      ∃ own, condition.pieces {} = .ok own ∧ ∀ assignment, Piece.reading assignment own =
        some (condition.meaning (Condition.leafTruth {} assignment))) ∧
    filter.isEmpty = false ∧ filter.isLegible {} = true ∧
      ∃ own, filter.pieces {} = .ok own ∧ ∀ assignment, Piece.reading assignment own =
        some (filter.meaning (Condition.leafTruth {} assignment)) := by
  intro condition filter
  have conditionLegible : condition.isLegible {} = true := by decide +kernel
  have filterLegible : filter.isLegible {} = true := by decide +kernel
  exact ⟨⟨rfl, conditionLegible, (reading_written_condition {}).1 condition rfl conditionLegible⟩,
    rfl, filterLegible, (reading_written_condition {}).2 filter rfl filterLegible⟩

end OracleSql
