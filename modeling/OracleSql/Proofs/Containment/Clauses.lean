/-
This file runs conditions and clauses side by side that are the same but for their names. Whether a
condition says anything, and where it needs parentheses, does not depend on names, so both are
written in the same form, and their names as the same parts.
-/

import OracleSql.Proofs.Containment.Renaming

namespace OracleSql

variable {rule : Renaming}

/-! ### Conditions -/

namespace Condition

/-- Whether a condition says nothing does not depend on its names. -/
theorem Renamed.isEmpty_eq {first second : Condition} (renamed : Renamed rule first second) :
    first.isEmpty = second.isEmpty := by
  have parts {members others : List Condition}
      (alike : List.Forall₂ (Renamed rule) members others)
      (each : ∀ part ∈ members, ∀ other, Renamed rule part other → part.isEmpty = other.isEmpty) :
      allEmpty members = allEmpty others := by
    induction alike with
    | nil => rfl
    | cons head _ inductionHypothesis =>
      obtain ⟨same, rest⟩ := List.forall_mem_cons.mp each
      rw [allEmpty, allEmpty, same _ head, inductionHypothesis rest]
  induction first generalizing second with
  | all members inductionHypothesis =>
    cases renamed with
    | all alike => exact parts alike fun part member _ => inductionHypothesis part member
  | any members inductionHypothesis =>
    cases renamed with
    | any alike => exact parts alike fun part member _ => inductionHypothesis part member
  | negation inner inductionHypothesis =>
    cases renamed with
    | negation alike =>
      have same := inductionHypothesis alike
      exact same
  | _ => cases renamed <;> rfl

theorem Renamed.enclosedInAll_eq {first second : Condition} (renamed : Renamed rule first second) :
    first.enclosedInAll = second.enclosedInAll := by
  cases renamed <;> rfl

theorem Renamed.enclosedInAny_eq {first second : Condition} (renamed : Renamed rule first second) :
    first.enclosedInAny = second.enclosedInAny := by
  cases renamed <;> rfl

section

variable (dialect : Dialect)

theorem parenthesized_parallel {style : MarkerStyle} (wanted : Bool) {first second : List Piece}
    (parallel : Parallel style .free first second .word) :
    Parallel style .free (parenthesized wanted first) (parenthesized wanted second) .word := by
  cases wanted with
  | false => exact parallel
  | true => exact Parallel.enclosed (by decide) parallel .bracket

theorem comparePieces_parallel {column other : String} (comparison : Comparison) (value : Value)
    (same : Identifier.shape? column = Identifier.shape? other) :
    Agree (Parallel dialect.markerStyle .free · · .word)
      (comparePieces dialect column comparison value)
      (comparePieces dialect other comparison value) := by
  refine Agree.bind (dialect.nameText_parallel same) fun name another named => ?_
  have operator : Fixed .free comparison.operator .word := by
    cases comparison <;> decide
  dsimp only
  split
  · have opening : Fixed .free "UPPER(" .free := by decide
    have middle : Fixed .word ") " .free := by decide
    have last : Fixed .word " UPPER(" .free := by decide
    have both := ((((ParallelText.fixed opening).append named).append (.fixed middle)).append
      (.fixed operator)).append (.fixed last)
    exact Agree.ok ((Parallel.text both).cons ((Parallel.value _ _).cons (.fixed .bracket)))
  · have both := ((named.append (.fixed .blank)).append (.fixed operator)).append (.fixed .blank)
    exact Agree.ok ((Parallel.text both).cons (Parallel.value _ _))

theorem listPieces_parallel {name other : String}
    (named : ParallelText dialect.markerStyle .free name other .word) (negated : Bool)
    (values : List Value) :
    Parallel dialect.markerStyle .free (listPieces dialect name negated values)
      (listPieces dialect other negated values) .word := by
  have opening : Fixed .word (if negated then " NOT IN (" else " IN (") .free := by
    cases negated <;> decide
  have bound : Parallel dialect.markerStyle .free
      (Piece.join ", " (values.map fun value => [valuePiece dialect value]))
      (Piece.join ", " (values.map fun value => [valuePiece dialect value])) .word := by
    refine Parallel.join .comma ?_
    rw [List.forall₂_map_left_iff, List.forall₂_map_right_iff]
    exact List.forall₂_same.mpr fun value _ => Parallel.value _ _
  exact (Parallel.text (named.append (.fixed opening))).cons (bound.append (.fixed .bracket))

theorem membershipPieces_parallel {column other : String} (values : List Value) (negated : Bool)
    (same : Identifier.shape? column = Identifier.shape? other) :
    Agree (Parallel dialect.markerStyle .free · · .word)
      (membershipPieces dialect column values negated)
      (membershipPieces dialect other values negated) := by
  unfold membershipPieces
  split
  · have constant : Fixed .free (if negated then "1=1" else "1=0") .word := by
      cases negated <;> decide
    exact Agree.ok (.fixed constant)
  · refine Agree.bind (dialect.nameText_parallel same) fun name another named => Agree.ok ?_
    have separator : Fixed .word (if negated then " AND " else " OR ") .free := by
      cases negated <;> decide
    rw [List.length_map, List.length_map]
    refine parenthesized_parallel _ (Parallel.join separator ?_)
    rw [List.forall₂_map_left_iff, List.forall₂_map_right_iff]
    exact List.forall₂_same.mpr fun chunk _ => listPieces_parallel dialect named negated chunk

/-- Parts that are parallel one by one, and enclosed alike, are written as parallel members. -/
theorem partPieces_parallel {wanted other : Condition → Bool} {parts others : List Condition}
    (renamed : List.Forall₂ (Renamed rule) parts others)
    (alike : ∀ part another, Renamed rule part another → wanted part = other another)
    (each : ∀ part ∈ parts, ∀ another, Renamed rule part another →
      Agree (Parallel dialect.markerStyle .free · · .word) (part.pieces dialect)
        (another.pieces dialect)) :
    Agree (List.Forall₂ (Parallel dialect.markerStyle .free · · .word))
      (partPieces dialect wanted parts) (partPieces dialect other others) := by
  induction renamed with
  | nil => exact Agree.ok .nil
  | @cons part another _ _ head _ inductionHypothesis =>
    obtain ⟨first, rest⟩ := List.forall_mem_cons.mp each
    have tail := inductionHypothesis rest
    rw [partPieces, partPieces, head.isEmpty_eq, alike part another head]
    split
    · exact tail
    · refine Agree.bind (first another head) fun written further parallel => ?_
      refine Agree.bind tail fun members more pairs => Agree.ok ?_
      exact .cons (parenthesized_parallel _ parallel) pairs

/-- Conditions that are the same but for their names are written as the same parts. -/
theorem pieces_parallel {first second : Condition} (renamed : Renamed rule first second) :
    Agree (Parallel dialect.markerStyle .free · · .word) (first.pieces dialect)
      (second.pieces dialect) := by
  have joined {parts others : List Condition} {wanted : Condition → Bool} {separator : String}
      (back : Fixed .word separator .free) (renamed : List.Forall₂ (Renamed rule) parts others)
      (alike : ∀ part another, Renamed rule part another → wanted part = wanted another)
      (each : ∀ part ∈ parts, ∀ another, Renamed rule part another →
        Agree (Parallel dialect.markerStyle .free · · .word) (part.pieces dialect)
          (another.pieces dialect)) :
      Agree (Parallel dialect.markerStyle .free · · .word)
        ((partPieces dialect wanted parts).map (Piece.join separator))
        ((partPieces dialect wanted others).map (Piece.join separator)) :=
    Agree.map (partPieces_parallel dialect renamed alike each) fun _ _ => Parallel.join back
  induction first generalizing second with
  | all parts inductionHypothesis =>
    cases renamed with
    | all alike =>
      rw [pieces, pieces]
      exact joined .conjunction alike (fun _ _ => Renamed.enclosedInAll_eq)
        fun part member _ => inductionHypothesis part member
  | any parts inductionHypothesis =>
    cases renamed with
    | any alike =>
      rw [pieces, pieces]
      exact joined (by decide) alike (fun _ _ => Renamed.enclosedInAny_eq)
        fun part member _ => inductionHypothesis part member
  | negation inner inductionHypothesis =>
    cases renamed with
    | negation alike =>
      rw [pieces, pieces, alike.isEmpty_eq]
      split
      · exact Agree.ok Parallel.nil.closing
      · exact Agree.map (inductionHypothesis alike) fun _ _ parallel =>
          Parallel.enclosed (by decide) parallel .bracket
  | compare column comparison value =>
    cases renamed with
    | compare _ _ replaced =>
      rw [pieces, pieces]
      exact comparePieces_parallel dialect comparison value (rule.sameShape replaced)
  | nullness column isNull =>
    cases renamed with
    | nullness _ replaced =>
      rw [pieces, pieces]
      refine Agree.bind (dialect.nameText_parallel (rule.sameShape replaced)) fun _ _ named => ?_
      have test : Fixed .word (if isNull then " IS NULL" else " IS NOT NULL") .word := by
        cases isNull <;> decide
      exact Agree.ok (Parallel.text (named.append (.fixed test)))
  | membership column values negated =>
    cases renamed with
    | membership _ _ replaced =>
      rw [pieces, pieces]
      exact membershipPieces_parallel dialect values negated (rule.sameShape replaced)
  | range column low high negated =>
    cases renamed with
    | range _ _ _ replaced =>
      rw [pieces, pieces]
      refine Agree.bind (dialect.nameText_parallel (rule.sameShape replaced)) fun _ _ named => ?_
      have test : Fixed .word (if negated then " NOT BETWEEN " else " BETWEEN ") .free := by
        cases negated <;> decide
      exact Agree.ok ((Parallel.text (named.append (.fixed test))).cons
        ((Parallel.value _ _).cons ((Parallel.fixed .conjunction).cons (Parallel.value _ _))))
  | template sql values => cases renamed
  | fragment sql => cases renamed
  | always =>
    cases renamed
    rw [pieces]
    exact Agree.ok (Parallel.fixed (by decide))
  | never =>
    cases renamed
    rw [pieces]
    exact Agree.ok (Parallel.fixed (by decide))

end

end Condition

/-! ### Filters -/

namespace Filter

variable {first second : Filter}

/-- The same conditions, by their places, say nothing. -/
theorem Renamed.map_isEmpty (renamed : Renamed rule first second) :
    first.conditions.map Condition.isEmpty = second.conditions.map Condition.isEmpty :=
  (map_eq_map_iff _ _).mpr (renamed.imp fun _ _ alike => alike.isEmpty_eq)

theorem Renamed.isEmpty_eq (renamed : Renamed rule first second) :
    first.isEmpty = second.isEmpty := by
  have read (filter : Filter) :
      filter.isEmpty = (filter.conditions.map Condition.isEmpty).all id := by
    rw [List.all_map]
    rfl
  rw [read, read, renamed.map_isEmpty]

theorem Renamed.hasSeveral_eq (renamed : Renamed rule first second) :
    first.hasSeveral = second.hasSeveral := by
  have read (filter : Filter) : filter.hasSeveral =
      decide (1 < (filter.conditions.map Condition.isEmpty).countP (!·)) := by
    rw [List.countP_map, List.countP_eq_length_filter]
    rfl
  rw [read, read, renamed.map_isEmpty]

theorem Renamed.enclosed_eq (renamed : Renamed rule first second) (condition other : Condition)
    (alike : Condition.Renamed rule condition other) :
    first.enclosed condition = second.enclosed other := by
  have several := renamed.hasSeveral_eq
  cases alike <;> simp only [enclosed, several] <;> rfl

/-- Clauses of filters that are the same but for their names are written as the same parts. -/
theorem clause_parallel (dialect : Dialect) {keyword : String} (opens : Fixed .word keyword .free)
    (renamed : Renamed rule first second) :
    Agree (Parallel dialect.markerStyle .word · · .word) (first.clause dialect keyword)
      (second.clause dialect keyword) := by
  unfold clause pieces
  rw [renamed.isEmpty_eq]
  split
  · exact Agree.ok Parallel.nil
  · have members := Condition.partPieces_parallel dialect renamed renamed.enclosed_eq
      fun part _ another alike => Condition.pieces_parallel dialect alike
    exact Agree.map (Agree.map members fun _ _ => Parallel.join .conjunction) fun _ _ parallel =>
      (Parallel.fixed opens).cons parallel

end Filter

end OracleSql
