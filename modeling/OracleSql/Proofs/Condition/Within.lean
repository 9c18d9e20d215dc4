/-
This file shows that a condition keeps within the clause in which it is written. Columns are quoted,
so none of their letters is taken for a keyword, and none of the words between them starts a clause.
Only a fragment could do so, and it is asked not to, outside its own parentheses.
-/

import OracleSql.Proofs.Condition.Rendering
import OracleSql.Proofs.Reading.Clauses

namespace OracleSql

open OracleSql.Part (keepWithin)

/-! ### Names -/

/-- Pieces that are written as names, or as signs between them. -/
def NamesOnly (pieces : List Piece) : Prop :=
  ∃ tokens : List Token, tokens.all Token.isOfName = true ∧
    tokens? (pieces.flatMap Piece.glyphs) = some tokens

namespace NamesOnly

variable {pieces : List Piece}

theorem renders {tokens : List Token} (named : tokens.all Token.isOfName = true)
    (scanned : tokens? (pieces.flatMap Piece.glyphs) = some tokens) :
    WithinClause pieces (tokens.map .token) := by
  refine ⟨⟨?_, Phrase.tokens fun token member => ?_⟩, Token.within_of_isOfName named⟩
  · rw [Part.written_tokens, scanned]
  · exact Token.isInert_of_isOfName (List.all_eq_true.mp named token member)

theorem within (only : NamesOnly pieces) : Piece.KeepWithin pieces := by
  obtain ⟨tokens, named, scanned⟩ := only
  exact ⟨_, renders named scanned⟩

theorem join {lists : List (List Piece)} (each : ∀ list ∈ lists, NamesOnly list) :
    NamesOnly (Piece.join ", " lists) := by
  choose! tokens own using each
  refine ⟨List.intercalate [.sign ','] (lists.map tokens), ?_, ?_⟩
  · exact all_intercalate rfl (List.forall_mem_map.mpr fun list member => (own list member).1)
  · refine tokens?_join rfl (by decide) rfl ?_
    rw [List.forall₂_map_right_iff, List.forall₂_same]
    exact fun list member => (own list member).2

end NamesOnly

theorem Dialect.namePiece_namesOnly (dialect : Dialect) (name : String) :
    Ensures NamesOnly (dialect.namePiece name) := by
  intro pieces built
  obtain ⟨written, named, rfl⟩ := map_eq_ok.mp built
  obtain ⟨tokens, name⟩ := Dialect.exists_writesName named
  refine ⟨tokens, List.all_eq_true.mpr name.named, ?_⟩
  rw [List.flatMap_singleton]
  exact tokens?_of_scan name.scanned

/-! ### Fragments -/

/-- Whether a fragment is built and balanced, and starts no clause outside its parentheses. -/
def Draft.keepsWithin : Draft → Bool
  | .ok pieces => isBalanced (.ok pieces) && (Part.ofText? (Piece.tokens pieces)).any keepWithin
  | .error _ => false

theorem Draft.within_of_keepsWithin {draft : Draft} (keeps : keepsWithin draft = true) :
    Ensures Piece.KeepWithin draft := by
  cases draft with
  | error failure => exact Ensures.error failure
  | ok pieces =>
    rw [keepsWithin, Bool.and_eq_true, isBalanced, Option.any_eq_true] at keeps
    obtain ⟨⟨tokens, scanned, closed⟩, within⟩ := keeps
    obtain ⟨parts, phrase, rfl⟩ :=
      Phrase.exists_of_balanced (fun _ => .unknown) (of_decide_eq_true closed)
    rw [Piece.tokens, scanned, Option.getD_some, Part.ofText?, phrase.ofTokens?] at within
    exact Ensures.ok ⟨parts, ⟨scanned, phrase⟩, within⟩

namespace Condition

mutual

/-- Whether the fragments of a condition keep within their clause. -/
def keepsWithin (dialect : Dialect) : Condition → Bool
  | all parts => allKeepWithin dialect parts
  | any parts => allKeepWithin dialect parts
  | negation inner => inner.keepsWithin dialect
  | template sql values => Draft.keepsWithin (dialect.fragment sql { positional := values })
  | fragment sql => Draft.keepsWithin (dialect.fragment sql {})
  | _ => true

/-- Whether the fragments of each of some conditions keep within their clause. -/
def allKeepWithin (dialect : Dialect) : List Condition → Bool
  | [] => true
  | part :: rest => part.keepsWithin dialect && allKeepWithin dialect rest

end

theorem allKeepWithin_eq (dialect : Dialect) (parts : List Condition) :
    allKeepWithin dialect parts = parts.all (keepsWithin dialect) := by
  induction parts with
  | nil => rfl
  | cons part rest inductionHypothesis =>
    rw [allKeepWithin, List.all_cons, inductionHypothesis]

end Condition

/-- A predicate in which no clause starts keeps within its own. -/
theorem IsTest.within {pieces : List Piece} (test : IsTest pieces) : Piece.KeepWithin pieces := by
  obtain ⟨parts, renders, _, within⟩ := test fun _ => .unknown
  exact ⟨parts, renders, within⟩

namespace Condition

variable {dialect : Dialect}

theorem constant_within (holds : Bool) :
    Piece.KeepWithin [.text (if holds then "1=1" else "1=0")] := by
  cases holds with
  | true =>
    have inert : ∀ token ∈ [.word ['1'], .sign '=', .word ['1']], Token.isInert token = true := by
      decide
    exact ⟨_, ⟨rfl, .tokens inert⟩, by decide⟩
  | false =>
    have inert : ∀ token ∈ [.word ['1'], .sign '=', .word ['0']], Token.isInert token = true := by
      decide
    exact ⟨_, ⟨rfl, .tokens inert⟩, by decide⟩

/-- Tests against several lists are joined. -/
theorem membershipPieces_within (column : String) (values : List Value) (negated : Bool) :
    Ensures Piece.KeepWithin
      (membershipPieces dialect column values negated) := by
  unfold membershipPieces
  split
  · exact Ensures.ok (constant_within negated)
  · intro pieces built
    obtain ⟨written, named, same⟩ := bind_eq_ok.mp built
    cases same
    have lists : ∀ list ∈ (chunks maxListLength values).map (listPieces dialect written negated),
        Piece.KeepWithin list :=
      List.forall_mem_map.mpr fun chunk _ => (list_isTest named negated chunk).within
    have joined : Piece.KeepWithin (Piece.join (if negated then " AND " else " OR ")
        ((chunks maxListLength values).map (listPieces dialect written negated))) := by
      cases negated with
      | true => exact .join_and lists
      | false => exact .join_or lists
    exact parenthesized_holds _ (fun _ => .enclosed) _ joined

/-- A condition keeps within its clause if its fragments do. -/
theorem pieces_within (condition : Condition) (keeps : condition.keepsWithin dialect = true) :
    Ensures Piece.KeepWithin (condition.pieces dialect) := by
  induction condition with
  | all parts inductionHypothesis =>
    rw [keepsWithin, allKeepWithin_eq, List.all_eq_true] at keeps
    rw [pieces]
    exact Ensures.map (partPieces_each _ (fun _ => .enclosed) dialect _ parts fun part member =>
      inductionHypothesis part member (keeps part member)) fun _ => .join_and
  | any parts inductionHypothesis =>
    rw [keepsWithin, allKeepWithin_eq, List.all_eq_true] at keeps
    rw [pieces]
    exact Ensures.map (partPieces_each _ (fun _ => .enclosed) dialect _ parts fun part member =>
      inductionHypothesis part member (keeps part member)) fun _ => .join_or
  | negation inner inductionHypothesis =>
    rw [pieces]
    split
    · exact Ensures.ok .nil
    · exact Ensures.map (inductionHypothesis keeps) fun _ within => within.negated
  | compare column comparison value =>
    rw [pieces]
    exact (compare_isTest column comparison value).mono fun _ => IsTest.within
  | nullness column isNull => exact (nullness_isTest column isNull).mono fun _ => IsTest.within
  | membership column values negated =>
    rw [pieces]
    exact membershipPieces_within column values negated
  | range column low high negated =>
    exact (range_isTest column low high negated).mono fun _ => IsTest.within
  | template sql values | fragment sql =>
    rw [pieces]
    exact Draft.within_of_keepsWithin keeps
  | always =>
    rw [pieces]
    exact Ensures.ok (constant_within true)
  | never =>
    rw [pieces]
    exact Ensures.ok (constant_within false)

end Condition

/-- Whether the fragments of a filter keep within their clause. -/
def Filter.keepsWithin (dialect : Dialect) (filter : Filter) : Bool :=
  filter.conditions.all (Condition.keepsWithin dialect)

theorem Filter.pieces_within {dialect : Dialect} (filter : Filter)
    (keeps : filter.keepsWithin dialect = true) :
    Ensures Piece.KeepWithin (filter.pieces dialect) := by
  rw [keepsWithin, List.all_eq_true] at keeps
  exact Ensures.map (Condition.partPieces_each _ (fun _ => .enclosed) dialect _ filter.conditions
    fun condition member => condition.pieces_within (keeps condition member)) fun _ => .join_and

end OracleSql
