/-
This file takes built queries apart: from the pieces of a query come the pieces of its clauses. It
is the inversion of the builder, once for each of its steps, so that a statement about queries needs
to look at the clauses only.
-/

import OracleSql.Proofs.Outcome
import OracleSql.Query.Select

namespace OracleSql.Select

variable {dialect : Dialect} {select : Select} {pieces : List Piece}

/-- The pieces around a query that cut a page out of it, with the number of its last row if the page
has one. -/
def aroundPage (inner : List Piece) (last : Option Value) (skipped : UInt64) : List Piece :=
  .text "SELECT * FROM (SELECT q__.*, ROWNUM rn__ FROM (" :: (inner ++ (.text ") q__" ::
    ((last.elim [] fun count => [.text " WHERE ROWNUM <= ", .value count]) ++
      [.text ") WHERE rn__ > ", countPiece skipped])))

theorem parts_of_rowNumberPieces {inner : List Piece}
    (built : select.rowNumberPieces inner = .ok pieces) :
    ∃ last : Option Value, last.isSome = select.limit.isSome ∧
      pieces = aroundPage inner last (select.offset.getD 0) := by
  unfold rowNumberPieces at built
  cases limit : select.limit with
  | none =>
    rw [limit] at built
    cases built
    exact ⟨none, rfl, rfl⟩
  | some count =>
    rw [limit] at built
    obtain ⟨_, found, same⟩ := bind_eq_ok.mp built
    obtain ⟨last, _, rfl⟩ := map_eq_ok.mp found
    cases same
    exact ⟨some (toValue last), rfl, rfl⟩

/-- A query that was built is the query of all rows, with a page cut out of it in one of two
ways. -/
theorem parts_of_pagePieces (built : select.pagePieces dialect = .ok pieces) :
    ∃ inner, select.allPieces dialect = .ok inner ∧
      (pieces = inner ∨ pieces = inner ++ select.offsetFetchPieces ∨
        ∃ last, pieces = aroundPage inner last (select.offset.getD 0)) := by
  unfold pagePieces at built
  by_cases whole : !select.isPaged
  · rw [if_pos whole] at built
    exact ⟨pieces, built, Or.inl rfl⟩
  · rw [if_neg whole] at built
    by_cases locked : select.lock.isSome
    · rw [if_pos locked] at built
      cases built
    · rw [if_neg locked] at built
      obtain ⟨inner, all, cut⟩ := bind_eq_ok.mp built
      refine ⟨inner, all, Or.inr ?_⟩
      cases style : dialect.pageStyle with
      | offsetFetch =>
        rw [style] at cut
        exact Or.inl (Except.ok.inj cut).symm
      | rowNumber =>
        rw [style] at cut
        obtain ⟨last, _, same⟩ := parts_of_rowNumberPieces cut
        exact Or.inr ⟨last, same⟩

end OracleSql.Select
