/-
This file runs two queries side by side that are the same but for their names. Which clauses they
have, and how a page is cut out of them, does not depend on names. So if both are built, their
statements have the same rest, and so have the statements that count their rows.
-/

import OracleSql.Proofs.Containment.Clauses

namespace OracleSql

variable {rule : Renaming} (dialect : Dialect)

/-! ### Parts -/

theorem SelectItem.listPieces_parallel {items others : List SelectItem}
    (renamed : List.Forall₂ (SelectItem.Renamed rule) items others) :
    Agree (Parallel dialect.markerStyle .free · · .word) (listPieces dialect items)
      (listPieces dialect others) := by
  have each (item other : SelectItem) (renamed : SelectItem.Renamed rule item other) :
      Agree (Parallel dialect.markerStyle .free · · .word) (item.pieces dialect)
        (other.pieces dialect) := by
    cases renamed with
    | column replaced => exact dialect.namePiece_parallel (rule.sameShape replaced)
  exact Agree.map (Agree.mapM renamed each) fun _ _ => Parallel.join .comma

theorem Join.pieces_parallel {first second : Join} (renamed : Join.Renamed rule first second) :
    Agree (Parallel dialect.markerStyle .word · · .word) (first.pieces dialect)
      (second.pieces dialect) := by
  have opening : Fixed .word (" " ++ second.kind.sql ++ " ") .free := by
    cases second.kind <;> decide
  have middle : Fixed .word " ON " .free := by decide
  unfold pieces
  rw [renamed.kind]
  refine Agree.bind (TableReference.pieces_parallel dialect renamed.table) fun _ _ table => ?_
  refine Agree.bind (Condition.pieces_parallel dialect renamed.on) fun _ _ condition =>
    Agree.ok ?_
  exact (Parallel.fixed opening).cons (table.append ((Parallel.fixed middle).cons condition))

theorem SortKey.pieces_parallel {key other : SortKey} (renamed : SortKey.Renamed rule key other) :
    Agree (Parallel dialect.markerStyle .free · · .word) (key.pieces dialect)
      (other.pieces dialect) := by
  have up : Fixed .word " ASC" .word := by decide
  have down : Fixed .word " DESC" .word := by decide
  cases renamed with
  | ascending replaced =>
    exact Agree.map (dialect.namePiece_parallel (rule.sameShape replaced)) fun _ _ named =>
      named.append (.fixed up)
  | descending replaced =>
    exact Agree.map (dialect.namePiece_parallel (rule.sameShape replaced)) fun _ _ named =>
      named.append (.fixed down)

/-- The clause that locks rows, with the seconds that it waits. -/
theorem LockMode.sql_parallel (style : MarkerStyle) (mode : LockMode) :
    Parallel style .word [.text mode.sql] [.text mode.sql] .word := by
  cases mode with
  | waitSeconds count =>
    have opening : Fixed .word " FOR UPDATE " .free := by decide
    have splits : Splits style [.wait count.toNat] ("WAIT " ++ toString count.toNat).toList := by
      have alone : Splits style [.wait count.toNat] _ := .wait count.toNat rfl .nil
      rw [List.append_nil] at alone
      rw [String.toList_append]
      exact alone
    have waits : ParallelText style .free ("WAIT " ++ toString count.toNat)
        ("WAIT " ++ toString count.toNat) .word := ⟨_, .between splits, .between splits⟩
    have both : ParallelText style .word _ _ .word := (ParallelText.fixed opening).append waits
    rw [← String.append_assoc] at both
    exact Parallel.text both
  | _ => exact Parallel.fixed (by decide)

/-! ### Clauses -/

namespace Select

theorem listClause_parallel {keyword : String} (opens : Fixed .word keyword .free)
    {items others : List SelectItem}
    (renamed : List.Forall₂ (SelectItem.Renamed rule) items others) :
    Agree (Parallel dialect.markerStyle .word · · .word) (listClause dialect keyword items)
      (listClause dialect keyword others) := by
  unfold listClause
  rw [forall₂_isEmpty renamed]
  split
  · exact Agree.ok Parallel.nil
  · exact Agree.map (SelectItem.listPieces_parallel dialect renamed) fun _ _ listed =>
      (Parallel.fixed opens).cons listed

variable {first second : Select}

theorem bodyPieces_parallel (renamed : Select.Renamed rule first second) :
    Agree (Parallel dialect.markerStyle .word · · .word) (first.bodyPieces dialect)
      (second.bodyPieces dialect) := by
  have opening : Fixed .word " FROM " .free := by decide
  unfold bodyPieces
  refine Agree.bind (TableReference.pieces_parallel dialect renamed.source) fun _ _ source => ?_
  refine Agree.bind (Agree.mapM renamed.joins fun _ _ => Join.pieces_parallel dialect)
    fun _ _ joined => ?_
  refine Agree.bind (Filter.clause_parallel dialect (by decide) renamed.filter)
    fun _ _ filtered => ?_
  refine Agree.bind (listClause_parallel dialect (by decide) renamed.groups)
    fun _ _ grouped => ?_
  refine Agree.bind (Filter.clause_parallel dialect (by decide) renamed.groupFilter)
    fun _ _ kept => Agree.ok ?_
  exact (Parallel.fixed opening).cons ((((source.append (Parallel.flatten joined)).append
    filtered).append grouped).append kept)

theorem columnPieces_parallel (renamed : Select.Renamed rule first second) :
    Agree (Parallel dialect.markerStyle .free · · .word) (first.columnPieces dialect)
      (second.columnPieces dialect) := by
  unfold columnPieces
  rw [forall₂_isEmpty renamed.columns]
  split
  · exact Agree.ok (Parallel.fixed (by decide))
  · exact SelectItem.listPieces_parallel dialect renamed.columns

theorem orderPieces_parallel (renamed : Select.Renamed rule first second) :
    Agree (Parallel dialect.markerStyle .word · · .word) (first.orderPieces dialect)
      (second.orderPieces dialect) := by
  have opening : Fixed .word " ORDER BY " .free := by decide
  unfold orderPieces
  rw [forall₂_isEmpty renamed.order]
  split
  · exact Agree.ok Parallel.nil
  · refine Agree.bind (Agree.mapM renamed.order fun _ _ => SortKey.pieces_parallel dialect)
      fun _ _ keys => Agree.ok ?_
    exact (Parallel.fixed opening).cons (Parallel.join .comma keys)

theorem allPieces_parallel (renamed : Select.Renamed rule first second) :
    Agree (Parallel dialect.markerStyle .free · · .word) (first.allPieces dialect)
      (second.allPieces dialect) := by
  have head : Fixed .free (if second.distinct then "SELECT DISTINCT " else "SELECT ") .free := by
    cases second.distinct <;> decide
  unfold allPieces
  rw [renamed.distinct]
  refine Agree.bind (columnPieces_parallel dialect renamed) fun _ _ columns => ?_
  refine Agree.bind (bodyPieces_parallel dialect renamed) fun _ _ body => ?_
  refine Agree.bind (orderPieces_parallel dialect renamed) fun _ _ order => Agree.ok ?_
  exact (Parallel.fixed head).cons ((columns.append body).append order)

/-! ### Pages -/

/-- The numbers of a page are values. -/
theorem offsetFetchPieces_parallel (style : MarkerStyle) (select : Select) :
    Parallel style .word select.offsetFetchPieces select.offsetFetchPieces .word := by
  have skips : Fixed .word " OFFSET " .free := by decide
  have fetches : Fixed .word " FETCH NEXT " .free := by decide
  have rows : Fixed .word " ROWS" .word := by decide
  have only : Fixed .word " ROWS ONLY" .word := by decide
  have skipped : Parallel style .word
      (select.offset.elim [] fun count => [.text " OFFSET ", countPiece count, .text " ROWS"])
      (select.offset.elim [] fun count => [.text " OFFSET ", countPiece count, .text " ROWS"])
      .word := by
    cases select.offset with
    | none => exact Parallel.nil
    | some count => exact (Parallel.fixed skips).cons ((Parallel.value _ _).cons (.fixed rows))
  refine skipped.append ?_
  cases select.limit with
  | none => exact Parallel.nil
  | some count => exact (Parallel.fixed fetches).cons ((Parallel.value _ _).cons (.fixed only))

theorem aroundPage_parallel {style : MarkerStyle} {inner other : List Piece}
    (parallel : Parallel style .free inner other .word) {last final : Option Value}
    (same : last.isSome = final.isSome) (skipped further : UInt64) :
    Parallel style .free (aroundPage inner last skipped) (aroundPage other final further)
      .word := by
  have opening : Fixed .free "SELECT * FROM (SELECT q__.*, ROWNUM rn__ FROM (" .free := by decide
  have named : Fixed .word ") q__" .word := by decide
  have bound : Fixed .word " WHERE ROWNUM <= " .free := by decide
  have closing : Fixed .word ") WHERE rn__ > " .free := by decide
  have limited : Parallel style .word
      (last.elim [] fun count => [.text " WHERE ROWNUM <= ", .value count])
      (final.elim [] fun count => [.text " WHERE ROWNUM <= ", .value count]) .word := by
    cases last with
    | none =>
      cases final with
      | none => exact Parallel.nil
      | some count => cases same
    | some count =>
      cases final with
      | none => cases same
      | some another => exact (Parallel.fixed bound).cons (Parallel.value _ _)
  exact (Parallel.fixed opening).cons (parallel.append ((Parallel.fixed named).cons (limited.append
    ((Parallel.fixed closing).cons (Parallel.value _ _)))))

theorem pagePieces_parallel (renamed : Select.Renamed rule first second) :
    Agree (Parallel dialect.markerStyle .free · · .word) (first.pagePieces dialect)
      (second.pagePieces dialect) := by
  have all := allPieces_parallel dialect renamed
  have paged : first.isPaged = second.isPaged := by
    rw [isPaged, isPaged, renamed.limit, renamed.offset]
  have cut : first.offsetFetchPieces = second.offsetFetchPieces := by
    rw [offsetFetchPieces, offsetFetchPieces, renamed.limit, renamed.offset]
  unfold pagePieces
  rw [paged, renamed.lock]
  split
  · exact all
  · split
    · exact Agree.errorLeft _ _
    · refine Agree.bind all fun inner other parallel => ?_
      cases dialect.pageStyle with
      | offsetFetch =>
        refine Agree.ok (parallel.append ?_)
        rw [cut]
        exact offsetFetchPieces_parallel _ second
      | rowNumber =>
        intro left right built also
        obtain ⟨last, bounded, rfl⟩ := parts_of_rowNumberPieces built
        obtain ⟨final, boundedToo, rfl⟩ := parts_of_rowNumberPieces also
        rw [← renamed.limit] at boundedToo
        exact aroundPage_parallel parallel (bounded.trans boundedToo.symm) _ _

/-! ### Statements -/

/-- Queries that are the same but for their names have statements with the same rest. -/
theorem build_sameRest (renamed : Select.Renamed rule first second) :
    Agree (fun one other => SameRest dialect.markerStyle one.sql other.sql) (first.build dialect)
      (second.build dialect) := by
  have locked : Parallel dialect.markerStyle .word
      (second.lock.toList.map fun mode => Piece.text mode.sql)
      (second.lock.toList.map fun mode => Piece.text mode.sql) .word := by
    cases second.lock with
    | none => exact Parallel.nil
    | some mode => exact mode.sql_parallel _
  unfold build
  rw [renamed.lock]
  exact Agree.bind (pagePieces_parallel dialect renamed) fun _ _ page =>
    Agree.ok (dialect.assemble_sameRest .rows .rows (page.append locked))

/-- The statements that count their rows have the same rest too. -/
theorem buildCount_sameRest (renamed : Select.Renamed rule first second) :
    Agree (fun one other => SameRest dialect.markerStyle one.sql other.sql)
      (first.buildCount dialect) (second.buildCount dialect) := by
  have grouped : first.isGrouped = second.isGrouped := by
    rw [isGrouped, isGrouped, forall₂_isEmpty renamed.groups, renamed.groupFilter.isEmpty_eq]
  unfold buildCount
  rw [grouped]
  refine Agree.bind (bodyPieces_parallel dialect renamed) fun body other parallel =>
    Agree.ok ?_
  have whole : Parallel dialect.markerStyle .free
      (if second.isGrouped then
        .text "SELECT COUNT(*) FROM (SELECT 1 c__" :: (body ++ [.text ") t"])
        else .text "SELECT COUNT(*)" :: body)
      (if second.isGrouped then
        .text "SELECT COUNT(*) FROM (SELECT 1 c__" :: (other ++ [.text ") t"])
        else .text "SELECT COUNT(*)" :: other) .word := by
    split
    · have opening : Fixed .free "SELECT COUNT(*) FROM (SELECT 1 c__" .word := by decide
      have closing : Fixed .word ") t" .word := by decide
      exact (Parallel.fixed opening).cons (parallel.append (.fixed closing))
    · have opening : Fixed .free "SELECT COUNT(*)" .word := by decide
      exact (Parallel.fixed opening).cons parallel
  exact dialect.assemble_sameRest .rows .rows whole

end Select

end OracleSql
