/-
This file carries the two runs from changes of rows to every request. Two requests are the same up
to their values if they have the same form without values; the numbers of a page count as values.
Queries need no rule of their own except at the page: its last row may lie out of range for one of
the two, and then there is nothing to compare. The main statement is that two such requests, if both
have plans, have plans that are the same up to the binds of their statements.
-/

import OracleSql.Proofs.Query.Parts
import OracleSql.Proofs.Values.Changes
import OracleSql.Request

namespace OracleSql

/-! ### Queries -/

/-- The joined table with the null for every value of its condition. -/
def Join.withoutValues (join : Join) : Join :=
  { join with on := join.on.withoutValues }

theorem Join.pieces_agree (dialect : Dialect) {first second : Join}
    (alike : first.withoutValues = second.withoutValues) :
    Agree Piece.Alike (first.pieces dialect) (second.pieces dialect) := by
  simp only [withoutValues, mk.injEq] at alike
  obtain ⟨kind, table, on⟩ := alike
  have condition : Agree Piece.Alike (first.on.pieces dialect) (second.on.pieces dialect) := by
    refine Agree.ofMap ?_
    rw [← Condition.pieces_withoutValues, on, Condition.pieces_withoutValues]
  unfold pieces
  rw [kind, table]
  refine Agree.bind (Agree.self _ Eq.refl) fun name _ nameSame => ?_
  subst nameSame
  refine Agree.bind condition fun one other written => Agree.ok ?_
  exact ((Piece.Alike.refl name).append (written.cons (.text " ON "))).cons _

namespace Select

/-- The query with the null for every value and zero for the numbers of its page. -/
def withoutValues (select : Select) : Select :=
  { select with
    joins := select.joins.map Join.withoutValues
    filter := select.filter.withoutValues
    groupFilter := select.groupFilter.withoutValues
    limit := select.limit.map fun _ => 0
    offset := select.offset.map fun _ => 0 }

section

variable {first second : Select} (dialect : Dialect)

theorem bodyPieces_agree (alike : first.withoutValues = second.withoutValues) :
    Agree Piece.Alike (first.bodyPieces dialect) (second.bodyPieces dialect) := by
  simp only [withoutValues, mk.injEq] at alike
  obtain ⟨source, _, _, joins, filter, groups, groupFilter, _⟩ := alike
  unfold bodyPieces
  rw [source, groups]
  refine Agree.bind (Agree.self _ Eq.refl) fun source _ sourceSame => ?_
  refine Agree.bind (Agree.mapM ((map_eq_map_iff _ _).mp joins) fun _ _ same =>
    Join.pieces_agree dialect same) fun left right joined => ?_
  refine Agree.bind (Filter.clause_agree dialect " WHERE " filter) fun rows others filtered => ?_
  refine Agree.bind (Agree.self _ Eq.refl) fun groups _ groupsSame => ?_
  refine Agree.bind (Filter.clause_agree dialect " HAVING " groupFilter) fun kept more having => ?_
  subst sourceSame groupsSame
  refine Agree.ok (Piece.Alike.cons _ ?_)
  exact ((((Piece.Alike.refl source).append (Piece.Alike.flatten joined)).append
    filtered).append (Piece.Alike.refl groups)).append having

theorem allPieces_agree (alike : first.withoutValues = second.withoutValues) :
    Agree Piece.Alike (first.allPieces dialect) (second.allPieces dialect) := by
  have body := bodyPieces_agree dialect alike
  simp only [withoutValues, mk.injEq] at alike
  obtain ⟨_, columns, distinct, _, _, _, _, order, _⟩ := alike
  unfold allPieces columnPieces orderPieces
  rw [columns, distinct, order]
  refine Agree.bind (Agree.self _ Eq.refl) fun columns _ columnsSame => ?_
  refine Agree.bind body fun one other written => ?_
  refine Agree.bind (Agree.self _ Eq.refl) fun order _ orderSame => ?_
  subst columnsSame orderSame
  refine Agree.ok (Piece.Alike.cons _ ?_)
  exact ((Piece.Alike.refl columns).append written).append (Piece.Alike.refl order)

/-- The numbers of a page are values of its clauses. -/
theorem offsetFetchPieces_alike (alike : first.withoutValues = second.withoutValues) :
    Piece.Alike first.offsetFetchPieces second.offsetFetchPieces := by
  simp only [withoutValues, mk.injEq] at alike
  obtain ⟨_, _, _, _, _, _, _, _, limit, offset, _⟩ := alike
  unfold offsetFetchPieces
  refine Piece.Alike.append ?_ ?_
  · cases left : first.offset <;> cases right : second.offset <;> simp_all <;> rfl
  · cases left : first.limit <;> cases right : second.limit <;> simp_all <;> rfl

theorem rowNumberPieces_agree (alike : first.withoutValues = second.withoutValues)
    {inner other : List Piece} (same : Piece.Alike inner other) :
    Agree Piece.Alike (first.rowNumberPieces inner) (second.rowNumberPieces other) := by
  have limit : first.limit.isSome = second.limit.isSome := by
    have limits := congrArg Option.isSome (congrArg Select.limit alike)
    rwa [withoutValues, withoutValues, Option.isSome_map, Option.isSome_map] at limits
  intro left right built also
  obtain ⟨last, lastSome, rfl⟩ := parts_of_rowNumberPieces built
  obtain ⟨final, finalSome, rfl⟩ := parts_of_rowNumberPieces also
  have bounds : Piece.Alike
      (last.elim [] fun count => [.text " WHERE ROWNUM <= ", .value count])
      (final.elim [] fun count => [.text " WHERE ROWNUM <= ", .value count]) := by
    cases last <;> cases final <;> simp_all <;> rfl
  have skipped : Piece.Alike [.text ") WHERE rn__ > ", countPiece (first.offset.getD 0)]
      [.text ") WHERE rn__ > ", countPiece (second.offset.getD 0)] := rfl
  exact (same.append ((bounds.append skipped).cons (.text ") q__"))).cons _

theorem pagePieces_agree (alike : first.withoutValues = second.withoutValues) :
    Agree Piece.Alike (first.pagePieces dialect) (second.pagePieces dialect) := by
  have all := allPieces_agree dialect alike
  have limit := congrArg Select.limit alike
  have offset := congrArg Select.offset alike
  have lock : first.lock = second.lock := (congrArg Select.lock alike :)
  have paged : first.isPaged = second.isPaged := by
    have sameLimit := congrArg Option.isSome limit
    have sameOffset := congrArg Option.isSome offset
    simp only [withoutValues, Option.isSome_map] at sameLimit sameOffset
    rw [isPaged, isPaged, sameLimit, sameOffset]
  unfold pagePieces
  rw [paged, lock]
  split
  · exact all
  · split
    · exact Agree.errorLeft _ _
    · refine Agree.bind all fun inner other same => ?_
      cases dialect.pageStyle with
      | offsetFetch => exact Agree.ok (same.append (offsetFetchPieces_alike alike))
      | rowNumber => exact rowNumberPieces_agree alike same

theorem statement_withoutBinds (alike : first.withoutValues = second.withoutValues)
    (operation : String) {pieces others : List Piece} (same : Piece.Alike pieces others) :
    (first.statement dialect operation pieces).withoutBinds =
      (second.statement dialect operation others).withoutBinds := by
  have source : first.source = second.source := (congrArg Select.source alike :)
  have assembled := dialect.assemble_withoutBinds .rows same
  simp only [Statement.withoutBinds, Statement.mk.injEq] at assembled
  simp only [statement, Statement.withoutBinds, source, assembled]

/-- Two queries that differ only in their values have statements that differ only in their binds. -/
theorem build_agree (alike : first.withoutValues = second.withoutValues) :
    Agree (fun one other => one.withoutBinds = other.withoutBinds) (first.build dialect)
      (second.build dialect) := by
  have lock : first.lock = second.lock := (congrArg Select.lock alike :)
  unfold build
  rw [lock]
  refine Agree.bind (pagePieces_agree dialect alike) fun one other same => Agree.ok ?_
  exact statement_withoutBinds dialect alike "select" (same.append (Piece.Alike.refl _))

/-- Two queries that differ only in their values are counted by statements that differ only in their
binds. -/
theorem buildCount_agree (alike : first.withoutValues = second.withoutValues) :
    Agree (fun one other => one.withoutBinds = other.withoutBinds) (first.buildCount dialect)
      (second.buildCount dialect) := by
  have grouped : first.isGrouped = second.isGrouped := by
    have groups : first.groups = second.groups := (congrArg Select.groups alike :)
    have kept : first.groupFilter.withoutValues = second.groupFilter.withoutValues :=
      congrArg Select.groupFilter alike
    rw [isGrouped, isGrouped, groups, ← Filter.isEmpty_withoutValues first.groupFilter, kept,
      Filter.isEmpty_withoutValues]
  unfold buildCount
  rw [grouped]
  refine Agree.bind (bodyPieces_agree dialect alike) fun one other same => Agree.ok ?_
  refine statement_withoutBinds dialect alike "count" ?_
  split
  · exact (same.append (Piece.Alike.refl _)).cons _
  · exact same.cons _

end

end Select

/-! ### Statements written by hand -/

namespace HandWritten

/-- The statement with the null for every value. -/
def withoutValues (written : HandWritten) : HandWritten :=
  { written with args := written.args.withoutValues }

end HandWritten

/-- A template is translated in the same way with other values. -/
theorem Dialect.translate_agree (dialect : Dialect) (template : String) {first second : Args}
    (alike : first.withoutValues = second.withoutValues) :
    Agree (fun one other => one.withoutBinds = other.withoutBinds)
      (dialect.translate template first) (dialect.translate template second) := by
  unfold translate
  refine Agree.bind (Agree.self _ Eq.refl) fun lexemes _ lexemesSame => ?_
  subst lexemesSame
  split
  · split
    · exact Agree.errorLeft _ _
    · refine Agree.bind (Agree.anything _ _) fun _ _ _ => Agree.ok rfl
  · have positional := congrArg Args.positional alike
    have pieces : Agree Piece.Alike (dialect.fill first first.positional lexemes)
        (dialect.fill second second.positional lexemes) := by
      refine Agree.ofMap ?_
      rw [← fill_withoutValues, ← fill_withoutValues, alike]
      exact congrArg (dialect.fill second.withoutValues · lexemes) positional
    exact Agree.bind pieces fun _ _ same => Agree.ok (dialect.assemble_withoutBinds .rows same)

namespace HandWritten

theorem build_agree (dialect : Dialect) {first second : HandWritten}
    (alike : first.withoutValues = second.withoutValues) :
    Agree (fun one other => one.withoutBinds = other.withoutBinds) (first.build dialect)
      (second.build dialect) := by
  simp only [withoutValues, mk.injEq] at alike
  obtain ⟨template, args, table⟩ := alike
  unfold build
  rw [template, table]
  refine Agree.map (dialect.translate_agree second.template args) fun one other same => ?_
  simp only [Statement.withoutBinds, Statement.mk.injEq] at same
  simp only [Statement.withoutBinds, same]

theorem changePlan_agree (dialect : Dialect) {first second : HandWritten}
    (alike : first.withoutValues = second.withoutValues) :
    Agree (fun one other => one.withoutBinds = other.withoutBinds) (first.changePlan dialect)
      (second.changePlan dialect) := by
  refine Agree.map (build_agree dialect alike) fun one other same => ?_
  refine Plan.single_withoutBinds ?_
  simp only [Statement.withoutBinds, Statement.mk.injEq] at same
  simp only [Statement.withoutBinds, same]

end HandWritten

/-! ### Requests -/

namespace Request

/-- The request with the null for every value. -/
def withoutValues : Request → Request
  | select query => select query.withoutValues
  | insert change => insert change.withoutValues
  | update change => update change.withoutValues
  | delete change => delete change.withoutValues
  | merge change => merge change.withoutValues
  | handWritten statement => handWritten statement.withoutValues

/-- Two requests that differ only in their values have plans that differ only in their binds. -/
theorem plan_agree (dialect : Dialect) {first second : Request}
    (alike : first.withoutValues = second.withoutValues) :
    Agree (fun one other => one.withoutBinds = other.withoutBinds) (first.plan dialect)
      (second.plan dialect) := by
  cases first with
  | select query =>
    cases second with
    | select other =>
      exact Agree.map (Select.build_agree dialect (Request.select.inj alike))
        fun _ _ => Plan.single_withoutBinds
    | _ => cases alike
  | insert change =>
    cases second with
    | insert other => exact Insert.plan_agree dialect (Request.insert.inj alike)
    | _ => cases alike
  | update change =>
    cases second with
    | update other => exact Update.plan_agree dialect (Request.update.inj alike)
    | _ => cases alike
  | delete change =>
    cases second with
    | delete other => exact Delete.plan_agree dialect (Request.delete.inj alike)
    | _ => cases alike
  | merge change =>
    cases second with
    | merge other => exact Merge.plan_agree dialect (Request.merge.inj alike)
    | _ => cases alike
  | handWritten statement =>
    cases second with
    | handWritten other =>
      exact Agree.map (HandWritten.build_agree dialect (Request.handWritten.inj alike))
        fun _ _ => Plan.single_withoutBinds
    | _ => cases alike

theorem changePlan_agree (dialect : Dialect) {first second : Request}
    (alike : first.withoutValues = second.withoutValues) :
    Agree (fun one other => one.withoutBinds = other.withoutBinds) (first.changePlan dialect)
      (second.changePlan dialect) := by
  cases first with
  | handWritten statement =>
    cases second with
    | handWritten other =>
      exact HandWritten.changePlan_agree dialect (Request.handWritten.inj alike)
    | _ => cases alike
  | _ =>
    cases second with
    | handWritten other => cases alike
    | _ => exact plan_agree dialect alike

/-- Values never reach the text of a statement. Two requests that differ only in their values, and
that both have plans, have as many statements, with the same text, shape, operation, table and
offset one by one; only the binds may differ. The same holds of the plans for the count of changed
rows and of the statements that count the rows of a query. -/
theorem text_free_of_values (dialect : Dialect) :
    (∀ (first second : Request) (left right : Plan), first.withoutValues = second.withoutValues →
      first.plan dialect = .ok left → second.plan dialect = .ok right →
        left.withoutBinds = right.withoutBinds) ∧
    (∀ (first second : Request) (left right : Plan), first.withoutValues = second.withoutValues →
      first.changePlan dialect = .ok left → second.changePlan dialect = .ok right →
        left.withoutBinds = right.withoutBinds) ∧
    ∀ (first second : Select) (left right : Statement),
      first.withoutValues = second.withoutValues →
      first.buildCount dialect = .ok left → second.buildCount dialect = .ok right →
        left.withoutBinds = right.withoutBinds :=
  ⟨fun _ _ left right alike => plan_agree dialect alike left right,
    fun _ _ left right alike => changePlan_agree dialect alike left right,
    fun _ _ left right alike => Select.buildCount_agree dialect alike left right⟩

/-- The three forms of the statement at requests that carry a text with a quote in it: a page of
rows, a template with a `?` and an `@name` marker, and a count. -/
theorem text_free_of_quoted_name :
    let page (name : Value) (count : UInt64) : Select :=
      { source := "users", filter := ⟨[.compare "name" .equal name]⟩, limit := some count }
    let template (name : Value) : HandWritten :=
      { template := "UPDATE t SET a = ? WHERE b = @b"
        args := { positional := [name], named := [("B", name)] } }
    ∃ query other change another counted recounted,
      (select (page (.text "x' OR 1=1 --") 10)).plan { pageStyle := .rowNumber } = .ok query ∧
      (select (page .null 7)).plan { pageStyle := .rowNumber } = .ok other ∧
      query.withoutBinds = other.withoutBinds ∧
      (handWritten (template (.text "x' OR 1=1 --"))).changePlan {} = .ok change ∧
      (handWritten (template .null)).changePlan {} = .ok another ∧
      change.withoutBinds = another.withoutBinds ∧
      (page (.text "x' OR 1=1 --") 10).buildCount {} = .ok counted ∧
      (page .null 7).buildCount {} = .ok recounted ∧
      counted.withoutBinds = recounted.withoutBinds := by
  intro page template
  obtain ⟨query, selected⟩ := exists_of_isOk (by decide +kernel :
    ((select (page (.text "x' OR 1=1 --") 10)).plan { pageStyle := .rowNumber }).isOk = true)
  obtain ⟨other, selectedToo⟩ := exists_of_isOk (by decide +kernel :
    ((select (page .null 7)).plan { pageStyle := .rowNumber }).isOk = true)
  obtain ⟨change, changed⟩ := exists_of_isOk (by decide +kernel :
    ((handWritten (template (.text "x' OR 1=1 --"))).changePlan {}).isOk = true)
  obtain ⟨another, changedToo⟩ := exists_of_isOk (by decide +kernel :
    ((handWritten (template .null)).changePlan {}).isOk = true)
  obtain ⟨count, counted⟩ := exists_of_isOk (by decide +kernel :
    ((page (.text "x' OR 1=1 --") 10).buildCount {}).isOk = true)
  obtain ⟨recount, countedToo⟩ := exists_of_isOk (by decide +kernel :
    ((page .null 7).buildCount {}).isOk = true)
  refine ⟨query, other, change, another, count, recount, selected, selectedToo, ?_, changed,
    changedToo, ?_, counted, countedToo, ?_⟩
  · exact (text_free_of_values _).1 _ _ query other (by rfl) selected selectedToo
  · exact (text_free_of_values _).2.1 _ _ change another (by rfl) changed changedToo
  · exact (text_free_of_values _).2.2 _ _ count recount (by rfl) counted countedToo

end Request

end OracleSql
