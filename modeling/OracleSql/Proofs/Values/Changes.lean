/-
This file runs two changes of rows side by side that differ only in their values. Rows that are put
in keep their columns and their widths, and whether they are accepted depends on nothing else; how
they are cut into statements depends on their number alone. So two such changes, if both are built,
have plans that are the same up to the binds of their statements.

A value can still keep a change from being built, where its column is declared and refuses it. That
is why the two changes are compared only where both are built.
-/

import OracleSql.Proofs.Change.Parts
import OracleSql.Proofs.Values.Erased

namespace OracleSql

/-! ### Plans -/

/-- The plans are the same but for their statements, and these are related one by one. -/
structure Plan.RelatedBy (related : Statement → Statement → Prop) (left right : Plan) : Prop where
  statements : List.Forall₂ related left.statements right.statements
  rest : { left with statements := [] } = { right with statements := [] }

namespace Plan

variable {related : Statement → Statement → Prop}

theorem RelatedBy.single {one other : Statement} (made : related one other) :
    (Plan.single one).RelatedBy related (Plan.single other) :=
  ⟨.cons made .nil, rfl⟩

theorem RelatedBy.ofStatements {first second : List Statement}
    (each : List.Forall₂ related first second) :
    (Plan.ofStatements first).RelatedBy related (Plan.ofStatements second) :=
  ⟨each, by simp only [Plan.ofStatements, each.length_eq]⟩

/-- Plans whose statements differ only in their binds differ only in these. -/
theorem RelatedBy.withoutBinds {left right : Plan}
    (plans : left.RelatedBy (fun one other => one.withoutBinds = other.withoutBinds) right) :
    left.withoutBinds = right.withoutBinds := by
  obtain ⟨statements, rest⟩ := plans
  simp only [Plan.mk.injEq, true_and] at rest
  simp only [Plan.withoutBinds, (map_eq_map_iff _ _).mpr statements, rest]

theorem single_withoutBinds {first second : Statement}
    (same : first.withoutBinds = second.withoutBinds) :
    (single first).withoutBinds = (single second).withoutBinds :=
  RelatedBy.withoutBinds ⟨.cons same .nil, rfl⟩

end Plan

/-! ### Rows -/

namespace Rows

/-- The rows with the null for every value. -/
def withoutValues (rows : Rows) : Rows :=
  { rows with
    form := match rows.form with
      | .single cells => .single (cells.map fun cell => (cell.1, .null))
      | .many columns content => .many columns (content.map (List.map fun _ => .null)) }

/-- Rows of values that are as many and as wide. -/
def SameWidths (first second : List (List Value)) : Prop :=
  first.map List.length = second.map List.length

theorem sameWidths_iff (first second : List (List Value)) :
    SameWidths first second ↔
      List.Forall₂ (fun left right => left.length = right.length) first second :=
  map_eq_map_iff first second

theorem SameWidths.length {first second : List (List Value)} (same : SameWidths first second) :
    first.length = second.length := by
  have lengths := congrArg List.length same
  rwa [List.length_map, List.length_map] at lengths

/-- Rows that are as many and as wide are cut into chunks that are so. -/
theorem SameWidths.chunks {first second : List (List Value)} (same : SameWidths first second)
    (size : Nat) : List.Forall₂ SameWidths (chunks size first) (OracleSql.chunks size second) := by
  have cut := congrArg (OracleSql.chunks size) same
  rw [chunks_map, chunks_map] at cut
  exact (map_eq_map_iff _ _).mp cut

theorem columns_withoutValues (rows : Rows) : rows.withoutValues.columns = rows.columns := by
  unfold columns withoutValues
  cases rows.form with
  | single cells => exact List.map_map
  | many columns content => rfl

theorem content_withoutValues (rows : Rows) :
    rows.withoutValues.content = rows.content.map (List.map fun _ => .null) := by
  unfold content withoutValues
  cases rows.form with
  | single cells =>
    cases cells with
    | nil => rfl
    | cons cell rest => simp
  | many columns content => rfl

theorem SameWidths.ofAlike {first second : Rows}
    (alike : first.withoutValues = second.withoutValues) :
    SameWidths first.content second.content := by
  have contents := congrArg (List.map List.length) (congrArg content alike)
  simp only [content_withoutValues, List.map_map, Function.comp_def, List.length_map] at contents
  exact contents

theorem columns_eq_of_alike {first second : Rows}
    (alike : first.withoutValues = second.withoutValues) : first.columns = second.columns := by
  rw [← columns_withoutValues first, alike, columns_withoutValues]

/-- Storing rows changes neither their number nor their widths. -/
theorem stored_sameWidths (dialect : Dialect) (table other : Option Table) {first second : Rows}
    (columns : first.columns.length = second.columns.length)
    (contents : SameWidths first.content second.content) :
    Agree SameWidths (first.stored dialect table) (second.stored dialect other) := by
  have agree : Agree (List.Forall₂ fun left right => List.length left = List.length right)
      (first.stored dialect table) (second.stored dialect other) := by
    unfold stored
    refine Agree.mapM ((sameWidths_iff _ _).mp contents) fun left right same => ?_
    refine Agree.ofEnsures (Ensures.mapM_length _ _) (Ensures.mapM_length _ _) fun one other => ?_
    intro lengths others
    rw [lengths, others, List.length_zip, List.length_zip, same, columns]
  exact agree.mono fun _ _ => (sameWidths_iff _ _).mpr

/-- The pieces of a row depend on nothing but its width. -/
theorem valuePieces_alike {left right : List Value} (same : left.length = right.length) :
    Piece.Alike (valuePieces left) (valuePieces right) := by
  have members (values : List Value) :
      (values.map fun value => [Piece.value value]).map (List.map Piece.withoutValue) =
        List.replicate values.length [.value .null] := by
    rw [List.map_map, ← List.map_const']
    rfl
  unfold Piece.Alike valuePieces
  rw [Piece.map_withoutValue_join, Piece.map_withoutValue_join, members, members, same]

end Rows

/-! ### Insertions side by side -/

/-- Two insertions whose statements are related wherever their rows are as many and as wide. -/
structure Insert.Alongside (dialect : Dialect) (related : Statement → Statement → Prop)
    (first second : Insert) : Prop where
  columns : first.rows.columns.length = second.rows.columns.length
  returning : first.returning.isEmpty = second.returning.isEmpty
  contents : Rows.SameWidths first.rows.content second.rows.content
  oneRow (returned : Nat) {left right : List Value} (same : left.length = right.length) :
    Agree related (first.oneRow dialect returned left) (second.oneRow dialect returned right)
  severalRows {rows others : List (List Value)} (same : Rows.SameWidths rows others) :
    Agree related (first.severalRows dialect rows) (second.severalRows dialect others)
  /-- Neither their binds nor their place has a say in this. -/
  placed {one other : Statement} (made : related one other) (binds more : Binds) (offset : Nat) :
    related { one with binds := binds, inputOffset := offset }
      { other with binds := more, inputOffset := offset }

namespace Insert.Alongside

variable {dialect : Dialect} {related : Statement → Statement → Prop} {first second : Insert}
  (alongside : first.Alongside dialect related second)

include alongside

theorem bulkStatements (offset : Nat) {parts others : List (List (List Value))}
    (same : List.Forall₂ Rows.SameWidths parts others) :
    Agree (List.Forall₂ related) (first.bulkStatements dialect offset parts)
      (second.bulkStatements dialect offset others) := by
  induction same generalizing offset with
  | nil => exact Agree.ok .nil
  | @cons chunk other _ _ head _ inductionHypothesis =>
    have widths : (chunk.headD []).length = (other.headD []).length := by
      cases (Rows.sameWidths_iff _ _).mp head with
      | nil => rfl
      | cons first _ => exact first
    unfold Insert.bulkStatements
    rw [← head.length]
    refine Agree.bind (alongside.oneRow chunk.length widths) fun _ _ made => ?_
    exact Agree.bind (inductionHypothesis (offset + chunk.length)) fun _ _ tail =>
      Agree.ok (.cons (alongside.placed made _ _ offset) tail)

theorem rowStatements {rows others : List (List Value)} (same : Rows.SameWidths rows others) :
    Agree (List.Forall₂ related) (first.rowStatements dialect rows)
      (second.rowStatements dialect others) := by
  refine Agree.mapM (forall₂_zipIdx ((Rows.sameWidths_iff _ _).mp same) 0)
    fun left right widths => ?_
  refine Agree.map (alongside.oneRow 1 widths.1) fun one other made => ?_
  rw [widths.2]
  exact alongside.placed made one.binds other.binds right.2

theorem plainPlan {rows others : List (List Value)} (same : Rows.SameWidths rows others) :
    Agree (Plan.RelatedBy related) (first.plainPlan dialect rows)
      (second.plainPlan dialect others) := by
  by_cases single : rows.length = 1
  · obtain ⟨values, more, rfl, rfl, widths⟩ :=
      forall₂_single ((Rows.sameWidths_iff _ _).mp same) single
    exact Agree.map (alongside.oneRow 0 widths) fun _ _ => .single
  · rw [plainPlan_several dialect first single,
      plainPlan_several dialect second (same.length ▸ single), alongside.columns]
    refine Agree.bind (Agree.self _ Eq.refl) fun size _ sizeSame => ?_
    subst sizeSame
    exact Agree.bind (Agree.mapM (same.chunks size) fun _ _ => alongside.severalRows)
      fun _ _ statements => Agree.ok (.ofStatements statements)

theorem returningPlan {rows others : List (List Value)} (same : Rows.SameWidths rows others) :
    Agree (Plan.RelatedBy related) (first.returningPlan dialect rows)
      (second.returningPlan dialect others) := by
  by_cases single : rows.length = 1
  · obtain ⟨values, more, rfl, rfl, widths⟩ :=
      forall₂_single ((Rows.sameWidths_iff _ _).mp same) single
    exact Agree.bind (alongside.oneRow 1 widths) fun _ _ made =>
      Agree.ok ⟨.cons made .nil, rfl⟩
  · rw [returningPlan_several dialect first single,
      returningPlan_several dialect second (same.length ▸ single), same.length]
    have made : Agree (List.Forall₂ related)
        (if dialect.bulkReturning then
          first.bulkStatements dialect 0 (chunks dialect.batchSize rows)
        else first.rowStatements dialect rows)
        (if dialect.bulkReturning then
          second.bulkStatements dialect 0 (chunks dialect.batchSize others)
        else second.rowStatements dialect others) := by
      split
      · exact alongside.bulkStatements 0 (same.chunks dialect.batchSize)
      · exact alongside.rowStatements same
    exact Agree.map made fun _ _ statements => ⟨statements, rfl⟩

/-- The plans of the insertions have related statements. -/
theorem plan : Agree (Plan.RelatedBy related) (first.plan dialect) (second.plan dialect) := by
  refine Agree.mapError _ _ fun left right built also => ?_
  obtain ⟨_, rows, stored, planned⟩ := parts_of_planUnplaced built
  obtain ⟨_, others, storedToo, plannedToo⟩ := parts_of_planUnplaced also
  have same := Rows.stored_sameWidths dialect first.declared second.declared alongside.columns
    alongside.contents rows others stored storedToo
  rw [← alongside.returning] at plannedToo
  by_cases none : first.returning.isEmpty
  · rw [if_pos none] at planned plannedToo
    exact alongside.plainPlan same left right planned plannedToo
  · rw [if_neg none] at planned plannedToo
    exact alongside.returningPlan same left right planned plannedToo

end Insert.Alongside

/-! ### Insertions -/

namespace Insert

/-- The insertion with the null for every value. -/
def withoutValues (insert : Insert) : Insert :=
  { insert with rows := insert.rows.withoutValues }

section

variable {first second : Insert} (dialect : Dialect)

theorem parts_of_alike (alike : first.withoutValues = second.withoutValues) :
    first.table = second.table ∧ first.declared = second.declared ∧
      first.returning = second.returning ∧ first.rows.columns = second.rows.columns := by
  simp only [withoutValues, mk.injEq] at alike
  obtain ⟨table, declared, rows, returning⟩ := alike
  exact ⟨table, declared, returning, Rows.columns_eq_of_alike rows⟩

theorem headPieces_eq (alike : first.withoutValues = second.withoutValues) :
    first.headPieces dialect = second.headPieces dialect := by
  obtain ⟨table, _, _, columns⟩ := parts_of_alike alike
  unfold headPieces
  rw [table, columns]

theorem statement_withoutBinds (alike : first.withoutValues = second.withoutValues)
    {pieces others : List Piece} (same : Piece.Alike pieces others) :
    (first.statement dialect pieces).withoutBinds =
      (second.statement dialect others).withoutBinds := by
  obtain ⟨table, _⟩ := parts_of_alike alike
  have assembled := dialect.assemble_withoutBinds .rowsAffected same
  simp only [Statement.withoutBinds, Statement.mk.injEq] at assembled
  simp only [statement, Statement.withoutBinds, table, assembled]

/-- The statement of a row depends on nothing of the row but its width. -/
theorem oneRow_agree (alike : first.withoutValues = second.withoutValues) (returned : Nat)
    {left right : List Value} (same : left.length = right.length) :
    Agree (fun one other => one.withoutBinds = other.withoutBinds)
      (first.oneRow dialect returned left) (second.oneRow dialect returned right) := by
  obtain ⟨_, declared, returning, _⟩ := parts_of_alike alike
  unfold oneRow
  rw [headPieces_eq dialect alike, declared, returning]
  refine Agree.bind (Agree.self _ Eq.refl) fun head _ headSame => ?_
  refine Agree.bind (Agree.self _ Eq.refl) fun tail _ tailSame => ?_
  subst headSame tailSame
  refine Agree.ok (statement_withoutBinds dialect alike ?_)
  exact ((Piece.Alike.refl head).append ((Rows.valuePieces_alike same).enclosed _ _)).append
    (Piece.Alike.refl tail)

/-- The statement of several rows depends on nothing of the rows but their widths. -/
theorem severalRows_agree (alike : first.withoutValues = second.withoutValues)
    {rows others : List (List Value)} (same : Rows.SameWidths rows others) :
    Agree (fun one other => one.withoutBinds = other.withoutBinds)
      (first.severalRows dialect rows) (second.severalRows dialect others) := by
  unfold severalRows
  rw [headPieces_eq dialect alike]
  refine Agree.bind (Agree.self _ Eq.refl) fun head _ headSame => ?_
  subst headSame
  refine Agree.ok (statement_withoutBinds dialect alike ?_)
  refine (Piece.Alike.refl head).append (Piece.Alike.cons _ (Piece.Alike.join _ ?_))
  rw [List.forall₂_map_left_iff, List.forall₂_map_right_iff]
  exact ((Rows.sameWidths_iff _ _).mp same).imp
    fun _ _ widths => (Rows.valuePieces_alike widths).enclosed _ _

theorem alongside_of_alike (alike : first.withoutValues = second.withoutValues) :
    first.Alongside dialect (fun one other => one.withoutBinds = other.withoutBinds) second where
  columns := congrArg List.length (parts_of_alike alike).2.2.2
  returning := congrArg List.isEmpty (parts_of_alike alike).2.2.1
  contents := Rows.SameWidths.ofAlike (congrArg Insert.rows alike)
  oneRow := oneRow_agree dialect alike
  severalRows := severalRows_agree dialect alike
  placed made _ _ offset := by
    simp only [Statement.withoutBinds, Statement.mk.injEq] at made
    simp only [Statement.withoutBinds, made]

/-- Two insertions that differ only in their values have plans that differ only in their binds. -/
theorem plan_agree (alike : first.withoutValues = second.withoutValues) :
    Agree (fun one other => one.withoutBinds = other.withoutBinds) (first.plan dialect)
      (second.plan dialect) :=
  (alongside_of_alike dialect alike).plan.mono fun _ _ => Plan.RelatedBy.withoutBinds

end

end Insert

/-! ### Clauses -/

/-- Filters that differ only in their values write clauses that do. -/
theorem Filter.clause_agree (dialect : Dialect) (keyword : String) {first second : Filter}
    (alike : first.withoutValues = second.withoutValues) :
    Agree Piece.Alike (first.clause dialect keyword) (second.clause dialect keyword) := by
  refine Agree.ofMap ?_
  rw [← clause_withoutValues, alike, clause_withoutValues]

/-! ### Changes and removals of rows -/

/-- What a column is set to, with the null for a value. -/
def Assignment.withoutValue : Assignment → Assignment
  | value _ => value .null
  | expression sql => expression sql

namespace Update

/-- The change with the null for every value. -/
def withoutValues (update : Update) : Update :=
  { update with
    assignments := update.assignments.map fun pair => (pair.1, pair.2.withoutValue)
    filter := update.filter.withoutValues }

theorem assignmentPieces_agree (dialect : Dialect) {first second : Update} (column : String)
    {assignment other : Assignment} (declared : first.declared = second.declared)
    (alike : assignment.withoutValue = other.withoutValue) :
    Agree Piece.Alike (first.assignmentPieces dialect column assignment)
      (second.assignmentPieces dialect column other) := by
  unfold assignmentPieces
  rw [declared]
  refine Agree.bind (Agree.self _ Eq.refl) fun name _ nameSame => ?_
  subst nameSame
  cases assignment with
  | value value =>
    cases other with
    | value another =>
      -- The stored values may differ, but each of them is a piece of one marker.
      have stored : Agree Piece.Alike
          ((dialect.store second.declared column value).map fun stored => [.value stored])
          ((dialect.store second.declared column another).map fun stored => [.value stored]) :=
        Agree.map (Agree.anything _ _) fun _ _ _ => rfl
      exact Agree.bind stored fun _ _ content => Agree.ok (content.cons _)
    | expression sql => cases alike
  | expression sql =>
    cases other with
    | value another => cases alike
    | expression another =>
      cases alike
      exact Agree.bind (Agree.self _ Piece.Alike.refl) fun _ _ content => Agree.ok (content.cons _)

/-- Two changes that differ only in their values have statements that differ only in their binds. -/
theorem build_agree (dialect : Dialect) {first second : Update}
    (alike : first.withoutValues = second.withoutValues) :
    Agree (fun one other => one.withoutBinds = other.withoutBinds) (first.build dialect)
      (second.build dialect) := by
  intro left right built also
  obtain ⟨_, table, changes, rows, tail, named, changed, filtered, returned, rfl⟩ :=
    parts_of_build built
  obtain ⟨_, _, others, more, _, namedToo, changedToo, filteredToo, returnedToo, rfl⟩ :=
    parts_of_build also
  simp only [withoutValues, mk.injEq] at alike
  obtain ⟨tableSame, declared, assignments, filter, returning, _⟩ := alike
  rw [← tableSame, named] at namedToo
  rw [← declared, ← returning, returned] at returnedToo
  cases namedToo
  cases returnedToo
  have pairs := Agree.mapM ((map_eq_map_iff _ _).mp assignments) (fun left right same =>
    show Agree Piece.Alike (first.assignmentPieces dialect left.1 left.2)
      (second.assignmentPieces dialect right.1 right.2) by
    rw [Prod.mk.injEq] at same
    rw [same.1]
    exact assignmentPieces_agree dialect right.1 declared same.2) changes others changed changedToo
  have clauses := Filter.clause_agree dialect " WHERE " filter rows more filtered filteredToo
  have pieces := ((Piece.Alike.refl table).append ((((Piece.Alike.join ", " pairs).append
    clauses).append (Piece.Alike.refl tail)).cons (.text " SET "))).cons (.text "UPDATE ")
  have assembled := dialect.assemble_withoutBinds .rowsAffected pieces
  simp only [Statement.withoutBinds, Statement.mk.injEq] at assembled
  simp only [Statement.withoutBinds, assembled, tableSame]

theorem plan_agree (dialect : Dialect) {first second : Update}
    (alike : first.withoutValues = second.withoutValues) :
    Agree (fun one other => one.withoutBinds = other.withoutBinds) (first.plan dialect)
      (second.plan dialect) :=
  Agree.mapError _ _ (Agree.map (build_agree dialect alike) fun _ _ => Plan.single_withoutBinds)

end Update

namespace Delete

/-- The removal with the null for every value. -/
def withoutValues (delete : Delete) : Delete :=
  { delete with filter := delete.filter.withoutValues }

/-- Two removals that differ only in their values have statements that differ only in their
binds. -/
theorem build_agree (dialect : Dialect) {first second : Delete}
    (alike : first.withoutValues = second.withoutValues) :
    Agree (fun one other => one.withoutBinds = other.withoutBinds) (first.build dialect)
      (second.build dialect) := by
  intro left right built also
  obtain ⟨_, table, rows, tail, named, filtered, returned, rfl⟩ := parts_of_build built
  obtain ⟨_, _, others, _, namedToo, filteredToo, returnedToo, rfl⟩ := parts_of_build also
  simp only [withoutValues, mk.injEq] at alike
  obtain ⟨tableSame, filter, returning, _⟩ := alike
  rw [← tableSame, named] at namedToo
  rw [← returning, returned] at returnedToo
  cases namedToo
  cases returnedToo
  have clauses := Filter.clause_agree dialect " WHERE " filter rows others filtered filteredToo
  have pieces := (((Piece.Alike.refl table).append clauses).append (Piece.Alike.refl tail)).cons
    (.text "DELETE FROM ")
  have assembled := dialect.assemble_withoutBinds .rowsAffected pieces
  simp only [Statement.withoutBinds, Statement.mk.injEq] at assembled
  simp only [Statement.withoutBinds, assembled, tableSame]

theorem plan_agree (dialect : Dialect) {first second : Delete}
    (alike : first.withoutValues = second.withoutValues) :
    Agree (fun one other => one.withoutBinds = other.withoutBinds) (first.plan dialect)
      (second.plan dialect) :=
  Agree.mapError _ _ (Agree.map (build_agree dialect alike) fun _ _ => Plan.single_withoutBinds)

end Delete

/-! ### Mergers -/

namespace Merge

/-- The merger with the null for every value. -/
def withoutValues (merge : Merge) : Merge :=
  { merge with rows := merge.rows.withoutValues }

theorem namedRowPieces_agree (dialect : Dialect) (columns : List String)
    {left right : List Value} (same : left.length = right.length) :
    Agree Piece.Alike (namedRowPieces dialect columns left)
      (namedRowPieces dialect columns right) := by
  refine Agree.map ?_ fun _ _ => Piece.Alike.join ", "
  have columnsSame : List.Forall₂ Eq columns columns := List.forall₂_refl columns
  refine Agree.mapM (forall₂_zip same columnsSame) fun one other column => ?_
  dsimp only
  rw [column]
  exact Agree.map (Agree.self _ Eq.refl) fun name _ same => same ▸ rfl

theorem sourcePieces_agree (dialect : Dialect) (columns : List String)
    {rows others : List (List Value)} (same : Rows.SameWidths rows others) :
    Agree Piece.Alike (sourcePieces dialect columns rows)
      (sourcePieces dialect columns others) := by
  cases (Rows.sameWidths_iff _ _).mp same with
  | nil => exact Agree.ok rfl
  | cons head rest =>
    refine Agree.bind (namedRowPieces_agree dialect columns head) fun named other first => ?_
    refine Agree.ok (Piece.Alike.join _ ?_)
    rw [List.forall₂_map_left_iff, List.forall₂_map_right_iff]
    refine .cons (first.enclosed _ _) ?_
    rw [List.forall₂_map_left_iff, List.forall₂_map_right_iff]
    exact rest.imp fun _ _ widths => (Rows.valuePieces_alike widths).enclosed _ _

theorem parts_of_alike {first second : Merge} (alike : first.withoutValues = second.withoutValues) :
    first.table = second.table ∧ first.declared = second.declared ∧ first.keys = second.keys ∧
      first.rows.columns = second.rows.columns ∧
      first.updatedColumns = second.updatedColumns := by
  simp only [withoutValues, mk.injEq] at alike
  obtain ⟨table, declared, keys, rows, updated, insertOnly, _⟩ := alike
  have columns := Rows.columns_eq_of_alike rows
  have column : first.updatedColumn = second.updatedColumn := by
    funext name
    simp only [updatedColumn, isKey, keys, columns]
    rfl
  refine ⟨table, declared, keys, columns, ?_⟩
  simp only [updatedColumns, isKey, insertOnly, updated, column, columns, keys]

theorem statement_agree (dialect : Dialect) {first second : Merge}
    (alike : first.withoutValues = second.withoutValues) (updated : List String)
    {rows others : List (List Value)} (same : Rows.SameWidths rows others) :
    Agree (fun one other => one.withoutBinds = other.withoutBinds)
      (first.statement dialect updated rows) (second.statement dialect updated others) := by
  obtain ⟨table, _, keys, columns, _⟩ := parts_of_alike alike
  unfold statement
  dsimp only
  rw [table, keys, columns]
  refine Agree.bind (Agree.self _ Eq.refl) fun table _ tableSame => ?_
  refine Agree.bind (sourcePieces_agree dialect _ same) fun source other sources => ?_
  refine Agree.bind (Agree.self _ Eq.refl) fun keys _ keysSame => ?_
  refine Agree.bind (Agree.self _ Eq.refl) fun met _ metSame => ?_
  refine Agree.bind (Agree.self _ Eq.refl) fun names _ namesSame => ?_
  refine Agree.bind (Agree.self _ Eq.refl) fun values _ valuesSame => ?_
  subst tableSame keysSame metSame namesSame valuesSame
  have head := (((Piece.Alike.refl table).append (sources.enclosed " t USING (" ") s ON (")).append
    (Piece.Alike.refl (Piece.join " AND " keys)))
  have whole := ((((head.append (Piece.Alike.refl (.text ")" :: met))).append
    ((Piece.Alike.refl names).enclosed " WHEN NOT MATCHED THEN INSERT (" ") VALUES (")).append
    (Piece.Alike.refl (Piece.join ", " values))).append
    (Piece.Alike.refl [.text ")"])).cons (.text "MERGE INTO ")
  refine Agree.ok ?_
  have assembled := dialect.assemble_withoutBinds .rowsAffected whole
  simp only [Statement.withoutBinds, Statement.mk.injEq] at assembled
  simp only [Statement.withoutBinds, assembled]

/-- Two mergers that differ only in their values have plans that differ only in their binds. -/
theorem plan_agree (dialect : Dialect) {first second : Merge}
    (alike : first.withoutValues = second.withoutValues) :
    Agree (fun one other => one.withoutBinds = other.withoutBinds) (first.plan dialect)
      (second.plan dialect) := by
  refine Agree.mapError _ _ fun left right built also => ?_
  obtain ⟨_, updated, rows, size, statements, chosen, stored, sized, made, rfl⟩ :=
    parts_of_planUnplaced built
  obtain ⟨_, _, others, _, more, chosenToo, storedToo, sizedToo, madeToo, rfl⟩ :=
    parts_of_planUnplaced also
  obtain ⟨_, _, _, columns, updatedSame⟩ := parts_of_alike alike
  rw [← updatedSame, chosen] at chosenToo
  rw [← columns, sized] at sizedToo
  cases chosenToo
  cases sizedToo
  have same := Rows.stored_sameWidths dialect _ _ (congrArg List.length columns)
    (Rows.SameWidths.ofAlike (congrArg Merge.rows alike)) rows others stored storedToo
  exact (Plan.RelatedBy.ofStatements (Agree.mapM (same.chunks size) (fun _ _ widths =>
    statement_agree dialect alike updated widths) statements more made madeToo)).withoutBinds

end Merge

end OracleSql
