/-
This file runs two changes of rows side by side that are the same but for their names. Rows are cut
into statements by their number, and every statement has the names of its columns in the same
places. A merger also looks at its names: a column that is a key is not taken over, and a column to
be taken over is looked up among the columns of the rows. It looks at them up to the case of ASCII
letters, and a renaming keeps apart what is different then and together what is the same. So the
plans of two such changes, if both are built, have statements with the same rest.
-/

import OracleSql.Proofs.Containment.Clauses
import OracleSql.Proofs.Values.Changes

namespace OracleSql

/-- The statements of the plans have the same rest one by one. -/
def Plan.SameRest (style : MarkerStyle) (first second : Plan) : Prop :=
  List.Forall₂ (fun one other => OracleSql.SameRest style one.sql other.sql) first.statements
    second.statements

variable {rule : Renaming} (dialect : Dialect)

/-! ### Names in rows -/

namespace Renaming

/-- Names that stand for each other are among names that do. -/
theorem memFolded_eq {name other : String} (replaced : rule.replaces name other)
    {names others : List String} (renamed : List.Forall₂ rule.replaces names others) :
    Text.memFolded name names = Text.memFolded other others := by
  unfold Text.memFolded
  induction renamed with
  | nil => rfl
  | cons head _ inductionHypothesis =>
    rw [List.any_cons, List.any_cons, rule.consistent replaced head, inductionHypothesis]

/-- The first name that is the same up to case stands for the first such name. -/
theorem find_related {name other : String} (replaced : rule.replaces name other)
    {names others : List String} (renamed : List.Forall₂ rule.replaces names others) :
    Option.Rel rule.replaces (names.find? (Text.sameFolded · name))
      (others.find? (Text.sameFolded · other)) := by
  induction renamed with
  | nil => exact .none
  | cons head _ inductionHypothesis =>
    rw [List.find?_cons, List.find?_cons, rule.consistent head replaced]
    split
    · exact .some head
    · exact inductionHypothesis

theorem shapes {names others : List String}
    (renamed : List.Forall₂ rule.replaces names others) :
    List.Forall₂ (fun name other => Identifier.shape? name = Identifier.shape? other) names
      others :=
  renamed.imp fun _ _ => rule.sameShape

end Renaming

theorem Rows.valuePieces_parallel (style : MarkerStyle) {left right : List Value}
    (same : left.length = right.length) :
    Parallel style .free (valuePieces left) (valuePieces right) .word := by
  refine Parallel.join .comma ?_
  rw [List.forall₂_map_left_iff, List.forall₂_map_right_iff]
  exact List.forall₂_of_length_eq_of_get same fun _ _ _ => Parallel.value _ _

/-- Rows are selected from nothing. -/
theorem Parallel.selected {style : MarkerStyle} {first second : List Piece}
    (parallel : Parallel style .free first second .word) :
    Parallel style .free (Piece.enclosed "SELECT " " FROM DUAL" first)
      (Piece.enclosed "SELECT " " FROM DUAL" second) .word := by
  have before : Fixed .free "SELECT " .free := by decide
  have after : Fixed .word " FROM DUAL" .word := by decide
  exact enclosed before parallel after

/-! ### Returned columns -/

theorem Dialect.outPiece_parallel (table other : Option Table) (rows more : Nat)
    (column another : String) :
    Agree (Parallel dialect.markerStyle .free · · .word) (dialect.outPiece table rows column)
      (dialect.outPiece other more another) := by
  refine Agree.ofEnsures (dialect.outPiece_eq table rows column)
    (dialect.outPiece_eq other more another) ?_
  rintro _ _ ⟨columnType, rfl⟩ ⟨otherType, rfl⟩
  exact Parallel.out _ _ _ _ _ _

theorem Dialect.returningPieces_parallel (table other : Option Table) {columns others : List String}
    (renamed : List.Forall₂ rule.replaces columns others) (rows more : Nat) :
    Agree (Parallel dialect.markerStyle .word · · .word)
      (dialect.returningPieces table columns rows) (dialect.returningPieces other others more) := by
  have opening : Fixed .word " RETURNING " .free := by decide
  have middle : Fixed .word " INTO " .free := by decide
  unfold returningPieces
  rw [forall₂_isEmpty renamed]
  split
  · exact Agree.ok Parallel.nil
  · refine Agree.bind (dialect.namePieces_parallel (Renaming.shapes renamed)) fun _ _ names => ?_
    refine Agree.bind (Agree.mapM renamed fun _ _ _ => dialect.outPiece_parallel _ _ _ _ _ _)
      fun _ _ outs => Agree.ok ?_
    exact (Parallel.fixed opening).cons (names.append
      ((Parallel.fixed middle).cons (Parallel.join .comma outs)))

/-! ### Insertions -/

namespace Insert

variable {first second : Insert}

theorem headPieces_parallel (renamed : Insert.Renamed rule first second) :
    Agree (Parallel dialect.markerStyle .free · · .word) (first.headPieces dialect)
      (second.headPieces dialect) := by
  have opening : Fixed .free "INSERT INTO " .free := by decide
  have before : Fixed .word " (" .free := by decide
  unfold headPieces
  refine Agree.bind (dialect.namePiece_parallel (rule.sameShape renamed.table)) fun _ _ table => ?_
  refine Agree.bind (dialect.namePieces_parallel (Renaming.shapes renamed.rows.columns))
    fun _ _ columns => Agree.ok ?_
  exact (Parallel.fixed opening).cons (table.append (Parallel.enclosed before columns .bracket))

/-- The statements of rows that are as wide have the same rest. -/
theorem oneRow_sameRest (renamed : Insert.Renamed rule first second) (returned more : Nat)
    {left right : List Value} (same : left.length = right.length) :
    Agree (fun one other => SameRest dialect.markerStyle one.sql other.sql)
      (first.oneRow dialect returned left) (second.oneRow dialect more right) := by
  have before : Fixed .word " VALUES (" .free := by decide
  refine Agree.bind (headPieces_parallel dialect renamed) fun _ _ head => ?_
  refine Agree.bind (dialect.returningPieces_parallel _ _ renamed.returning _ _)
    fun _ _ tail => Agree.ok ?_
  exact dialect.assemble_sameRest .rowsAffected .rowsAffected ((head.append
    (Parallel.enclosed before (Rows.valuePieces_parallel _ same) .bracket)).append tail)

theorem severalRows_sameRest (renamed : Insert.Renamed rule first second)
    {rows others : List (List Value)} (same : Rows.SameWidths rows others) :
    Agree (fun one other => SameRest dialect.markerStyle one.sql other.sql)
      (first.severalRows dialect rows) (second.severalRows dialect others) := by
  have union : Fixed .word " UNION ALL " .free := by decide
  refine Agree.bind (headPieces_parallel dialect renamed) fun _ _ head => Agree.ok ?_
  have selected : Parallel dialect.markerStyle .free
      (Piece.join " UNION ALL " (rows.map selectPieces))
      (Piece.join " UNION ALL " (others.map selectPieces)) .word := by
    refine Parallel.join union ?_
    rw [List.forall₂_map_left_iff, List.forall₂_map_right_iff]
    exact ((Rows.sameWidths_iff _ _).mp same).imp fun _ _ widths =>
      (Rows.valuePieces_parallel _ widths).selected
  exact dialect.assemble_sameRest .rowsAffected .rowsAffected
    (head.append ((Parallel.fixed .blank).cons selected))

theorem alongside_of_renamed (renamed : Insert.Renamed rule first second) :
    first.Alongside dialect (fun one other => SameRest dialect.markerStyle one.sql other.sql)
      second where
  columns := renamed.rows.columns.length_eq
  returning := forall₂_isEmpty renamed.returning
  contents := congrArg (List.map List.length) renamed.rows.content
  oneRow returned := oneRow_sameRest dialect renamed returned returned
  severalRows := severalRows_sameRest dialect renamed
  placed made _ _ _ := made

/-- Insertions that are the same but for their names have plans with the same rest. -/
theorem plan_sameRest (renamed : Insert.Renamed rule first second) :
    Agree (Plan.SameRest dialect.markerStyle) (first.plan dialect) (second.plan dialect) :=
  (alongside_of_renamed dialect renamed).plan.mono fun _ _ plans => plans.statements

end Insert

/-! ### Changes and removals of rows -/

namespace Update

theorem assignmentPieces_parallel {first second : Update} {pair other : String × Assignment}
    (renamed : Assignment.Renamed rule pair other) :
    Agree (Parallel dialect.markerStyle .free · · .word)
      (first.assignmentPieces dialect pair.1 pair.2)
      (second.assignmentPieces dialect other.1 other.2) := by
  have equals : Fixed .word " = " .free := by decide
  cases renamed with
  | @value column another value replaced =>
    refine Agree.bind (dialect.nameText_parallel (rule.sameShape replaced)) fun _ _ named => ?_
    have stored : Agree (Parallel dialect.markerStyle .free · · .word)
        ((dialect.store first.declared column value).map fun stored => [.value stored])
        ((dialect.store second.declared another value).map fun stored => [.value stored]) :=
      Agree.map (Agree.anything _ _) fun _ _ _ => Parallel.value _ _
    exact Agree.bind stored fun _ _ content =>
      Agree.ok ((Parallel.text (named.append (.fixed equals))).cons content)

/-- Changes that are the same but for their names have statements with the same rest. -/
theorem build_sameRest {first second : Update} (renamed : Update.Renamed rule first second) :
    Agree (fun one other => SameRest dialect.markerStyle one.sql other.sql) (first.build dialect)
      (second.build dialect) := by
  intro left right built also
  obtain ⟨_, table, changes, rows, tail, named, changed, filtered, returned, rfl⟩ :=
    parts_of_build built
  obtain ⟨_, other, others, more, last, namedToo, changedToo, filteredToo, returnedToo, rfl⟩ :=
    parts_of_build also
  have opening : Fixed .free "UPDATE " .free := by decide
  have middle : Fixed .word " SET " .free := by decide
  have target := dialect.namePiece_parallel (rule.sameShape renamed.table) table other named
    namedToo
  have pairs := Agree.mapM renamed.assignments (fun _ _ => assignmentPieces_parallel dialect)
    changes others changed changedToo
  have clauses := Filter.clause_parallel dialect (by decide) renamed.filter rows more filtered
    filteredToo
  have back := dialect.returningPieces_parallel _ _ renamed.returning _ _ tail last returned
    returnedToo
  exact dialect.assemble_sameRest .rowsAffected .rowsAffected ((Parallel.fixed opening).cons
    (target.append ((Parallel.fixed middle).cons
      (((Parallel.join .comma pairs).append clauses).append back))))

end Update

/-- Removals that are the same but for their names have statements with the same rest. -/
theorem Delete.build_sameRest {first second : Delete} (renamed : Delete.Renamed rule first second) :
    Agree (fun one other => SameRest dialect.markerStyle one.sql other.sql) (first.build dialect)
      (second.build dialect) := by
  intro left right built also
  obtain ⟨_, table, rows, tail, named, filtered, returned, rfl⟩ := parts_of_build built
  obtain ⟨_, other, more, last, namedToo, filteredToo, returnedToo, rfl⟩ := parts_of_build also
  have opening : Fixed .free "DELETE FROM " .free := by decide
  have target := dialect.namePiece_parallel (rule.sameShape renamed.table) table other named
    namedToo
  have clauses := Filter.clause_parallel dialect (by decide) renamed.filter rows more filtered
    filteredToo
  have back := dialect.returningPieces_parallel _ _ renamed.returning _ _ tail last returned
    returnedToo
  exact dialect.assemble_sameRest .rowsAffected .rowsAffected
    ((Parallel.fixed opening).cons ((target.append clauses).append back))

/-! ### Mergers -/

namespace Merge

/-- A column of one side, `t` or `s`. -/
theorem sidePieces_parallel {side : String} (opens : Fixed .free side .word) {column other : String}
    (same : Identifier.shape? column = Identifier.shape? other) :
    Agree (Parallel dialect.markerStyle .free · · .word) (sidePieces dialect side column)
      (sidePieces dialect side other) := by
  have dot : Fixed .word "." .free := by decide
  exact Agree.map (dialect.nameText_parallel same) fun _ _ named =>
    Parallel.text (((ParallelText.fixed opens).append (.fixed dot)).append named)

theorem equalPieces_parallel {column other : String}
    (same : Identifier.shape? column = Identifier.shape? other) :
    Agree (Parallel dialect.markerStyle .free · · .word) (equalPieces dialect column)
      (equalPieces dialect other) := by
  have left : Fixed .free "t." .free := by decide
  have right : Fixed .word " = s." .free := by decide
  exact Agree.map (dialect.nameText_parallel same) fun _ _ named =>
    Parallel.text ((((ParallelText.fixed left).append named).append (.fixed right)).append named)

theorem namedRowPieces_parallel {columns others : List String}
    (renamed : List.Forall₂ rule.replaces columns others) {left right : List Value}
    (same : left.length = right.length) :
    Agree (Parallel dialect.markerStyle .free · · .word) (namedRowPieces dialect columns left)
      (namedRowPieces dialect others right) := by
  refine Agree.map (Agree.mapM (forall₂_zip same renamed) fun _ _ replaced => ?_)
    fun _ _ => Parallel.join .comma
  exact Agree.map (dialect.nameText_parallel (rule.sameShape replaced)) fun _ _ named =>
    (Parallel.value _ _).cons (Parallel.text ((ParallelText.fixed .blank).append named))

theorem sourcePieces_parallel {columns others : List String}
    (renamed : List.Forall₂ rule.replaces columns others) {rows more : List (List Value)}
    (same : Rows.SameWidths rows more) :
    Agree (Parallel dialect.markerStyle .free · · .word) (sourcePieces dialect columns rows)
      (sourcePieces dialect others more) := by
  have union : Fixed .word " UNION ALL " .free := by decide
  cases (Rows.sameWidths_iff _ _).mp same with
  | nil => exact Agree.ok Parallel.nil.closing
  | cons head rest =>
    refine Agree.bind (namedRowPieces_parallel dialect renamed head) fun _ _ first => Agree.ok ?_
    refine Parallel.join union ?_
    rw [List.forall₂_map_left_iff, List.forall₂_map_right_iff]
    refine .cons first.selected ?_
    rw [List.forall₂_map_left_iff, List.forall₂_map_right_iff]
    exact rest.imp fun _ _ widths =>
      (Rows.valuePieces_parallel _ widths).selected

theorem matchedPieces_parallel {updated others : List String}
    (renamed : List.Forall₂ rule.replaces updated others) :
    Agree (Parallel dialect.markerStyle .word · · .word) (matchedPieces dialect updated)
      (matchedPieces dialect others) := by
  have opening : Fixed .word " WHEN MATCHED THEN UPDATE SET " .free := by decide
  unfold matchedPieces
  rw [forall₂_isEmpty renamed]
  split
  · exact Agree.ok Parallel.nil
  · refine Agree.bind (Agree.mapM renamed fun _ _ replaced =>
      equalPieces_parallel dialect (rule.sameShape replaced)) fun _ _ changes => Agree.ok ?_
    exact (Parallel.fixed opening).cons (Parallel.join .comma changes)

variable {first second : Merge}

/-- The columns that a met row takes over stand for each other. -/
theorem updatedColumns_renamed (renamed : Merge.Renamed rule first second) :
    Agree (List.Forall₂ rule.replaces) first.updatedColumns second.updatedColumns := by
  have key {column other : String} (replaced : rule.replaces column other) :
      first.isKey column = second.isKey other :=
    Renaming.memFolded_eq replaced renamed.keys
  have column {name other : String} (replaced : rule.replaces name other) :
      Agree rule.replaces (first.updatedColumn name) (second.updatedColumn other) := by
    have found := Renaming.find_related replaced renamed.rows.columns
    unfold updatedColumn
    rw [key replaced]
    split
    · exact Agree.errorLeft _ _
    · generalize first.rows.columns.find? (Text.sameFolded · name) = met at found ⊢
      generalize second.rows.columns.find? (Text.sameFolded · other) = further at found ⊢
      cases found with
      | none => exact Agree.errorLeft _ _
      | some related => exact Agree.ok related
  have chosen := renamed.updated
  unfold updatedColumns
  rw [renamed.insertOnly]
  split
  · exact Agree.ok .nil
  · generalize first.updated = names at chosen ⊢
    generalize second.updated = others at chosen ⊢
    cases chosen with
    | none =>
      refine Agree.ok (List.rel_filter (fun _ _ replaced => ?_) renamed.rows.columns)
      show (!first.isKey _) = true ↔ (!second.isKey _) = true
      rw [key replaced]
    | some names => exact Agree.mapM names fun _ _ => column

theorem statement_sameRest (renamed : Merge.Renamed rule first second)
    {updated others : List String} (chosen : List.Forall₂ rule.replaces updated others)
    {rows more : List (List Value)} (same : Rows.SameWidths rows more) :
    Agree (fun one other => SameRest dialect.markerStyle one.sql other.sql)
      (first.statement dialect updated rows) (second.statement dialect others more) := by
  have columns := renamed.rows.columns
  unfold statement
  dsimp only
  refine Agree.bind (dialect.namePiece_parallel (rule.sameShape renamed.table)) fun _ _ table => ?_
  refine Agree.bind (sourcePieces_parallel dialect columns same) fun _ _ source => ?_
  refine Agree.bind (Agree.mapM renamed.keys fun _ _ replaced =>
    equalPieces_parallel dialect (rule.sameShape replaced)) fun _ _ keys => ?_
  refine Agree.bind (matchedPieces_parallel dialect chosen) fun _ _ met => ?_
  refine Agree.bind (dialect.namePieces_parallel (Renaming.shapes columns)) fun _ _ names => ?_
  refine Agree.bind (Agree.mapM columns fun _ _ replaced =>
    sidePieces_parallel dialect (by decide) (rule.sameShape replaced)) fun _ _ values =>
      Agree.ok ?_
  have opening : Fixed .free "MERGE INTO " .free := by decide
  have rowsOf : Fixed .word " t USING (" .free := by decide
  have on : Fixed .word ") s ON (" .free := by decide
  have inserts : Fixed .word " WHEN NOT MATCHED THEN INSERT (" .free := by decide
  have row : Fixed .word ") VALUES (" .free := by decide
  have head := (table.append (Parallel.enclosed rowsOf source on)).append
    (Parallel.join .conjunction keys)
  have middle := (head.append ((Parallel.fixed .bracket).cons met)).append
    (Parallel.enclosed inserts names row)
  have tail := (middle.append (Parallel.join .comma values)).append (.fixed .bracket)
  exact dialect.assemble_sameRest .rowsAffected .rowsAffected ((Parallel.fixed opening).cons tail)

/-- Mergers that are the same but for their names have plans with the same rest. -/
theorem plan_sameRest (renamed : Merge.Renamed rule first second) :
    Agree (Plan.SameRest dialect.markerStyle) (first.plan dialect) (second.plan dialect) := by
  refine Agree.mapError _ _ fun left right built also => ?_
  obtain ⟨_, updated, rows, size, statements, chosen, stored, sized, made, rfl⟩ :=
    parts_of_planUnplaced built
  obtain ⟨_, others, more, _, further, chosenToo, storedToo, sizedToo, madeToo, rfl⟩ :=
    parts_of_planUnplaced also
  rw [← renamed.rows.columns.length_eq, sized] at sizedToo
  cases sizedToo
  have taken := updatedColumns_renamed renamed updated others chosen chosenToo
  have same := Rows.stored_sameWidths dialect _ _ renamed.rows.columns.length_eq
    (congrArg (List.map List.length) renamed.rows.content) rows more stored storedToo
  exact Agree.mapM (same.chunks size) (fun _ _ widths =>
    statement_sameRest dialect renamed taken widths) statements further made madeToo

end Merge

end OracleSql
