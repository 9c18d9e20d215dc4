/-
This file takes built changes apart. A change that was built went through all of its checks, and
each of its parts was built; the statement or the plan is what the parts make up. What is proved
about changes starts from these lemmas and does not look at the order of the checks again.
-/

import OracleSql.Change.Delete
import OracleSql.Change.Insert
import OracleSql.Change.Merge
import OracleSql.Change.Update
import OracleSql.Proofs.Outcome

namespace OracleSql

/-! ### Returned columns -/

/-- A column that can be returned has a place. -/
theorem Dialect.outPiece_eq (dialect : Dialect) (table : Option Table) (rows : Nat)
    (column : String) :
    Ensures (fun pieces => ∃ columnType, pieces = [.out column columnType rows])
      (dialect.outPiece table rows column) := by
  unfold outPiece
  split
  · exact Ensures.map (Ensures.anything _) fun columnType _ => ⟨some columnType, rfl⟩
  · exact Ensures.ok ⟨none, rfl⟩

/-! ### Changes of rows that are there -/

/-- A removal that was built may go without a further condition, or its filter restricts it. -/
theorem Delete.parts_of_build {dialect : Dialect} {delete : Delete} {statement : Statement}
    (built : delete.build dialect = .ok statement) :
    (delete.filter.restricts || delete.allowAll || dialect.allowGlobalUpdate) = true ∧
      ∃ table rows tail, dialect.namePiece delete.table = .ok table ∧
        delete.filter.clause dialect " WHERE " = .ok rows ∧
        dialect.returningPieces none delete.returning 0 = .ok tail ∧
        statement =
          { dialect.assemble (.text "DELETE FROM " :: (table ++ rows ++ tail)) .rowsAffected with
            operation := "delete", table := some delete.table } := by
  unfold Delete.build at built
  dsimp only at built
  by_cases allowed : (delete.filter.restricts || delete.allowAll || dialect.allowGlobalUpdate)
  · simp only [allowed, Bool.not_true, Bool.false_eq_true, if_false, bind_eq_ok] at built
    obtain ⟨table, named, rows, filtered, _, _, tail, returned, same⟩ := built
    cases same
    exact ⟨allowed, table, rows, tail, named, filtered, returned, rfl⟩
  · simp only [allowed, Bool.not_false, if_true, bind_eq_ok] at built
    obtain ⟨_, impossible, _⟩ := built
    cases impossible

/-- A change that was built may go without a further condition, or its filter restricts it. -/
theorem Update.parts_of_build {dialect : Dialect} {update : Update} {statement : Statement}
    (built : update.build dialect = .ok statement) :
    (update.filter.restricts || update.allowAll || dialect.allowGlobalUpdate) = true ∧
      ∃ table changes rows tail, dialect.namePiece update.table = .ok table ∧
        (update.assignments.mapM fun (column, assignment) =>
          update.assignmentPieces dialect column assignment) = .ok changes ∧
        update.filter.clause dialect " WHERE " = .ok rows ∧
        dialect.returningPieces update.declared update.returning 0 = .ok tail ∧
        statement =
          { dialect.assemble (.text "UPDATE " :: (table ++ (.text " SET " ::
              (Piece.join ", " changes ++ rows ++ tail)))) .rowsAffected with
            operation := "update", table := some update.table } := by
  unfold Update.build at built
  dsimp only at built
  by_cases bare : update.assignments.isEmpty
  · rw [if_pos bare, bind_eq_ok] at built
    obtain ⟨_, impossible, _⟩ := built
    cases impossible
  rw [if_neg bare] at built
  by_cases allowed : (update.filter.restricts || update.allowAll || dialect.allowGlobalUpdate)
  · simp only [allowed, Bool.not_true, Bool.false_eq_true, if_false, bind_eq_ok] at built
    obtain ⟨table, named, changes, changed, rows, filtered, _, _, tail, returned, same⟩ := built
    cases same
    exact ⟨allowed, table, changes, rows, tail, named, changed, filtered, returned, rfl⟩
  · simp only [allowed, Bool.not_false, if_true, bind_eq_ok] at built
    obtain ⟨_, impossible, _⟩ := built
    cases impossible

/-! ### Changes that put rows in -/

/-- Rows that are accepted have a value for each column. -/
theorem Rows.widths_of_check {rows : Rows} {operation : String}
    (checked : rows.check operation = .ok ()) :
    ∀ values ∈ rows.content, values.length = rows.columns.length := by
  have noFault : rows.widthFault? = none := by
    cases found : rows.widthFault? with
    | none => rfl
    | some fault =>
      -- Whichever check fails first, there is no result.
      unfold check at checked
      rw [found] at checked
      dsimp only at checked
      repeat' split at checked
      all_goals cases checked
  intro values member
  obtain ⟨index, bound, rfl⟩ := List.getElem_of_mem member
  have each := List.findSome?_eq_none_iff.mp noFault (rows.content[index], index)
    (List.mk_mem_zipIdx_iff_getElem?.mpr (List.getElem?_eq_getElem bound))
  dsimp only at each
  by_cases same : rows.content[index].length = rows.columns.length
  · exact same
  · rw [if_neg same] at each
    cases each

/-- Rows that are accepted are not none. -/
theorem Rows.content_ne_nil_of_check {rows : Rows} {operation : String}
    (checked : rows.check operation = .ok ()) : rows.content ≠ [] := by
  intro none
  unfold check at checked
  rw [none] at checked
  dsimp only at checked
  split at checked
  · cases checked
  · split at checked <;> cases checked

/-- Rows that are stored are as wide as the columns are many. -/
theorem Rows.stored_widths {dialect : Dialect} {table : Option Table} {rows : Rows}
    {operation : String} (checked : rows.check operation = .ok ()) :
    Ensures (fun stored => ∀ values ∈ stored, values.length = rows.columns.length)
      (rows.stored dialect table) := by
  refine Ensures.mapM fun values member => (Ensures.mapM_length _ _).mono fun stored length => ?_
  rw [length, List.length_zip, widths_of_check checked values member, Nat.min_self]

/-- As many rows are stored as are put in. -/
theorem Rows.length_stored (dialect : Dialect) (table : Option Table) (rows : Rows) :
    Ensures (fun stored => stored.length = rows.content.length) (rows.stored dialect table) :=
  Ensures.mapM_length _ _

/-- Some rows are stored. -/
theorem Rows.stored_ne_nil {dialect : Dialect} {table : Option Table} {rows : Rows}
    {operation : String} (checked : rows.check operation = .ok ()) :
    Ensures (· ≠ []) (rows.stored dialect table) := by
  rintro _ stored rfl
  have length := length_stored _ _ _ _ stored
  exact content_ne_nil_of_check checked (List.eq_nil_of_length_eq_zero length.symm)

/-- Several rows, or none, are inserted chunk by chunk. -/
theorem Insert.plainPlan_several (dialect : Dialect) (insert : Insert) {rows : List (List Value)}
    (several : rows.length ≠ 1) :
    insert.plainPlan dialect rows = (do
      let size ← Rows.perStatement dialect insert.rows.columns.length
      let statements ← (chunks size rows).mapM (insert.severalRows dialect)
      .ok (.ofStatements statements)) := by
  match rows, several with
  | [], _ => rfl
  | _ :: _ :: _, _ => rfl

/-- Several rows from which columns are wanted back are inserted chunk by chunk or one by one. -/
theorem Insert.returningPlan_several (dialect : Dialect) (insert : Insert)
    {rows : List (List Value)} (several : rows.length ≠ 1) :
    insert.returningPlan dialect rows =
      (if dialect.bulkReturning then insert.bulkStatements dialect 0 (chunks dialect.batchSize rows)
        else insert.rowStatements dialect rows).map fun statements =>
        { Plan.ofStatements statements with atomic := true }.withReturning (mode dialect)
          rows.length := by
  have unfolded : insert.returningPlan dialect rows = (do
      let statements ←
        if dialect.bulkReturning then
          insert.bulkStatements dialect 0 (chunks dialect.batchSize rows)
        else insert.rowStatements dialect rows
      .ok ({ Plan.ofStatements statements with atomic := true }.withReturning (mode dialect)
        rows.length)) := by
    match rows, several with
    | [], _ => rfl
    | _ :: _ :: _, _ => rfl
  rw [unfolded]
  split
  · cases insert.bulkStatements dialect 0 (chunks dialect.batchSize rows) <;> rfl
  · cases insert.rowStatements dialect rows <;> rfl

/-- The plan of an insertion is that of its stored rows, with or without returned columns. -/
theorem Insert.parts_of_planUnplaced {dialect : Dialect} {insert : Insert} {plan : Plan}
    (built : insert.planUnplaced dialect = .ok plan) :
    insert.rows.check "INSERT" = .ok () ∧
      ∃ rows, insert.rows.stored dialect insert.declared = .ok rows ∧
        (if insert.returning.isEmpty then insert.plainPlan dialect rows
          else insert.returningPlan dialect rows) = .ok plan := by
  unfold Insert.planUnplaced at built
  simp only [bind_eq_ok] at built
  obtain ⟨_, checked, _, _, rows, stored, planned⟩ := built
  exact ⟨checked, rows, stored, planned⟩

/-- How a statement of an insertion is made: of one row, of several rows, or of the first row of a
batch, with the values of each. -/
inductive Insert.Makes (dialect : Dialect) (insert : Insert) : Statement → Prop where
  | oneRow {returned : Nat} {values : List Value} {statement : Statement} (offset : Nat)
    (built : insert.oneRow dialect returned values = .ok statement) :
    Makes dialect insert { statement with inputOffset := offset }
  | severalRows {rows : List (List Value)} {statement : Statement}
    (built : insert.severalRows dialect rows = .ok statement) : Makes dialect insert statement
  | batch {chunk : List (List Value)} {statement : Statement} (offset : Nat)
    (wide : ∀ values ∈ chunk, values.length = insert.rows.columns.length)
    (built : insert.oneRow dialect chunk.length (chunk.headD []) = .ok statement) :
    Makes dialect insert { statement with binds := .batch chunk, inputOffset := offset }

theorem Insert.bulkStatements_makes {dialect : Dialect} {insert : Insert} (offset : Nat)
    (parts : List (List (List Value)))
    (wide : ∀ chunk ∈ parts, ∀ values ∈ chunk, values.length = insert.rows.columns.length) :
    Ensures (fun statements => ∀ statement ∈ statements, insert.Makes dialect statement)
      (insert.bulkStatements dialect offset parts) := by
  induction parts generalizing offset with
  | nil => exact Ensures.ok fun _ impossible => by cases impossible
  | cons chunk rest inductionHypothesis =>
    obtain ⟨head, others⟩ := List.forall_mem_cons.mp wide
    refine Ensures.bind (fun _ => id) fun first built => ?_
    refine Ensures.bind (inductionHypothesis (offset + chunk.length) others) fun _ made => ?_
    exact Ensures.ok (List.forall_mem_cons.mpr ⟨.batch offset head built, made⟩)

/-- Every statement of a planned insertion is made in one of these ways. -/
theorem Insert.makes_of_planUnplaced {dialect : Dialect} {insert : Insert} {plan : Plan}
    (built : insert.planUnplaced dialect = .ok plan) :
    ∀ statement ∈ plan.statements, insert.Makes dialect statement := by
  obtain ⟨checked, rows, stored, planned⟩ := parts_of_planUnplaced built
  have wide := Rows.stored_widths checked rows stored
  have alone {returned : Nat} {values : List Value} {statement : Statement}
      (made : insert.oneRow dialect returned values = .ok statement) :
      ∀ other ∈ [statement], insert.Makes dialect other :=
    List.forall_mem_singleton.mpr (.oneRow statement.inputOffset made)
  by_cases none : insert.returning.isEmpty
  · rw [if_pos none] at planned
    by_cases single : rows.length = 1
    · obtain ⟨values, rfl⟩ := List.length_eq_one_iff.mp single
      obtain ⟨statement, made, rfl⟩ := map_eq_ok.mp planned
      exact alone made
    · rw [plainPlan_several dialect insert single] at planned
      obtain ⟨size, _, planned⟩ := bind_eq_ok.mp planned
      obtain ⟨statements, made, same⟩ := bind_eq_ok.mp planned
      cases same
      exact Ensures.mapM (fun chunk _ statement => .severalRows) statements made
  · rw [if_neg none] at planned
    by_cases single : rows.length = 1
    · obtain ⟨values, rfl⟩ := List.length_eq_one_iff.mp single
      obtain ⟨statement, made, same⟩ := bind_eq_ok.mp planned
      cases same
      exact alone made
    · rw [returningPlan_several dialect insert single] at planned
      obtain ⟨statements, made, rfl⟩ := map_eq_ok.mp planned
      show ∀ statement ∈ statements, insert.Makes dialect statement
      split at made
      · refine bulkStatements_makes 0 _ (fun chunk member values inside => ?_) statements made
        exact wide values (mem_of_mem_chunks _ _ chunk member values inside)
      · refine Ensures.mapM (fun row _ => ?_) statements made
        exact Ensures.map (fun _ => id) fun statement => .oneRow row.2

/-- The plan of a merger has a statement for each chunk of its stored rows. -/
theorem Merge.parts_of_planUnplaced {dialect : Dialect} {merge : Merge} {plan : Plan}
    (built : merge.planUnplaced dialect = .ok plan) :
    merge.rows.check "MERGE" = .ok () ∧
      ∃ updated rows size statements, merge.updatedColumns = .ok updated ∧
        merge.rows.stored dialect merge.declared = .ok rows ∧
        Rows.perStatement dialect merge.rows.columns.length = .ok size ∧
        (chunks size rows).mapM (merge.statement dialect updated) = .ok statements ∧
        plan = .ofStatements statements := by
  unfold Merge.planUnplaced at built
  dsimp only at built
  by_cases returning : merge.returning.isEmpty
  · simp only [returning, Bool.not_true, Bool.false_eq_true, if_false] at built
    by_cases bare : merge.keys.isEmpty
    · rw [if_pos bare, bind_eq_ok] at built
      obtain ⟨_, impossible, _⟩ := built
      cases impossible
    rw [if_neg bare, bind_eq_ok] at built
    obtain ⟨_, checked, built⟩ := built
    cases unbound : merge.bareKey? with
    | some key =>
      rw [unbound] at built
      cases built
    | none =>
      rw [unbound] at built
      simp only [bind_eq_ok, mapError_eq_ok] at built
      obtain ⟨updated, chosen, rows, stored, size, sized, statements, made, same⟩ := built
      cases same
      exact ⟨checked, updated, rows, size, statements, chosen, stored, sized, made, rfl⟩
  · simp only [returning, Bool.not_false, if_true, bind_eq_ok] at built
    obtain ⟨_, impossible, _⟩ := built
    cases impossible

end OracleSql
