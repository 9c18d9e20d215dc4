/-
This file says how many markers the statements of an insertion have. Only rows from which nothing is
wanted back are cut into parts by the limit of the dialect, and only where there are several of
them. A single row, and rows from which columns are wanted back, have a statement as wide as the
columns and the returned columns together, whatever the limit is.
-/

import OracleSql.Proofs.Batch.Carried

namespace OracleSql

/-- The reader finds no more markers in the statement than the dialect lets one bind. -/
def Statement.WithinLimit (dialect : Dialect) (statement : Statement) : Prop :=
  ∃ names, Marker.nativeNames statement.sql = .ok names ∧
    names.length ≤ dialect.maxBindParameters

theorem Statement.withinLimit_iff {dialect : Dialect} {statement : Statement}
    {names : List String} (read : Marker.nativeNames statement.sql = .ok names) :
    statement.WithinLimit dialect ↔ names.length ≤ dialect.maxBindParameters := by
  unfold WithinLimit
  rw [read]
  simp only [Except.ok.injEq, exists_eq_left']

/-- Statements that all have so many markers are within the limit if this count is. -/
theorem Statement.forall_withinLimit_iff {dialect : Dialect} {statements : List Statement}
    {count : Nat} (some : statements ≠ [])
    (each : ∀ statement ∈ statements, ∃ names,
      Marker.nativeNames statement.sql = .ok names ∧ names.length = count) :
    (∀ statement ∈ statements, statement.WithinLimit dialect) ↔
      count ≤ dialect.maxBindParameters := by
  have alike : ∀ statement ∈ statements,
      (statement.WithinLimit dialect ↔ count ≤ dialect.maxBindParameters) := by
    intro statement member
    obtain ⟨names, read, rfl⟩ := each statement member
    exact withinLimit_iff read
  constructor
  · intro within
    obtain ⟨first, member⟩ := List.exists_mem_of_ne_nil _ some
    exact (alike first member).mp (within first member)
  · exact fun fits statement member => (alike statement member).mpr fits

/-- Statements that fill in one statement have its text. -/
theorem Filling.sql_eq {style : MarkerStyle} {blank : Statement} {offset : Nat}
    {rows : List (List Value)} {statements : List Statement}
    (filling : Filling style blank offset rows statements) :
    ∀ statement ∈ statements, statement.sql = blank.sql := by
  induction filling with
  | nil => exact List.forall_mem_nil _
  | cons _ _ inductionHypothesis => exact List.forall_mem_cons.mpr ⟨rfl, inductionHypothesis⟩

namespace Insert

variable {dialect : Dialect} {insert : Insert}

/-- The statement of one row has a marker for each value and each returned column. -/
theorem oneRow_names (room : Nat) (values : List Value) :
    Ensures (fun statement => ∃ names, Marker.nativeNames statement.sql = .ok names ∧
        names.length = values.length + insert.returning.length)
      (insert.oneRow dialect room values) := by
  intro statement built
  obtain ⟨⟨outs, marked⟩, _⟩ := oneRow_hasMarkers dialect room values statement built
  refine ⟨_, marked.1, ?_⟩
  rw [MarkerStyle.length_markerNames, ← marked.length_outs]
  obtain ⟨head, headed, built⟩ := bind_eq_ok.mp built
  obtain ⟨tail, returned, same⟩ := bind_eq_ok.mp built
  obtain ⟨_, columns⟩ := rowPieces_assembled room values headed returned
  cases same
  have taken := (congrArg (List.map OutBind.column)
    (dialect.outs_assemble (Or.inr rfl) _)).trans columns
  rw [← taken, List.length_map]
  rfl

/-- Several rows from which nothing is wanted back are cut into statements within the limit, and
refused where there is no room for one of them. -/
theorem severalRows_withinLimit {rows : List (List Value)}
    (wide : ∀ values ∈ rows, values.length = insert.rows.columns.length)
    (several : rows.length ≠ 1) :
    Ensures (fun plan => insert.rows.columns.length ≤ dialect.maxBindParameters ∧
        ∀ statement ∈ plan.statements, statement.WithinLimit dialect)
      (insert.plainPlan dialect rows) := by
  intro plan planned
  rw [plainPlan_several dialect insert several] at planned
  obtain ⟨size, sized, planned⟩ := bind_eq_ok.mp planned
  obtain ⟨statements, made, same⟩ := bind_eq_ok.mp planned
  cases same
  obtain ⟨least, _, room, fits⟩ := Rows.limits_of_perStatement sized
  refine ⟨room, Ensures.mapM (fun part member statement built => ?_) statements made⟩
  have carries := severalRows_carries (fun values inside =>
    wide values (mem_of_mem_chunks size rows part member values inside)) statement built
  rw [Statement.withinLimit_iff carries.markers, MarkerStyle.length_markerNames, Nat.add_zero,
    List.length_map]
  exact (Nat.mul_le_mul_right _ (length_le_of_mem_chunks least rows part member)).trans fits

/-- **The limit of the dialect is kept exactly where the columns and the returned columns fit into
it.** An insertion that is planned has statements within the limit just if it does not have more
columns, together with those that are returned, than values may be bound. It is so in any case where
several rows are put in and nothing is wanted back. -/
theorem plan_withinLimit_iff (dialect : Dialect) (insert : Insert) (plan : Plan)
    (planned : insert.plan dialect = .ok plan) :
    ((∀ statement ∈ plan.statements, statement.WithinLimit dialect) ↔
        insert.rows.columns.length + insert.returning.length ≤ dialect.maxBindParameters) ∧
      (insert.returning = [] → 2 ≤ insert.rows.content.length →
        ∀ statement ∈ plan.statements, statement.WithinLimit dialect) := by
  have built := mapError_eq_ok.mp planned
  obtain ⟨checked, rows, stored, parts⟩ := parts_of_planUnplaced built
  have wide := Rows.stored_widths checked rows stored
  have length : rows.length = insert.rows.content.length := Ensures.mapM_length _ _ _ stored
  by_cases unwanted : insert.returning = []
  · rw [unwanted, List.isEmpty_nil, if_pos rfl] at parts
    by_cases single : rows.length = 1
    · refine ⟨?_, fun _ several => by omega⟩
      obtain ⟨values, rfl⟩ := List.length_eq_one_iff.mp single
      obtain ⟨statement, made, rfl⟩ := map_eq_ok.mp parts
      refine Statement.forall_withinLimit_iff (List.cons_ne_nil _ _)
        (List.forall_mem_singleton.mpr ?_)
      have names := oneRow_names 0 values statement made
      rwa [wide values List.mem_cons_self] at names
    · obtain ⟨room, within⟩ := severalRows_withinLimit wide single plan parts
      refine ⟨iff_of_true within ?_, fun _ _ => within⟩
      rwa [unwanted]
  · refine ⟨?_, fun none => absurd none unwanted⟩
    obtain ⟨others, blank, again, blanked, filling, _⟩ := plan_filling unwanted plan planned
    cases stored.symm.trans again
    refine Statement.forall_withinLimit_iff ?_ fun statement member => ?_
    · intro none
      have runs := filling.flatMap_runs
      rw [none] at runs
      exact Rows.stored_ne_nil checked rows stored runs.symm
    · rw [filling.sql_eq statement member]
      have names := oneRow_names 0 _ blank blanked
      rwa [List.length_replicate] at names

/-- One row with a returned column, just within the limit, and three rows that take two statements
for it. -/
theorem plan_withinLimit_iff_three_markers :
    let dialect : Dialect := { maxBindParameters := 3 }
    let returned : Insert :=
      { table := "t", rows := { form := .single [("a", .int 1), ("b", .null)] }
        returning := ["id"] }
    let several : Insert :=
      { table := "t", rows := { form := .many ["a"] [[.int 1], [.int 2], [.int 3], [.int 4]] } }
    ∃ first second, returned.plan dialect = .ok first ∧ several.plan dialect = .ok second ∧
      (∀ statement ∈ first.statements, statement.WithinLimit dialect) ∧
      second.statements.length = 2 ∧
      ∀ statement ∈ second.statements, statement.WithinLimit dialect := by
  intro dialect returned several
  have possible : (returned.plan dialect).isOk = true := by decide +kernel
  have possibleToo : (several.plan dialect).map (·.statements.length) = .ok 2 := by decide +kernel
  obtain ⟨first, planned⟩ := exists_of_isOk possible
  obtain ⟨second, plannedToo, length⟩ := map_eq_ok.mp possibleToo
  exact ⟨first, second, planned, plannedToo,
    (plan_withinLimit_iff dialect returned first planned).1.mpr (by decide), length,
    (plan_withinLimit_iff dialect several second plannedToo).2 rfl (by decide)⟩

/-- A dialect that lets one value be bound accepts a single row of two columns, whose statement has
two markers, and refuses two such rows. -/
theorem single_row_beyond_limit :
    let dialect : Dialect := { maxBindParameters := 1 }
    let single : Insert :=
      { table := "t", rows := { form := .single [("a", .int 1), ("b", .int 2)] } }
    let double : Insert :=
      { table := "t", rows := { form := .many ["a", "b"] [[.int 1, .int 2], [.int 3, .int 4]] } }
    dialect.check = .ok () ∧ (double.plan dialect).isOk = false ∧
      ∃ plan, single.plan dialect = .ok plan ∧
        ¬ ∀ statement ∈ plan.statements, statement.WithinLimit dialect := by
  intro dialect single double
  have built : (single.plan dialect).map (·.statements) =
      .ok [{ sql := "INSERT INTO \"T\" (\"A\", \"B\") VALUES (:1, :2)"
             binds := .positional [.int 1, .int 2]
             operation := "insert", table := some "t" }] := by decide +kernel
  obtain ⟨plan, planned, statements⟩ := map_eq_ok.mp built
  refine ⟨by decide, by decide +kernel, plan, planned, fun within => ?_⟩
  rw [statements, List.forall_mem_singleton] at within
  have read : Marker.nativeNames "INSERT INTO \"T\" (\"A\", \"B\") VALUES (:1, :2)" =
      .ok ["1", "2"] := by decide +kernel
  obtain ⟨names, found, few⟩ := within
  cases found.symm.trans read
  exact absurd few (by decide)

end Insert

end OracleSql
