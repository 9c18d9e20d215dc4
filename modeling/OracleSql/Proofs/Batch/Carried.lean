/-
This file shows that the statements of a plan carry its rows. Rows that go into the database in more
than one statement are cut into parts: no row is lost, taken twice or moved, and every part stays
within the limits of the dialect. In each statement the rows of its part stand one behind the other,
and the markers, the bound values and the texts of the rows keep step: the value in a column of a
row is bound to the marker whose number is the count of values up to it.
-/

import OracleSql.Proofs.Batch.Selected
import OracleSql.Proofs.Returning.Tiling
import OracleSql.Proofs.Styles.Meaning

namespace OracleSql

/-! ### Parts of one length -/

/-- The rows of a statement stay within the limits of the dialect; there is room for one row at
least, also where the dialect allows none. -/
theorem Rows.limits_of_perStatement {dialect : Dialect} {width size : Nat}
    (sized : perStatement dialect width = .ok size) :
    1 ≤ size ∧ size ≤ max 1 dialect.batchSize ∧ width ≤ dialect.maxBindParameters ∧
      size * width ≤ dialect.maxBindParameters := by
  unfold perStatement at sized
  split at sized
  · cases sized
  · rename_i fits
    have within := Nat.le_of_not_lt fits
    have quotient : dialect.maxBindParameters / max width 1 * width ≤
        dialect.maxBindParameters :=
      (Nat.mul_le_mul_left _ (Nat.le_max_left width 1)).trans (Nat.div_mul_le_self _ _)
    cases sized
    refine ⟨Nat.le_max_left _ _, Nat.max_le.mpr ⟨Nat.le_max_left _ _,
      (Nat.min_le_left _ _).trans (Nat.le_max_right _ _)⟩, within, ?_⟩
    rw [← Nat.mul_max_mul_right, Nat.one_mul]
    exact Nat.max_le.mpr ⟨within,
      (Nat.mul_le_mul_right width (Nat.min_le_right _ _)).trans quotient⟩

section

variable {α : Type} {rows : List (List α)} {width : Nat}
  (wide : ∀ values ∈ rows, values.length = width)
include wide

theorem length_flatten_of_width : rows.flatten.length = rows.length * width := by
  rw [List.length_flatten, List.map_congr_left wide, List.map_const',
    List.sum_replicate_nat]

/-- Rows of one width are found at equal distances where they stand one behind the other. -/
theorem getElem?_flatten_of_width {row column : Nat} {values : List α} {value : α}
    (placed : rows[row]? = some values) (found : values[column]? = some value) :
    rows.flatten[row * width + column]? = some value := by
  induction rows generalizing row with
  | nil => cases placed
  | cons first rest inductionHypothesis =>
    obtain ⟨own, others⟩ := List.forall_mem_cons.mp wide
    rw [List.flatten_cons]
    cases row with
    | zero =>
      cases placed
      rw [Nat.zero_mul, Nat.zero_add,
        List.getElem?_append_left (List.getElem?_eq_some_iff.mp found).1]
      exact found
    | succ row =>
      rw [Nat.succ_mul, Nat.add_right_comm, ← own, List.getElem?_append_right (Nat.le_add_left _ _),
        Nat.add_sub_cancel, own]
      exact inductionHypothesis others placed

end

/-! ### Values and their markers -/

namespace MarkerStyle

theorem width_bound (style : MarkerStyle) (values : List Value) :
    (style.bound values).width = values.length := by
  cases style with
  | numbered => rfl
  | named =>
    show List.length (List.zip _ _) = _
    rw [List.length_zip, length_markerNames, Nat.add_zero, Nat.min_self]

/-- A value is bound to the marker with its number. -/
theorem at?_bound (style : MarkerStyle) {values : List Value} {index : Nat} {value : Value}
    (found : values[index]? = some value) :
    (style.bound values).at? index (style.valueName (index + 1)) = some [value] := by
  cases style with
  | numbered => exact congrArg (Option.map fun value => [value]) found
  | named =>
    have within : index < values.length := (List.getElem?_eq_some_iff.mp found).1
    have names : named.markerNames values.length 0 =
        (List.range values.length).map fun index => "p" ++ toString (index + 1) :=
      List.append_nil _
    have distinct : ((named.markerNames values.length 0).zip values).Pairwise
        fun binding other => Text.sameFolded binding.1 other.1 = false := by
      have listed : (((named.markerNames values.length 0).zip values).map Prod.fst).Pairwise
          fun name other => Text.sameFolded name other = false := by
        rw [List.map_fst_zip (by rw [length_markerNames, Nat.add_zero]), names, List.pairwise_map]
        refine List.pairwise_lt_range.imp fun earlier => Bool.eq_false_iff.mpr fun same => ?_
        have equal := number_eq_of_sameFolded same
        omega
      exact List.pairwise_map.mp listed
    have member : ("p" ++ toString (index + 1), value) ∈
        (named.markerNames values.length 0).zip values := by
      refine List.mem_of_getElem? (i := index) (List.getElem?_zip_eq_some.mpr ⟨?_, found⟩)
      rw [names, List.getElem?_map, List.getElem?_range within]
      rfl
    show Option.map _ (List.find? _ _) = _
    rw [valueName, find?_of_distinct distinct member]
    rfl

end MarkerStyle

/-! ### Statements -/

/-- The statement carries the rows of a part in the columns with the labels. Its one run has the
values of the rows, one row behind the other, and the reader finds a marker for each of them. The
text selects the rows in their order, and the value in a column of a row is bound to the marker in
this column of this row. -/
structure Statement.Carries (style : MarkerStyle) (labels : List String)
    (part : List (List Value)) (statement : Statement) : Prop where
  runs : statement.binds.runs = [part.flatten]
  width : statement.binds.width = part.length * labels.length
  markers : Marker.nativeNames statement.sql =
    .ok (style.markerNames (part.length * labels.length) 0)
  selects : ∃ front back,
    statement.sql = front ++ Rows.selection style labels part.length ++ back
  placed : ∀ row column values value, part[row]? = some values → values[column]? = some value →
    statement.binds.at? (row * labels.length + column)
      (style.valueName (row * labels.length + column + 1)) = some [value]

/-- A statement that binds the rows of a part and is written as their selection carries them. -/
theorem Dialect.carries_of_writes (dialect : Dialect) {labels : List String}
    {part : List (List Value)} {pieces : List Piece} {front back : String}
    (wide : ∀ values ∈ part, values.length = labels.length)
    (writes : Piece.Writes dialect.markerStyle 0 pieces part.flatten
      (front ++ Rows.selection dialect.markerStyle labels part.length ++ back))
    {operation : String} {table : Option String}
    (agrees : ({ dialect.assemble pieces .rowsAffected with operation, table } :
      Statement).Agrees dialect.markerStyle) :
    ({ dialect.assemble pieces .rowsAffected with operation, table } : Statement).Carries
      dialect.markerStyle labels part := by
  obtain ⟨sql, binds, markers⟩ := dialect.assemble_writes writes agrees
  have length := length_flatten_of_width wide
  refine ⟨?_, ?_, ?_, ⟨front, back, sql⟩, fun row column values value placed found => ?_⟩
  · exact (congrArg Binds.runs binds).trans (dialect.markerStyle.runs_bound _)
  · exact (congrArg Binds.width binds).trans ((dialect.markerStyle.width_bound _).trans length)
  · rw [← sql, length] at markers
    exact markers
  · exact (congrArg (Binds.at? _ _) binds).trans
      (dialect.markerStyle.at?_bound (getElem?_flatten_of_width wide placed found))

/-- Statements that carry the parts of rows bind the values of the rows. -/
theorem Statement.flatMap_runs_of_carries {style : MarkerStyle} {labels : List String}
    {parts : List (List (List Value))} {statements : List Statement}
    (each : List.Forall₂ (fun part statement => Statement.Carries style labels part statement)
      parts statements) :
    (statements.flatMap fun statement => statement.binds.runs.flatten) = parts.flatten.flatten := by
  have same : (statements.map fun statement => statement.binds.runs.flatten) =
      parts.map List.flatten :=
    (map_eq_map_iff _ _).mpr (each.flip.imp fun statement part carries => by
      rw [carries.runs, List.flatten_singleton])
  rw [List.flatMap_def, same, ← List.flatten_flatten]

/-- The statement of several inserted rows carries them. -/
theorem Insert.severalRows_carries {dialect : Dialect} {insert : Insert}
    {rows : List (List Value)}
    (wide : ∀ values ∈ rows, values.length = insert.rows.columns.length) :
    Ensures (Statement.Carries dialect.markerStyle (insert.rows.columns.map fun _ => "") rows)
      (insert.severalRows dialect rows) := by
  intro statement built
  have agrees := severalRows_agrees dialect rows statement built
  obtain ⟨head, headed, same⟩ := bind_eq_ok.mp built
  cases same
  obtain ⟨front, writes⟩ := selected_writes headed wide
  rw [← String.append_empty (s := front ++ _)] at writes
  refine dialect.carries_of_writes ?_ writes agrees
  rwa [List.length_map]

/-- The statement of a merger carries its rows. -/
theorem Merge.statement_carries {dialect : Dialect} {merge : Merge} {updated names : List String}
    {rows : List (List Value)} (named : merge.rows.columns.mapM dialect.nameText = .ok names)
    (some : rows ≠ []) (wide : ∀ values ∈ rows, values.length = merge.rows.columns.length) :
    Ensures (Statement.Carries dialect.markerStyle (names.map (" " ++ ·)) rows)
      (merge.statement dialect updated rows) := by
  intro statement built
  have agrees := statement_agrees dialect merge updated rows statement built
  obtain ⟨others, pieces, front, back, again, writes, rfl⟩ := statement_writes built some wide
  cases named.symm.trans again
  refine dialect.carries_of_writes ?_ writes agrees
  rwa [List.length_map, ← (mapM_eq_ok_iff.mp named).length_eq]

/-! ### Plans -/

/-- The plan carries rows in the columns with the labels: its statements carry parts that make up
the rows in their order, none of them empty, and each within the limits of the dialect. Several
statements take effect together. -/
structure Plan.Carries (dialect : Dialect) (labels : List String) (rows : List (List Value))
    (plan : Plan) : Prop where
  values : (plan.statements.flatMap fun statement => statement.binds.runs.flatten) = rows.flatten
  parts : ∃ parts : List (List (List Value)), parts.flatten = rows ∧
    List.Forall₂ (fun part statement => part ≠ [] ∧ part.length ≤ dialect.batchSize ∧
      statement.binds.width ≤ dialect.maxBindParameters ∧
      statement.Carries dialect.markerStyle labels part) parts plan.statements
  atomic : plan.atomic = true ↔ 1 < plan.statements.length

/-- Statements that carry the chunks of rows carry the rows. -/
theorem Plan.carries_ofStatements {dialect : Dialect} {labels : List String}
    {rows : List (List Value)} {size : Nat} {statements : List Statement}
    (some : 1 ≤ dialect.batchSize)
    (sized : Rows.perStatement dialect labels.length = .ok size)
    (each : List.Forall₂ (fun part statement =>
      Statement.Carries dialect.markerStyle labels part statement) (chunks size rows) statements) :
    (Plan.ofStatements statements).Carries dialect labels rows := by
  obtain ⟨least, most, _, fits⟩ := Rows.limits_of_perStatement sized
  rw [Nat.max_eq_right some] at most
  refine ⟨?_, ⟨chunks size rows, flatten_chunks size rows, ?_⟩, ?_⟩
  · exact (Statement.flatMap_runs_of_carries each).trans
      (congrArg List.flatten (flatten_chunks size rows))
  · have bounded : ∀ part ∈ chunks size rows, part ≠ [] ∧ part.length ≤ size := fun part member =>
      ⟨ne_nil_of_mem_chunks size rows part member,
        length_le_of_mem_chunks least rows part member⟩
    refine ((List.forall₂_and_left _ _).mpr ⟨bounded, each⟩).imp ?_
    rintro part statement ⟨⟨nonempty, short⟩, carries⟩
    refine ⟨nonempty, short.trans most, ?_, carries⟩
    rw [carries.width]
    exact (Nat.mul_le_mul_right _ short).trans fits
  · exact decide_eq_true_iff

/-- An insertion of several rows from which nothing is wanted back carries them. -/
theorem Insert.plan_carries {dialect : Dialect} {insert : Insert} (some : 1 ≤ dialect.batchSize)
    (unwanted : insert.returning = []) (several : insert.rows.content.length ≠ 1) :
    Ensures (fun plan => ∃ rows, insert.rows.stored dialect insert.declared = .ok rows ∧
        plan.Carries dialect (insert.rows.columns.map fun _ => "") rows)
      (insert.plan dialect) := by
  refine Ensures.mapError _ fun plan built => ?_
  obtain ⟨checked, rows, stored, planned⟩ := parts_of_planUnplaced built
  have wide := Rows.stored_widths checked rows stored
  have length : rows.length = insert.rows.content.length := Ensures.mapM_length _ _ _ stored
  rw [unwanted, List.isEmpty_nil, if_pos rfl, plainPlan_several dialect insert (length ▸ several)]
    at planned
  obtain ⟨size, sized, planned⟩ := bind_eq_ok.mp planned
  obtain ⟨statements, made, same⟩ := bind_eq_ok.mp planned
  cases same
  have labels : (insert.rows.columns.map fun _ => "").length = insert.rows.columns.length :=
    List.length_map _
  refine ⟨rows, stored, Plan.carries_ofStatements some (labels ▸ sized) ?_⟩
  refine ((List.forall₂_and_left _ _).mpr ⟨fun part member => ?_, mapM_eq_ok_iff.mp made⟩).imp
    fun part statement own => severalRows_carries own.1 statement own.2
  exact fun values inside => wide values (mem_of_mem_chunks size rows part member values inside)

/-- A merger carries its rows. -/
theorem Merge.plan_carries {dialect : Dialect} {merge : Merge} (some : 1 ≤ dialect.batchSize) :
    Ensures (fun plan => ∃ rows names, merge.rows.stored dialect merge.declared = .ok rows ∧
        merge.rows.columns.mapM dialect.nameText = .ok names ∧
        plan.Carries dialect (names.map (" " ++ ·)) rows)
      (merge.plan dialect) := by
  refine Ensures.mapError _ fun plan built => ?_
  obtain ⟨checked, updated, rows, size, statements, _, stored, sized, made, rfl⟩ :=
    parts_of_planUnplaced built
  have wide := Rows.stored_widths checked rows stored
  have nonempty := Rows.stored_ne_nil checked rows stored
  have parts : ∀ part ∈ chunks size rows, part ≠ [] ∧
      ∀ values ∈ part, values.length = merge.rows.columns.length := fun part member =>
    ⟨ne_nil_of_mem_chunks size rows part member,
      fun values inside => wide values (mem_of_mem_chunks size rows part member values inside)⟩
  have built := (List.forall₂_and_left _ _).mpr ⟨parts, mapM_eq_ok_iff.mp made⟩
  -- There is a first statement, and it writes the names of the columns.
  obtain ⟨names, named⟩ : ∃ names, merge.rows.columns.mapM dialect.nameText = .ok names := by
    obtain ⟨first, others, rfl⟩ := List.exists_cons_of_ne_nil nonempty
    rw [chunks] at built
    obtain ⟨_, _, head, _⟩ := List.forall₂_cons_left_iff.mp built
    obtain ⟨names, _, _, _, named, _⟩ := statement_writes head.2 head.1.1 head.1.2
    exact ⟨names, named⟩
  have labels : (names.map (" " ++ ·)).length = merge.rows.columns.length := by
    rw [List.length_map, (mapM_eq_ok_iff.mp named).length_eq]
  exact ⟨rows, names, stored, named, Plan.carries_ofStatements some (labels ▸ sized)
    (built.imp fun part statement own =>
      statement_carries named own.1.1 own.1.2 statement own.2)⟩

/-- **Rows that are sent in several statements are all sent, once and in order.** An insertion of
two rows or more from which nothing is wanted back, and any merger, carries its rows as the database
takes them: the values that are bound, statement by statement, are those of the rows, each marker has
the value that its row and column count up to, and every statement has at least one row and stays
within the limits of the dialect. The plan is atomic just if it has more than one statement. In a
merger the first row of each statement names the columns. -/
theorem Dialect.batches_carry_rows (dialect : Dialect) (some : 1 ≤ dialect.batchSize) :
    (∀ (insert : Insert) (plan : Plan), insert.returning = [] → 2 ≤ insert.rows.content.length →
      insert.plan dialect = .ok plan →
        ∃ rows, insert.rows.stored dialect insert.declared = .ok rows ∧
          plan.Carries dialect (insert.rows.columns.map fun _ => "") rows) ∧
    ∀ (merge : Merge) (plan : Plan), merge.plan dialect = .ok plan →
      ∃ rows names, merge.rows.stored dialect merge.declared = .ok rows ∧
        merge.rows.columns.mapM dialect.nameText = .ok names ∧
        plan.Carries dialect (names.map (" " ++ ·)) rows := by
  constructor
  · intro insert plan unwanted several planned
    exact Insert.plan_carries some unwanted (by omega) plan planned
  · intro merge plan planned
    exact Merge.plan_carries some plan planned

/-- Three rows, two to a statement, put in and merged. -/
theorem Dialect.batches_carry_rows_three_rows :
    let dialect : Dialect := { batchSize := 2 }
    let content : List (List Value) := [[.int 1, .null], [.int 2, .text "x"], [.int 3, .null]]
    let rows : Rows := { form := .many ["a", "b"] content }
    let insert : Insert := { table := "t", rows }
    let merge : Merge := { table := "t", keys := ["a"], rows }
    ∃ plan merged, insert.plan dialect = .ok plan ∧ merge.plan dialect = .ok merged ∧
      plan.statements.length = 2 ∧ merged.statements.length = 2 ∧
      plan.Carries dialect ["", ""] content ∧
      merged.Carries dialect [" \"A\"", " \"B\""] content := by
  intro dialect content rows insert merge
  obtain ⟨inserts, merges⟩ := dialect.batches_carry_rows (by decide)
  have possible : (insert.plan dialect).map (·.statements.length) = .ok 2 := by decide +kernel
  have possibleToo : (merge.plan dialect).map (·.statements.length) = .ok 2 := by decide +kernel
  obtain ⟨plan, planned, length⟩ := map_eq_ok.mp possible
  obtain ⟨merged, plannedToo, lengthToo⟩ := map_eq_ok.mp possibleToo
  obtain ⟨_, stored, carries⟩ := inserts insert plan rfl (by decide) planned
  obtain ⟨_, _, storedToo, named, carriesToo⟩ := merges merge merged plannedToo
  have taken : rows.stored dialect none = .ok content := by decide +kernel
  have spelled : rows.columns.mapM dialect.nameText = .ok ["\"A\"", "\"B\""] := by decide +kernel
  cases stored.symm.trans taken
  cases storedToo.symm.trans taken
  cases named.symm.trans spelled
  exact ⟨plan, merged, planned, plannedToo, length, lengthToo, carries, carriesToo⟩

end OracleSql
