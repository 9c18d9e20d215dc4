/-
This file shows that returned rows may be collected in bulk or row by row. Where a call for many
rows acts as calls for these rows one after the other would, the two plans of an insertion do the
same: however the rows are cut into parts, the rows take effect in their order, and what comes back
is brought into this order too. So the runs of both plans come to the same outcome and leave the
same data, if none of their calls fails.
-/

import OracleSql.Proofs.Returning.Accounting
import OracleSql.Proofs.Session.Carried

namespace OracleSql

variable {σ δ : Type}

/-! ### Rows one after the other -/

/-- What rows return and the data they leave, where each takes effect on the data that the row
before it leaves. -/
def rowByRow (effect : List Value → δ → Row × δ) : List (List Value) → δ → List Row × δ
  | [], current => ([], current)
  | values :: rest, current =>
    let (row, between) := effect values current
    let (rows, after) := rowByRow effect rest between
    (row :: rows, after)

theorem rowByRow_append (effect : List Value → δ → Row × δ) (part rest : List (List Value))
    (current : δ) :
    rowByRow effect (part ++ rest) current =
      let (rows, between) := rowByRow effect part current
      let (others, after) := rowByRow effect rest between
      (rows ++ others, after) := by
  induction part generalizing current with
  | nil => rfl
  | cons values part inductionHypothesis =>
    simp only [List.cons_append, rowByRow, inductionHypothesis]

theorem length_rowByRow (effect : List Value → δ → Row × δ) (rows : List (List Value))
    (current : δ) : (rowByRow effect rows current).1.length = rows.length := by
  induction rows generalizing current with
  | nil => rfl
  | cons values rest inductionHypothesis => exact congrArg Nat.succ (inductionHypothesis _)

/-- Returned rows for input rows that follow each other from a number on. -/
def inOrder (first : Nat) (rows : List Row) : List ReturnedRow :=
  (rows.zipIdx first).map fun (row, number) => { input := .ofNat number, row }

theorem inOrder_append (first : Nat) (rows others : List Row) :
    inOrder first (rows ++ others) =
      inOrder first rows ++ inOrder (first + rows.length) others := by
  unfold inOrder
  rw [List.zipIdx_append, List.map_append]

theorem map_inOrder (offset : Nat) (rows : List Row) :
    (inOrder 0 rows).map (ReturnedRow.behind offset) = inOrder offset rows := by
  unfold inOrder
  rw [List.zipIdx_eq_map_add (i := offset), List.map_map, List.map_map]
  exact List.map_congr_left fun (row, number) _ =>
    congrArg (fun input => ({ input, row } : ReturnedRow)) (UInt64.ofNat_add offset number).symm

/-- Rows that come back for all input rows, in whatever order, are brought into theirs. -/
theorem correlate_of_perm_inOrder {returned : List ReturnedRow} {rows : List Row}
    (few : rows.length < UInt64.size) (all : returned.Perm (inOrder 0 rows)) :
    correlate returned rows.length = .ok rows := by
  have number (pair : Row × Nat) (inside : pair ∈ rows.zipIdx) :
      (UInt64.ofNat pair.2).toNat = pair.2 := by
    obtain ⟨bound, _⟩ := List.getElem?_eq_some_iff.mp (List.mem_zipIdx_iff_getElem?.mp inside)
    exact UInt64.toNat_ofNat_of_lt (Nat.lt_trans bound few)
  rw [correlate_eq_ok_iff]
  refine ⟨(all.map ReturnedRow.number).trans (.of_eq ?_), rfl, fun item member => ?_⟩
  · unfold inOrder
    rw [List.map_map, List.range_eq_range', ← List.zipIdx_map_snd 0 rows]
    exact List.map_congr_left number
  · obtain ⟨pair, inside, rfl⟩ := List.mem_map.mp (all.mem_iff.mp member)
    show rows[(UInt64.ofNat pair.2).toNat]? = some pair.1
    rw [number pair inside]
    exact List.mem_zipIdx_iff_getElem?.mp inside

/-! ### Connections -/

/-- A successful call for a statement acts as calls for its rows one after the other would: the rows
take effect in their order, and one row comes back for each of them. -/
def Connection.ActsByRow (connection : Connection σ) (data : σ → δ)
    (effect : List Value → δ → Row × δ) (statement : Statement) : Prop :=
  let call := connection.executeReturning statement.sql statement.binds statement.outs
  ∀ state returned, (call state).answer = .ok returned →
    returned.Perm (inOrder 0 (rowByRow effect statement.binds.runs (data state)).1) ∧
      data (call state).arrived = (rowByRow effect statement.binds.runs (data state)).2

/-! ### Runs -/

section Runs

variable {executor : Executor σ} {data : σ → δ} {effect : List Value → δ → Row × δ}

/-- Statements that are filled in for rows take effect as the rows do one after the other, however
they share the rows. -/
theorem Filling.carries (quiet : executor.options = {}) {style : MarkerStyle} {blank : Statement}
    {offset : Nat} {rows : List (List Value)} {statements : List Statement}
    (filling : Filling style blank offset rows statements)
    (acts : ∀ statement ∈ statements, executor.connection.ActsByRow data effect statement)
    (before : δ) :
    Carries data (· = before) (statements.mapM (executor.recorded.runStatement none))
      fun gains current =>
        (gains.flatMap Gain.returned).Perm (inOrder offset (rowByRow effect rows before).1) ∧
          (∀ gain ∈ gains, gain.affected = .ofNat gain.returned.length) ∧
          current = (rowByRow effect rows before).2 := by
  induction filling generalizing before with
  | nil =>
    rw [List.mapM_nil]
    refine Carries.pure fun current begins => ⟨.refl _, ?_, begins⟩
    exact List.forall_mem_nil _
  | @cons offset binds rows statements _ _ inductionHypothesis =>
    obtain ⟨first, others⟩ := List.forall_mem_cons.mp acts
    rw [List.mapM_cons, rowByRow_append]
    have sent : Carries data (· = before)
        (executor.recorded.runStatement none (blank.filled binds binds.runs.length offset))
        fun gain current =>
          (gain.returned.Perm (inOrder offset (rowByRow effect binds.runs before).1) ∧
            gain.affected = .ofNat gain.returned.length) ∧
            current = (rowByRow effect binds.runs before).2 := by
      refine Executor.runStatement_carries quiet rfl ?_
      rintro state returned rfl answered
      obtain ⟨all, arrives⟩ := first state returned answered
      refine ⟨⟨?_, congrArg UInt64.ofNat (List.length_map _).symm⟩, arrives⟩
      rw [← map_inOrder]
      exact all.map _
    refine sent.bind fun gain => ?_
    refine (inductionHypothesis others _).frame.bind fun gains => Carries.pure ?_
    rintro current ⟨⟨all, counted⟩, further, each, arrives⟩
    refine ⟨?_, List.forall_mem_cons.mpr ⟨counted, each⟩, arrives⟩
    rw [List.flatMap_cons, inOrder_append, length_rowByRow]
    exact all.append further

/-- A run of statements that are filled in for rows does what the rows do one after the other, if
none of its calls fails. -/
theorem Filling.run_byRow (quiet : executor.options = {}) {style : MarkerStyle} {blank : Statement}
    {rows : List (List Value)} {plan : Plan}
    (filling : Filling style blank 0 rows plan.statements)
    (wanted : plan.returning.isSome = true) (counted : plan.inputRows = some rows.length)
    (few : rows.length < UInt64.size) (accepted : plan.check = .ok ()) {state : σ}
    (valid : executor.connection.isValid state = true)
    (acts : ∀ statement ∈ plan.statements, executor.connection.ActsByRow data effect statement)
    (still : executor.connection.HoldsStill data)
    (succeeded : ∀ entry ∈ executor.transcript plan state, entry.isSuccess = true) :
    ((executor.run plan).perform state).1 = .ok
        { rowsAffected := .ofNat rows.length, rows := (rowByRow effect rows (data state)).1 } ∧
      data ((executor.run plan).perform state).2 = (rowByRow effect rows (data state)).2 := by
  have length := length_rowByRow effect rows (data state)
  have ran : Carries data (· = data state) (executor.recorded.runStatements none plan)
      fun outcome current =>
        outcome =
          { rowsAffected := .ofNat rows.length, rows := (rowByRow effect rows (data state)).1 } ∧
          current = (rowByRow effect rows (data state)).2 := by
    refine (filling.carries quiet acts (data state)).bind fun gains => Carries.ofExcept ?_
    rintro current ⟨all, each, arrives⟩
    refine ⟨_, ?_, rfl, arrives⟩
    have many : (gains.flatMap Gain.returned).length = rows.length := by
      rw [all.length_eq, inOrder, List.length_map, List.length_zipIdx, length]
    have ordered := correlate_of_perm_inOrder (length ▸ few) all
    rw [length] at ordered
    rw [Plan.outcome_of_returned wanted counted each, many]
    exact map_eq_ok.mpr ⟨_, mapError_eq_ok.mpr ordered, rfl⟩
  obtain ⟨outcome, came, same, arrives⟩ :=
    Executor.run_carries quiet still valid accepted ran rfl succeeded
  exact ⟨same ▸ came, arrives⟩

end Runs

/-! ### Bulk and row by row -/

/-- It makes no difference whether the returned rows of an insertion are collected in bulk or row by
row. Where a call for some of the rows acts as calls for these rows one after the other would, and
opening and closing what holds a plan together leave the data alone, the runs of both plans come to
the same outcome and leave the same data, if none of their calls fails. Rows that are held in memory
are always fewer than the numbers that a returned row can have. -/
theorem Insert.bulk_eq_perRow {dialect : Dialect} {insert : Insert} {bulk perRow : Plan}
    (bulkBuilt : insert.plan { dialect with bulkReturning := true } = .ok bulk)
    (perRowBuilt : insert.plan { dialect with bulkReturning := false } = .ok perRow)
    (wanted : insert.returning ≠ []) (few : insert.rows.content.length < UInt64.size)
    {executor : Executor σ} (quiet : executor.options = {}) {state : σ}
    (valid : executor.connection.isValid state = true) {data : σ → δ}
    {effect : List Value → δ → Row × δ}
    (acts : ∀ statement ∈ bulk.statements ++ perRow.statements,
      executor.connection.ActsByRow data effect statement)
    (still : executor.connection.HoldsStill data)
    (bulkSucceeded : ∀ entry ∈ executor.transcript bulk state, entry.isSuccess = true)
    (perRowSucceeded : ∀ entry ∈ executor.transcript perRow state, entry.isSuccess = true) :
    (∃ outcome, ((executor.run bulk).perform state).1 = .ok outcome ∧
        ((executor.run perRow).perform state).1 = .ok outcome) ∧
      data ((executor.run bulk).perform state).2 =
        data ((executor.run perRow).perform state).2 := by
  obtain ⟨rows, _, stored, _, filling, returning, counted⟩ := plan_filling wanted bulk bulkBuilt
  obtain ⟨others, _, storedToo, _, fillingToo, returningToo, countedToo⟩ :=
    plan_filling wanted perRow perRowBuilt
  have same : others = rows := Except.ok.inj (storedToo.symm.trans stored)
  subst same
  rw [← Rows.length_stored _ _ _ others stored] at few
  obtain ⟨bulkActs, perRowActs⟩ := List.forall_mem_append.mp acts
  obtain ⟨came, left⟩ := filling.run_byRow quiet returning counted few
    (Plan.check_eq (plan_agrees _ bulk bulkBuilt)) valid bulkActs still bulkSucceeded
  obtain ⟨cameToo, leftToo⟩ := fillingToo.run_byRow quiet returningToo countedToo few
    (Plan.check_eq (plan_agrees _ perRow perRowBuilt)) valid perRowActs still perRowSucceeded
  exact ⟨⟨_, came, cameToo⟩, left.trans leftToo.symm⟩

/-- A row with a number in each of its columns. -/
def numberRow (columns : List String) (number : Nat) : Row :=
  .ofColumns columns (columns.map fun _ => .int (Int64.ofNat number))

/-- A table that keeps its rows in a list, and gives each of them its number back, the last row of a
call first. -/
def numberingTable : Connection (List (List Value)) where
  now _ := 0
  query _ _ := .settled (.ok [])
  execute _ _ := .settled (.ok 0)
  executeBatch _ rows stored := .settled (.ok (.ofNat rows.length)) (stored ++ rows)
  executeReturning _ binds outs stored :=
    let rows := (List.range' stored.length binds.runs.length).map
      (numberRow (outs.map OutBind.column))
    .settled (.ok (inOrder 0 rows).reverse) (stored ++ binds.runs)
  begin := .settled (.ok ())
  commit := .settled (.ok ())
  rollback := .settled (.ok ())
  inTransaction _ := false
  invalidate := id

/-- The effect of one row on this table. -/
def numberingEffect (columns : List String) (values : List Value) (stored : List (List Value)) :
    Row × List (List Value) :=
  (numberRow columns stored.length, stored ++ [values])

theorem rowByRow_numberingEffect (columns : List String) (rows stored : List (List Value)) :
    rowByRow (numberingEffect columns) rows stored =
      ((List.range' stored.length rows.length).map (numberRow columns), stored ++ rows) := by
  induction rows generalizing stored with
  | nil => rw [rowByRow, List.append_nil]; rfl
  | cons values rest inductionHypothesis =>
    rw [rowByRow, numberingEffect]
    dsimp only
    rw [inductionHypothesis, List.length_append, List.append_assoc]
    rfl

theorem numberingTable_actsByRow (statement : Statement) :
    numberingTable.ActsByRow id (numberingEffect (statement.outs.map OutBind.column))
      statement := by
  intro stored returned answered
  obtain rfl := Except.ok.inj answered
  rw [rowByRow_numberingEffect]
  exact ⟨List.reverse_perm _, rfl⟩

/-- What runs plans on this table. -/
def numberingExecutor : Executor (List (List Value)) where
  dialect := {}
  connection := numberingTable

/-- The plan of three rows with a statement for each of them. -/
def threeRowsByRow : Plan :=
  let statement (value : Int64) (offset : Nat) : Statement :=
    { threeRowsStatement [[]] offset with binds := .positional [.int value] }
  { threeRowsPlan with
    statements := [statement 0 0, statement 1 1, statement 2 2]
    returning := some .perRow }

/-- A dialect with at most two rows in a statement. -/
def smallBatches : Dialect := { batchSize := 2 }

/-- Three rows in statements of two come back as they do in statements of one. -/
theorem Insert.bulk_eq_perRow_three :
    (∃ outcome, ((numberingExecutor.run threeRowsPlan).perform []).1 = .ok outcome ∧
        ((numberingExecutor.run threeRowsByRow).perform []).1 = .ok outcome) ∧
      ((numberingExecutor.run threeRowsPlan).perform []).2 =
        ((numberingExecutor.run threeRowsByRow).perform []).2 := by
  have columns : ∀ statement ∈ threeRowsPlan.statements ++ threeRowsByRow.statements,
      statement.outs.map OutBind.column = ["id"] := by
    decide
  have acts : ∀ statement ∈ threeRowsPlan.statements ++ threeRowsByRow.statements,
      numberingExecutor.connection.ActsByRow id (numberingEffect ["id"]) statement :=
    fun statement member => columns statement member ▸ numberingTable_actsByRow statement
  have valid : numberingExecutor.connection.isValid [] = true := rfl
  have bulkBuilt :
      threeRows.plan { smallBatches with bulkReturning := true } = .ok threeRowsPlan := by
    decide +kernel
  have perRowBuilt :
      threeRows.plan { smallBatches with bulkReturning := false } = .ok threeRowsByRow := by
    decide +kernel
  have bulkSucceeded :
      ∀ entry ∈ numberingExecutor.transcript threeRowsPlan [], entry.isSuccess = true := by
    rw [numberingExecutor.transcript_accepted valid
      (Plan.check_eq (Insert.plan_agrees _ threeRowsPlan bulkBuilt))]
    decide +kernel
  have perRowSucceeded :
      ∀ entry ∈ numberingExecutor.transcript threeRowsByRow [], entry.isSuccess = true := by
    rw [numberingExecutor.transcript_accepted valid
      (Plan.check_eq (Insert.plan_agrees _ threeRowsByRow perRowBuilt))]
    decide +kernel
  have still : numberingExecutor.connection.HoldsStill (id : List (List Value) → _) :=
    ⟨fun _ _ => rfl, fun _ _ => rfl, fun _ _ => rfl⟩
  obtain ⟨came, left⟩ := Insert.bulk_eq_perRow bulkBuilt perRowBuilt (by decide) (by decide) rfl
    valid acts still bulkSucceeded perRowSucceeded
  exact ⟨came, (id_eq _).symm.trans (left.trans (id_eq _))⟩

end OracleSql
