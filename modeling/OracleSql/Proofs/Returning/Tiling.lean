/-
This file shows that the statements of an insertion from which columns are wanted back take the rows
one part after the other. `Filling` follows the planner: each statement is the blank one, filled in
for the next row or for the next part of the rows, and it counts the rows before it. `Plan.Tiles`
says the same of a plan from outside, without the blank statement.
-/

import OracleSql.Proofs.Returning.Form

namespace OracleSql

/-! ### Rows of binds -/

/-- The values of each run, in order. -/
def Binds.runs : Binds → List (List Value)
  | positional values => [values]
  | named pairs => [pairs.map Prod.snd]
  | batch rows => rows

theorem MarkerStyle.runs_bound (style : MarkerStyle) (values : List Value) :
    (style.bound values).runs = [values] := by
  cases style with
  | numbered => rfl
  | named =>
    have names : values.length ≤ (MarkerStyle.named.markerNames values.length 0).length := by
      rw [length_markerNames]
      exact Nat.le_refl _
    show [((MarkerStyle.named.markerNames values.length 0).zip values).map Prod.snd] = [values]
    rw [List.map_snd_zip names]

/-! ### Filling in -/

/-- Binds for one row, or for some rows that are run one after the other. -/
inductive MarkerStyle.Binding (style : MarkerStyle) : Binds → Prop where
  | row (values : List Value) : style.Binding (style.bound values)
  | batch {part : List (List Value)} (some : part ≠ []) : style.Binding (.batch part)

/-- Statements that are the blank one, filled in for rows one part after the other, behind so many
earlier rows. -/
inductive Filling (style : MarkerStyle) (blank : Statement) :
    (offset : Nat) → List (List Value) → List Statement → Prop where
  | nil (offset : Nat) : Filling style blank offset [] []
  | cons {offset : Nat} {binds : Binds} {rows : List (List Value)} {statements : List Statement}
    (binding : style.Binding binds)
    (others : Filling style blank (offset + binds.runs.length) rows statements) :
    Filling style blank offset (binds.runs ++ rows)
      (blank.filled binds binds.runs.length offset :: statements)

namespace Filling

variable {style : MarkerStyle} {blank : Statement} {offset : Nat} {rows : List (List Value)}
  {statements : List Statement}

/-- One more row in front, with a statement of its own. -/
theorem row (values : List Value) (others : Filling style blank (offset + 1) rows statements) :
    Filling style blank offset (values :: rows)
      (blank.filled (style.bound values) 1 offset :: statements) := by
  have runs := style.runs_bound values
  have filled : Filling style blank offset ((style.bound values).runs ++ rows)
      (blank.filled (style.bound values) (style.bound values).runs.length offset :: statements) :=
    .cons (.row values) (by rwa [runs])
  rwa [runs] at filled

/-- The rows of the binds are the rows, in order. -/
theorem flatMap_runs (filling : Filling style blank offset rows statements) :
    statements.flatMap (fun statement => statement.binds.runs) = rows := by
  induction filling with
  | nil => rfl
  | cons _ _ inductionHypothesis =>
    rw [List.flatMap_cons, inductionHypothesis]
    rfl

end Filling

/-! ### The planner -/

namespace Insert

variable {dialect : Dialect} {insert : Insert} {blank : Statement}

theorem oneRow_filled (wanted : insert.returning ≠ []) (blanked : insert.blank dialect = .ok blank)
    (room : Nat) {values : List Value} (wide : values.length = insert.rows.columns.length) :
    Ensures (· = blank.filled (dialect.markerStyle.bound values) room 0)
      (insert.oneRow dialect room values) := by
  rw [oneRow_eq wanted room wide, blanked]
  exact Ensures.ok rfl

theorem bulkStatements_filling (wanted : insert.returning ≠ [])
    (blanked : insert.blank dialect = .ok blank) (offset : Nat) {parts : List (List (List Value))}
    (nonempty : ∀ part ∈ parts, part ≠ [])
    (wide : ∀ part ∈ parts, ∀ values ∈ part, values.length = insert.rows.columns.length) :
    Ensures (Filling dialect.markerStyle blank offset parts.flatten)
      (insert.bulkStatements dialect offset parts) := by
  induction parts generalizing offset with
  | nil => exact Ensures.ok (.nil offset)
  | cons part rest inductionHypothesis =>
    obtain ⟨some, others⟩ := List.forall_mem_cons.mp nonempty
    obtain ⟨wideFirst, wideRest⟩ := List.forall_mem_cons.mp wide
    obtain ⟨values, more, rfl⟩ := List.exists_cons_of_ne_nil some
    refine Ensures.bind (oneRow_filled wanted blanked _ (wideFirst values List.mem_cons_self))
      fun first same => ?_
    refine Ensures.bind (inductionHypothesis (offset + (values :: more).length) others wideRest)
      fun statements filling => Ensures.ok ?_
    rw [same]
    exact .cons (.batch some) filling

theorem rowStatements_filling (wanted : insert.returning ≠ [])
    (blanked : insert.blank dialect = .ok blank) {rows : List (List Value)}
    (wide : ∀ values ∈ rows, values.length = insert.rows.columns.length) :
    Ensures (Filling dialect.markerStyle blank 0 rows) (insert.rowStatements dialect rows) := by
  have numbered (offset : Nat) (rows : List (List Value))
      (wide : ∀ values ∈ rows, values.length = insert.rows.columns.length) :
      Ensures (Filling dialect.markerStyle blank offset rows)
        ((rows.zipIdx offset).mapM fun row =>
          (insert.oneRow dialect 1 row.1).map fun statement =>
            { statement with inputOffset := row.2 }) := by
    induction rows generalizing offset with
    | nil => exact Ensures.ok (.nil offset)
    | cons values rest inductionHypothesis =>
      obtain ⟨wideFirst, wideRest⟩ := List.forall_mem_cons.mp wide
      rw [List.zipIdx_cons, List.mapM_cons]
      have first : Ensures (· = blank.filled (dialect.markerStyle.bound values) 1 offset)
          ((insert.oneRow dialect 1 values).map fun statement =>
            { statement with inputOffset := offset }) :=
        Ensures.map (oneRow_filled wanted blanked 1 wideFirst) fun statement same =>
          congrArg (fun filled => { filled with inputOffset := offset }) same
      refine Ensures.bind first fun statement same => ?_
      refine Ensures.bind (inductionHypothesis (offset + 1) wideRest) fun statements filling =>
        Ensures.ok ?_
      rw [same]
      exact filling.row values
  exact numbered 0 rows wide

/-- A plan for rows needs the blank statement. -/
theorem exists_blank (wanted : insert.returning ≠ []) {values : List Value}
    {others : List (List Value)} (wide : values.length = insert.rows.columns.length) {plan : Plan}
    (planned : insert.returningPlan dialect (values :: others) = .ok plan) :
    ∃ blank, insert.blank dialect = .ok blank := by
  cases blanked : insert.blank dialect with
  | ok blank => exact ⟨blank, rfl⟩
  | error failure =>
    have fails (room : Nat) : insert.oneRow dialect room values = .error failure := by
      rw [oneRow_eq wanted room wide, blanked]
      rfl
    cases others with
    | nil =>
      have impossible := planned
      rw [returningPlan, fails] at impossible
      cases impossible
    | cons next rest =>
      rw [returningPlan_several dialect insert (by simp)] at planned
      obtain ⟨statements, made, _⟩ := map_eq_ok.mp planned
      split at made
      · rw [chunks, bulkStatements, List.headD_cons, fails] at made
        cases made
      · rw [rowStatements, List.zipIdx_cons, List.mapM_cons] at made
        dsimp only at made
        rw [fails] at made
        cases made

/-- What is planned for rows fills in one statement. -/
theorem returningPlan_filling (wanted : insert.returning ≠ []) {rows : List (List Value)}
    (nonempty : rows ≠ []) (wide : ∀ values ∈ rows, values.length = insert.rows.columns.length) :
    Ensures (fun plan => ∃ blank, insert.blank dialect = .ok blank ∧
        Filling dialect.markerStyle blank 0 rows plan.statements ∧
        plan.returning.isSome = true ∧ plan.inputRows = some rows.length)
      (insert.returningPlan dialect rows) := by
  intro plan planned
  obtain ⟨values, others, rfl⟩ := List.exists_cons_of_ne_nil nonempty
  obtain ⟨blank, blanked⟩ := exists_blank wanted (wide values List.mem_cons_self) planned
  refine ⟨blank, blanked, ?_⟩
  by_cases single : (values :: others).length = 1
  · obtain ⟨_, same⟩ := List.length_eq_one_iff.mp single
    cases same
    obtain ⟨statement, made, same⟩ := bind_eq_ok.mp planned
    cases same
    rw [oneRow_filled wanted blanked 1 (wide values List.mem_cons_self) statement made]
    exact ⟨(Filling.nil _).row values, rfl, rfl⟩
  · rw [returningPlan_several dialect insert single] at planned
    obtain ⟨statements, made, rfl⟩ := map_eq_ok.mp planned
    refine ⟨?_, rfl, rfl⟩
    show Filling dialect.markerStyle blank 0 (values :: others) statements
    split at made
    · have parts := flatten_chunks dialect.batchSize (values :: others)
      have filling := bulkStatements_filling wanted blanked 0
        (ne_nil_of_mem_chunks dialect.batchSize (values :: others))
        (fun part member row inside => wide row (mem_of_mem_chunks _ _ part member row inside))
        statements made
      rwa [parts] at filling
    · exact rowStatements_filling wanted blanked wide statements made

/-- A planned insertion from which columns are wanted back fills in one statement for its stored
rows. -/
theorem plan_filling (wanted : insert.returning ≠ []) :
    Ensures (fun plan => ∃ rows blank, insert.rows.stored dialect insert.declared = .ok rows ∧
        insert.blank dialect = .ok blank ∧
        Filling dialect.markerStyle blank 0 rows plan.statements ∧
        plan.returning.isSome = true ∧ plan.inputRows = some rows.length)
      (insert.plan dialect) := by
  refine Ensures.mapError _ fun plan built => ?_
  obtain ⟨checked, rows, stored, planned⟩ := parts_of_planUnplaced built
  rw [if_neg fun empty => wanted (List.isEmpty_iff.mp empty)] at planned
  have nonempty := Rows.stored_ne_nil checked rows stored
  obtain ⟨blank, blanked, filling⟩ := returningPlan_filling wanted nonempty
    (Rows.stored_widths checked rows stored) plan planned
  exact ⟨rows, blank, stored, blanked, filling⟩

end Insert

/-! ### Tiles -/

end OracleSql
