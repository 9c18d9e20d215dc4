/-
This file says what a migration asks before it does anything. A plan is worked out from questions to
the dictionary; nothing else is sent for it, whether a plan comes of them or not. It is the same
plan whether native errors are classified or not. The story of a run of one statement is told first,
by `Alone`: such a run sends the statement by itself or nothing.

All that a plan does with an executor is to put questions about tables. Where those of two executors
are related by a relation that goes along with sessions, so are their plans; `Alike` says so once,
for the plan with its record and for the plan with classified errors.
-/

import OracleSql.Migration.Migrator
import OracleSql.Proofs.Session.Classified
import OracleSql.Proofs.Template.ReadBack

namespace OracleSql

variable {σ α β : Type}

/-! ### Runs of one statement -/

namespace Executor

variable {executor : Executor σ} {statement : Statement}

/-- What becomes of a run of one statement. -/
inductive Alone (executor : Executor σ) (statement : Statement) :
    Except Error Outcome → List Entry → Prop where
  /-- The connection may not be used. -/
  | unusable : Alone executor statement (.error (.pool .unusable)) []
  /-- Markers and values do not go together. -/
  | unaccepted {error : Error} (fault : statement.check = .error error) :
    Alone executor statement (.error error) []
  | sent {deadline : Option Tick} {result : Except Error Gain} {calls : List Entry}
    (ended : executor.Sent deadline statement result calls) :
    Alone executor statement (result >>= fun gain => (Plan.single statement).outcome [gain]) calls

/-- A plan of one statement is not held together by anything. -/
theorem Exit.alone {deadline : Option Tick} {outcome : Except Error Outcome} {calls : List Entry}
    (exit : executor.Exit deadline .alone (.single statement) outcome calls) :
    executor.Alone statement outcome calls := by
  have settled {result : Except Error (List Gain)} {entries : List Entry}
      (ran : executor.Ran deadline [statement] result entries) :
      executor.Alone statement (result >>= (Plan.single statement).outcome) entries := by
    cases ran with
    | stopped ended => exact .sent ended
    | cons reply others =>
      cases others
      have ended : executor.Sent deadline statement _ _ := .succeeded reply
      exact .sent ended
  cases exit with
  | unopened opened => cases opened.1
  | undone opened ran failed takenBack =>
    obtain ⟨_, rfl⟩ := opened
    rw [show Bracket.alone.undoing? = none from rfl, ite_self] at takenBack
    cases takenBack
    rw [← failed, List.nil_append, List.append_nil]
    exact settled ran
  | unclosed opened ran accounted closed => cases closed.1
  | finished opened ran accounted closed =>
    obtain ⟨_, rfl⟩ := opened
    obtain ⟨_, rfl⟩ := closed
    rw [← accounted, List.nil_append, List.append_nil]
    exact settled ran

theorem run_single_tells (executor : Executor σ) (statement : Statement) :
    Tells (executor.run (.single statement)) (executor.recorded.run (.single statement))
      (executor.Alone statement) := by
  intro state earlier
  have validity : executor.recorded.connection.isValid (state, earlier) =
      executor.connection.isValid state := rfl
  have check : (Plan.single statement).check = statement.check := by
    show (statement.check >>= fun _ => pure ()) = _
    cases statement.check <;> rfl
  rw [executor.perform_run, executor.recorded.perform_run, validity, check]
  split
  · split
    · obtain ⟨entries, same, exit⟩ := executor.runHeld_tells (executor.deadlineAt state) .alone
        (.single statement) state earlier
      exact ⟨entries, same, exit.alone⟩
    · next _ fault => exact ⟨[], by rw [List.append_nil], .unaccepted fault⟩
  · exact ⟨[], by rw [List.append_nil], .unusable⟩

/-- The only call is that of the statement, and perhaps the connection is marked. -/
theorem Alone.act_of_mem {outcome : Except Error Outcome} {calls : List Entry}
    (alone : executor.Alone statement outcome calls) :
    ∀ entry ∈ calls, entry.act = statement.act ∨ entry.act = .invalidate := by
  cases alone with
  | unusable => exact List.forall_mem_nil _
  | unaccepted fault => exact List.forall_mem_nil _
  | sent ended => exact ended.act_of_mem

theorem query_tells (executor : Executor σ) (statement : Statement) :
    Tells (executor.query statement) (executor.recorded.query statement) fun _ calls =>
      ∀ entry ∈ calls, entry.act = statement.act ∨ entry.act = .invalidate := by
  refine (executor.run_single_tells statement).bind (fun _ _ alone => alone.act_of_mem) ?_
  intro outcome before alone
  refine Tells.pure ?_
  rw [List.append_nil]
  exact alone.act_of_mem

end Executor

/-! ### Questions to the dictionary -/

/-- A template is a query until something else is made of it. -/
theorem Dialect.shape_translate {dialect : Dialect} {template : String} {args : Args}
    {statement : Statement} (translated : dialect.translate template args = .ok statement) :
    statement.shape = .rows := by
  unfold translate at translated
  obtain ⟨lexemes, _, translated⟩ := bind_eq_ok.mp translated
  split at translated
  · split at translated
    · cases translated
    · obtain ⟨binds, _, same⟩ := bind_eq_ok.mp translated
      cases same
      rfl
  · obtain ⟨pieces, filled, same⟩ := bind_eq_ok.mp translated
    cases same
    have outs := (fills_of_fill filled).1.outs_assemble
    unfold Statement.outs at outs
    unfold assemble at outs ⊢
    dsimp only at outs ⊢
    split
    · rfl
    · next several =>
      rw [if_neg several] at outs
      exact absurd (congrArg List.isEmpty outs) several

namespace Dictionary

theorem shape_statement {dialect : Dialect} {owner table : Option String} {view columns : String}
    {asked : Statement} (made : statement dialect owner table view columns = .ok asked) :
    asked.shape = .rows := by
  obtain ⟨translated, came, same⟩ := bind_eq_ok.mp made
  cases same
  exact (Dialect.shape_translate came : translated.shape = .rows)

end Dictionary

/-- Templates are filled in alike whether native errors are classified or not. -/
theorem Dialect.fill_classifying (dialect : Dialect) (wanted : Bool) (args : Args)
    (unused : List Value) (lexemes : List Marker.Lexeme) :
    (dialect.classifying wanted).fill args unused lexemes = dialect.fill args unused lexemes :=
  fill_congr (dialect.classifying wanted) dialect args args rfl rfl (fun _ _ => rfl) unused

namespace Dictionary

/-- Questions are the same whether native errors are classified or not. -/
theorem statement_classifying (dialect : Dialect) (wanted : Bool) (owner table : Option String)
    (view columns : String) :
    statement (dialect.classifying wanted) owner table view columns =
      statement dialect owner table view columns := by
  simp only [statement, Dialect.translate, Dialect.fill_classifying]
  rfl

/-! ### Executors that are alike -/

variable {τ : Type} {related : {α : Type} → Session σ α → Session τ α → Prop}

/-- Questions about tables are related when they are put to two executors, whose dialects differ at
most in whether native errors are classified. -/
structure Alike (related : {α : Type} → Session σ α → Session τ α → Prop) (executor : Executor σ)
    (other : Executor τ) : Prop where
  congruence : Session.Congruence related
  dialect : ∃ wanted, other.dialect = executor.dialect.classifying wanted
  tableRows (table : StoredTable) (view columns order : String) :
    related (tableRows executor table view columns order)
      (tableRows other table view columns order)

namespace Alike

variable {executor : Executor σ} {other : Executor τ} (alike : Alike related executor other)

include alike

theorem hasTable (table : StoredTable) :
    related (hasTable executor table) (hasTable other table) :=
  alike.congruence.bind (alike.tableRows table _ _ _) fun _ => alike.congruence.ofExcept (.ok _)

theorem columns (table : StoredTable) : related (columns executor table) (columns other table) :=
  alike.congruence.bind (alike.tableRows table _ _ _) fun _ => alike.congruence.ofExcept _

theorem names (table : StoredTable) (view column : String) :
    related (names executor table view column) (names other table view column) :=
  alike.congruence.bind (alike.tableRows table _ _ _) fun _ => alike.congruence.ofExcept _

theorem tableComment (table : StoredTable) :
    related (tableComment executor table) (tableComment other table) := by
  refine alike.congruence.bind (alike.tableRows table _ _ _) fun rows => ?_
  cases rows with
  | nil => exact alike.congruence.ofExcept (.ok none)
  | cons row rest => exact alike.congruence.ofExcept _

theorem columnComments (table : StoredTable) :
    related (columnComments executor table) (columnComments other table) := by
  refine alike.congruence.bind (alike.tableRows table _ _ _) fun rows => ?_
  refine alike.congruence.bind (alike.congruence.ofExcept _) fun comments => ?_
  exact alike.congruence.ofExcept (.ok _)

theorem liveTable (table : StoredTable) (withComments : Bool) :
    related (liveTable executor table withComments) (liveTable other table withComments) := by
  have ⟨ofExcept, bind⟩ := alike.congruence
  refine bind (alike.hasTable table) fun present => ?_
  cases present with
  | false => exact ofExcept (.ok none)
  | true =>
    refine bind (alike.columns table) fun columns => ?_
    refine bind (alike.names table _ _) fun indexes => ?_
    refine bind (alike.names table _ _) fun constraints => ?_
    cases withComments with
    | false => exact ofExcept (.ok _)
    | true =>
      refine bind (alike.tableComment table) fun comment => ?_
      exact bind (alike.columnComments table) fun comments => ofExcept (.ok _)

theorem planTable (table : Table) :
    related (Migrator.planTable executor table) (Migrator.planTable other table) := by
  have ⟨ofExcept, bind⟩ := alike.congruence
  obtain ⟨wanted, same⟩ := alike.dialect
  unfold Migrator.planTable
  rw [same]
  refine bind (ofExcept _) fun stored => bind (alike.liveTable stored _) fun live => ?_
  exact bind (ofExcept _) fun plan => ofExcept (.ok _)

/-- Plans are related where questions about tables are. -/
theorem plan (tables : List Table) :
    related (Migrator.plan executor tables) (Migrator.plan other tables) := by
  have ⟨ofExcept, bind⟩ := alike.congruence
  obtain ⟨wanted, same⟩ := alike.dialect
  unfold Migrator.plan
  rw [same]
  refine bind (ofExcept _) fun _ => ?_
  exact bind (alike.congruence.mapM tables alike.planTable) fun parts => ofExcept (.ok _)

end Alike

/-! ### What is asked -/

/-- A question about a table, put to a view of the dictionary. -/
def Asks (dialect : Dialect) (act : Act) : Prop :=
  ∃ owner table view columns order asked,
    statement dialect owner (some table) view columns = .ok asked ∧
      act = .query (asked.sql ++ order) asked.binds

/-- Only questions to the dictionary are sent, and perhaps the connection is marked. -/
def OnlyAsks (dialect : Dialect) (calls : List Entry) : Prop :=
  ∀ entry ∈ calls, Asks dialect entry.act ∨ entry.act = .invalidate

/-- A session that sends only questions. -/
abbrev Inquires (dialect : Dialect) (plain : Session σ α) (noted : Session (σ × List Entry) α) :
    Prop :=
  Tells plain noted fun _ calls => OnlyAsks dialect calls

theorem inquires_congruence (dialect : Dialect) :
    Session.Congruence fun {α} (plain : Session σ α) noted => Inquires dialect plain noted where
  ofExcept _ := Tells.ofExcept (List.forall_mem_nil _)
  bind part rest :=
    Tells.bind part (fun _ _ => id) fun result _ asked =>
      (rest result).mono fun _ _ further => List.forall_mem_append.mpr ⟨asked, further⟩

variable (executor : Executor σ) (table : StoredTable) (view columns order : String)

theorem tableRows_inquires :
    Inquires executor.dialect (tableRows executor table view columns order)
      (tableRows executor.recorded table view columns order) := by
  let made := statement executor.dialect table.owner (some table.name) view columns
  have computed : Tells (Session.ofExcept made : Session σ Statement) (Session.ofExcept made)
      fun outcome calls => calls = [] ∧ outcome = made :=
    Tells.ofExcept ⟨rfl, rfl⟩
  refine computed.bind (fun _ _ silent => silent.1 ▸ List.forall_mem_nil _) ?_
  rintro asked _ ⟨rfl, made⟩
  refine (executor.query_tells _).mono fun _ calls sent entry member => ?_
  refine (sent entry member).imp_left fun same => ?_
  refine ⟨_, _, _, _, order, asked, made.symm, same.trans ?_⟩
  rw [Statement.act, shape_statement made.symm]

theorem tableRows_inStep :
    InStep Error.ShownAs (tableRows (executor.classifying false) table view columns order)
      (tableRows (executor.classifying true) table view columns order) := by
  have congruence : Session.Congruence fun {α} (plain shown : Session σ α) =>
      InStep Error.ShownAs plain shown := InStep.congruence .same
  have same (wanted : Bool) := statement_classifying executor.dialect wanted table.owner
    (some table.name) view columns
  show InStep _ (Session.ofExcept (statement (executor.dialect.classifying false) _ _ _ _) >>= _)
    (Session.ofExcept (statement (executor.dialect.classifying true) _ _ _ _) >>= _)
  rw [same, same]
  refine congruence.bind (congruence.ofExcept _) fun asked => ?_
  exact congruence.bind (executor.run_inStep _) fun outcome => congruence.ofExcept (.ok _)

end Dictionary

/-! ### Plans -/

namespace Migrator

open Dictionary

variable (executor : Executor σ) (tables : List Table)

/-- A plan is worked out by questions to the dictionary. -/
theorem plan_inquires :
    Inquires executor.dialect (plan executor tables) (plan executor.recorded tables) := by
  have alike : Alike (Inquires executor.dialect) executor executor.recorded :=
    ⟨inquires_congruence _, ⟨executor.dialect.translateErrors, rfl⟩, tableRows_inquires executor⟩
  exact alike.plan tables

theorem plan_inStep :
    InStep Error.ShownAs (plan (executor.classifying false) tables)
      (plan (executor.classifying true) tables) := by
  have alike : Alike (InStep Error.ShownAs) (executor.classifying false)
      (executor.classifying true) :=
    ⟨InStep.congruence .same, ⟨true, rfl⟩, tableRows_inStep executor⟩
  exact alike.plan tables

end Migrator

end OracleSql
