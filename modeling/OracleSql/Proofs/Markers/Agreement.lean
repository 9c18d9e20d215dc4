/-
This file shows that builders and the check of binds agree. A builder writes markers and collects
values as it goes; the check reads the finished text again and counts what it finds. Names may hold
whatever looks like a marker, a comment or a literal, and still the reader finds exactly the markers
that were written, in order, for every statement of every plan that is made without text written by
hand. So the check accepts every such plan.
-/

import OracleSql.Proofs.Markers.Assembled
import OracleSql.Proofs.Markers.Builders
import OracleSql.Request

namespace OracleSql

/-- The reader finds the markers that were made, for some number of values and of returned columns,
and the check accepts the statement. -/
def Statement.Agrees (style : MarkerStyle) (statement : Statement) : Prop :=
  (∃ values outs, statement.HasMarkers style values outs) ∧ statement.check = .ok ()

theorem Statement.HasMarkers.agrees {style : MarkerStyle} {values outs : Nat}
    {statement : Statement} (marked : statement.HasMarkers style values outs)
    (built : statement.operation ≠ definitionOperation) : statement.Agrees style :=
  ⟨⟨values, outs, marked⟩, marked.check_eq built⟩

theorem Plan.check_eq {style : MarkerStyle} {plan : Plan}
    (each : ∀ statement ∈ plan.statements, statement.Agrees style) : plan.check = .ok () :=
  forM_eq_ok_iff.mpr fun statement member => (each statement member).2

section

variable (dialect : Dialect)

/-- A statement that is assembled of allowed pieces agrees with the check. -/
theorem Dialect.statement_agrees {pieces : List Piece} {shape : Shape}
    (leads : Leads .free pieces .returned) (plain : shape = .rows ∨ shape = .rowsAffected)
    {operation : String} (built : operation ≠ Statement.definitionOperation)
    (table : Option String) :
    ({ dialect.assemble pieces shape with operation, table } : Statement).Agrees
      dialect.markerStyle := by
  obtain ⟨outs, marked⟩ := dialect.assemble_hasMarkers leads plain
  have same : ({ dialect.assemble pieces shape with operation, table } : Statement).HasMarkers
      dialect.markerStyle (Piece.valueCount pieces) outs := marked
  exact same.agrees built

/-! ### Queries -/

namespace Select

variable {select : Select}

theorem build_agrees (composed : select.isComposed = true) :
    Ensures (Statement.Agrees dialect.markerStyle) (select.build dialect) := by
  refine Ensures.bind (pagePieces_leads dialect composed) fun pieces leads => Ensures.ok ?_
  have locked : Leads .tight (select.lock.toList.map fun mode => Piece.text mode.sql) .tight := by
    cases select.lock with
    | none => exact Leads.nil rfl
    | some mode => exact mode.sql_leads
  exact dialect.statement_agrees ((leads.append locked).mono rfl rfl) (Or.inl rfl) (by decide) _

theorem buildCount_agrees (composed : select.isComposed = true) :
    Ensures (Statement.Agrees dialect.markerStyle) (select.buildCount dialect) := by
  refine Ensures.bind (bodyPieces_leads dialect composed) fun body leads => Ensures.ok ?_
  have whole : Leads .free (if select.isGrouped then
      .text "SELECT COUNT(*) FROM (SELECT 1 c__" :: (body ++ [.text ") t"])
      else .text "SELECT COUNT(*)" :: body) .tight := by
    split
    · have opening : Leads .free [.text "SELECT COUNT(*) FROM (SELECT 1 c__"] .tight := by decide
      have closing : Leads .tight [.text ") t"] .tight := by decide
      exact opening.cons (leads.append closing)
    · have opening : Leads .free [.text "SELECT COUNT(*)"] .tight := by decide
      exact opening.cons leads
  exact dialect.statement_agrees (whole.mono rfl rfl) (Or.inl rfl) (by decide) _

end Select

/-! ### Insertions -/

namespace Insert

variable {insert : Insert}

theorem headPieces_leads :
    Ensures (fun pieces => Leads .free pieces .free ∧ Piece.valueCount pieces = 0)
      (insert.headPieces dialect) := by
  refine Ensures.bind (Ensures.and (dialect.namePiece_leads insert.table)
    (dialect.namePiece_valueCount insert.table)) fun table ⟨named, bare⟩ => ?_
  refine Ensures.bind (Ensures.and (dialect.namePieces_leads insert.rows.columns)
    (dialect.namePieces_valueCount insert.rows.columns)) fun columns ⟨listed, empty⟩ => ?_
  refine Ensures.ok ?_
  have opening : Leads .free [.text "INSERT INTO "] .free := by decide
  have before : Leads .tight [.text " ("] .free := by decide
  have after : Leads .tight [.text ")"] .free := by decide
  refine ⟨opening.cons (named.append (Leads.enclosed before listed after)), ?_⟩
  rw [Piece.valueCount_text, Piece.valueCount_append, bare, Piece.enclosed, Piece.valueCount_text,
    Piece.valueCount_append, empty]
  rfl

/-- The statement of one row takes the values of the row. -/
theorem oneRow_hasMarkers (returned : Nat) (values : List Value) :
    Ensures (fun statement => (∃ outs,
        statement.HasMarkers dialect.markerStyle values.length outs) ∧
        statement.operation = "insert")
      (insert.oneRow dialect returned values) := by
  refine Ensures.bind (headPieces_leads dialect) fun head ⟨opened, bare⟩ => ?_
  refine Ensures.bind (dialect.returningPieces_leads insert.declared insert.returning returned)
    fun tail ⟨closed, empty⟩ => Ensures.ok ?_
  have before : Leads .free [.text " VALUES ("] .free := by decide
  have after : Leads .tight [.text ")"] .tight := by decide
  have row := Leads.enclosed before (Rows.valuePieces_leads values) after
  obtain ⟨outs, marked⟩ := dialect.assemble_hasMarkers
    ((opened.append row).append closed) (Or.inr rfl)
  have count : Piece.valueCount (head ++ Piece.enclosed " VALUES (" ")" (Rows.valuePieces values) ++
      tail) = values.length := by
    rw [Piece.valueCount_append, Piece.valueCount_append, bare, empty, Piece.enclosed,
      Piece.valueCount_text, Piece.valueCount_append, Rows.valuePieces_valueCount, Nat.zero_add]
    rfl
  rw [count] at marked
  exact ⟨⟨outs, marked⟩, rfl⟩

theorem oneRow_agrees (returned : Nat) (values : List Value) :
    Ensures (Statement.Agrees dialect.markerStyle) (insert.oneRow dialect returned values) := by
  refine (oneRow_hasMarkers dialect returned values).mono ?_
  rintro statement ⟨⟨outs, marked⟩, named⟩
  refine marked.agrees ?_
  rw [named]
  decide

theorem severalRows_agrees (rows : List (List Value)) :
    Ensures (Statement.Agrees dialect.markerStyle) (insert.severalRows dialect rows) := by
  refine Ensures.bind (headPieces_leads dialect) fun head ⟨opened, _⟩ => Ensures.ok ?_
  have blank : Leads .free [.text " "] .free := by decide
  have each : ∀ row ∈ rows.map selectPieces, Leads .free row .tight := by
    refine List.forall_mem_map.mpr fun values _ => ?_
    have before : Leads .free [.text "SELECT "] .free := by decide
    have after : Leads .tight [.text " FROM DUAL"] .tight := by decide
    exact Leads.enclosed before (Rows.valuePieces_leads values) after
  have joined : Leads .free (Piece.join " UNION ALL " (rows.map selectPieces)) .tight :=
    Leads.join rfl (by decide) each
  exact dialect.statement_agrees ((opened.append (blank.cons joined)).mono rfl rfl) (Or.inr rfl)
    (by decide) _

/-- Every row of a batch has as many values as the first one, for which the statement is made. -/
theorem Makes.agrees {statement : Statement} (makes : insert.Makes dialect statement) :
    statement.Agrees dialect.markerStyle := by
  cases makes with
  | oneRow offset built =>
    have agrees := oneRow_agrees dialect _ _ _ built
    exact agrees
  | severalRows built => exact severalRows_agrees dialect _ _ built
  | @batch chunk first offset wide built =>
    obtain ⟨⟨outs, marked⟩, named⟩ := oneRow_hasMarkers dialect _ _ first built
    have takes : (Binds.batch chunk).Takes dialect.markerStyle (chunk.headD []).length := by
      intro row member
      cases chunk with
      | nil => cases member
      | cons top more => exact (wide row member).trans (wide top List.mem_cons_self).symm
    have batch : ({ first with binds := .batch chunk, inputOffset := offset } :
        Statement).HasMarkers dialect.markerStyle (chunk.headD []).length outs :=
      ⟨marked.1, takes, marked.2.2⟩
    refine batch.agrees ?_
    show first.operation ≠ _
    rw [named]
    decide

/-- Every statement of a planned insertion agrees with the check. -/
theorem plan_agrees :
    Ensures (fun plan => ∀ statement ∈ plan.statements, statement.Agrees dialect.markerStyle)
      (insert.plan dialect) :=
  Ensures.mapError _ fun _ built statement member =>
    (makes_of_planUnplaced built statement member).agrees dialect

end Insert

/-! ### Changes and removals of rows -/

/-- Whether what a column is set to is not written by hand. -/
def Assignment.isComposed : Assignment → Bool
  | value _ => true
  | expression _ => false

/-- Whether no part of the change is written by hand. -/
def Update.isComposed (update : Update) : Bool :=
  (update.assignments.all fun pair => pair.2.isComposed) && update.filter.isComposed

theorem Update.assignmentPieces_leads {update : Update} {column : String} {assignment : Assignment}
    (composed : assignment.isComposed = true) :
    Ensures (Leads .free · .tight) (update.assignmentPieces dialect column assignment) := by
  have equals : Leads .tight [.text " = "] .free := by decide
  cases assignment with
  | expression sql => cases composed
  | value value =>
    refine Ensures.bind (dialect.nameText_leads column) fun name named => ?_
    have bound : Ensures (Leads .free · .tight)
        ((dialect.store update.declared column value).map fun stored => [Piece.value stored]) :=
      Ensures.map (Ensures.anything _) fun stored _ => Condition.value_leads stored
    exact Ensures.bind bound fun content leads =>
      Ensures.ok ((named.textAppend equals).cons leads)

theorem Update.build_agrees {update : Update} (composed : update.isComposed = true) :
    Ensures (Statement.Agrees dialect.markerStyle) (update.build dialect) := by
  intro statement built
  obtain ⟨_, table, changes, rows, tail, named, changed, filtered, returned, rfl⟩ :=
    parts_of_build built
  rw [isComposed, Bool.and_eq_true, List.all_eq_true] at composed
  have opening : Leads .free [.text "UPDATE "] .free := by decide
  have middle : Leads .tight [.text " SET "] .free := by decide
  have assigned : Leads .free (Piece.join ", " changes) .tight :=
    Leads.join rfl (by decide) (Ensures.mapM (fun pair member =>
      assignmentPieces_leads dialect (composed.1 pair member)) changes changed)
  have kept := update.filter.clause_leads dialect composed.2 (by decide) rows filtered
  have back := (dialect.returningPieces_leads _ _ _ tail returned).1
  exact dialect.statement_agrees (opening.cons ((dialect.namePiece_leads _ table named).append
    (middle.cons ((assigned.append kept).append back)))) (Or.inr rfl) (by decide) _

/-- Whether no part of the removal is written by hand. -/
def Delete.isComposed (delete : Delete) : Bool :=
  delete.filter.isComposed

theorem Delete.build_agrees {delete : Delete} (composed : delete.isComposed = true) :
    Ensures (Statement.Agrees dialect.markerStyle) (delete.build dialect) := by
  intro statement built
  obtain ⟨_, table, rows, tail, named, filtered, returned, rfl⟩ := parts_of_build built
  have opening : Leads .free [.text "DELETE FROM "] .free := by decide
  have kept := delete.filter.clause_leads dialect composed (by decide) rows filtered
  have back := (dialect.returningPieces_leads _ _ _ tail returned).1
  exact dialect.statement_agrees (opening.cons (((dialect.namePiece_leads _ table named).append
    kept).append back)) (Or.inr rfl) (by decide) _

/-! ### Mergers -/

namespace Merge

theorem sidePieces_leads {side : String} (opens : Leads .free [.text side] .word)
    (column : String) : Ensures (Leads .free · .tight) (sidePieces dialect side column) := by
  have dot : Leads .word [.text "."] .free := by decide
  exact Ensures.map (dialect.nameText_leads column) fun name named =>
    (opens.textAppend dot).textAppend named

theorem equalPieces_leads (column : String) :
    Ensures (Leads .free · .tight) (equalPieces dialect column) := by
  have left : Leads .free [.text "t."] .free := by decide
  have right : Leads .tight [.text " = s."] .free := by decide
  exact Ensures.map (dialect.nameText_leads column) fun name named =>
    ((left.textAppend named).textAppend right).textAppend named

theorem namedRowPieces_leads (columns : List String) (values : List Value) :
    Ensures (Leads .free · .tight) (namedRowPieces dialect columns values) := by
  have blank : Leads .tight [.text " "] .free := by decide
  refine Ensures.map (Ensures.mapM fun pair _ => ?_) fun members each =>
    Leads.join rfl (by decide) each
  exact Ensures.map (dialect.nameText_leads pair.2) fun name named =>
    (Condition.value_leads pair.1).cons (blank.textAppend named)

theorem sourcePieces_leads (columns : List String) (rows : List (List Value)) :
    Ensures (Leads .free · .tight) (sourcePieces dialect columns rows) := by
  cases rows with
  | nil => exact Ensures.ok (Leads.nil rfl)
  | cons first rest =>
    have before : Leads .free [.text "SELECT "] .free := by decide
    have after : Leads .tight [.text " FROM DUAL"] .tight := by decide
    refine Ensures.bind (namedRowPieces_leads dialect columns first) fun named leads => ?_
    refine Ensures.ok ?_
    refine Leads.join rfl (by decide) (List.forall_mem_map.mpr (List.forall_mem_cons.mpr ⟨?_, ?_⟩))
    · exact Leads.enclosed before leads after
    · exact List.forall_mem_map.mpr fun values _ =>
        Leads.enclosed before (Rows.valuePieces_leads values) after

theorem matchedPieces_leads (updated : List String) :
    Ensures (Leads .tight · .tight) (matchedPieces dialect updated) := by
  unfold matchedPieces
  split
  · exact Ensures.ok (Leads.nil rfl)
  · refine Ensures.bind (Ensures.mapM fun column _ => equalPieces_leads dialect column)
      fun changes each => Ensures.ok ?_
    have opening : Leads .tight [.text " WHEN MATCHED THEN UPDATE SET "] .free := by decide
    exact opening.cons (Leads.join rfl (by decide) each)

theorem statement_agrees (merge : Merge) (updated : List String) (rows : List (List Value)) :
    Ensures (Statement.Agrees dialect.markerStyle) (merge.statement dialect updated rows) := by
  refine Ensures.bind (dialect.namePiece_leads merge.table) fun table named => ?_
  refine Ensures.bind (sourcePieces_leads dialect merge.rows.columns rows) fun source chosen => ?_
  refine Ensures.bind (Ensures.mapM fun key _ => equalPieces_leads dialect key) fun keys met => ?_
  refine Ensures.bind (matchedPieces_leads dialect updated) fun changes matched => ?_
  refine Ensures.bind (dialect.namePieces_leads merge.rows.columns) fun names listed => ?_
  refine Ensures.bind (Ensures.mapM fun column _ =>
    sidePieces_leads dialect (by decide) column) fun values taken => Ensures.ok ?_
  have opening : Leads .free [.text "MERGE INTO "] .free := by decide
  have before : Leads .tight [.text " t USING ("] .free := by decide
  have after : Leads .tight [.text ") s ON ("] .free := by decide
  have closing : Leads .tight [.text ")"] .tight := by decide
  have inserts : Leads .tight [.text " WHEN NOT MATCHED THEN INSERT ("] .free := by decide
  have row : Leads .tight [.text ") VALUES ("] .free := by decide
  have source := Leads.enclosed before chosen after
  have condition : Leads .free (Piece.join " AND " keys) .tight := Leads.join rfl (by decide) met
  have content : Leads .free (Piece.join ", " values) .tight := Leads.join rfl (by decide) taken
  have head := ((named.append source).append condition).append (closing.cons matched)
  have tail := ((head.append (Leads.enclosed inserts listed row)).append content).append closing
  exact dialect.statement_agrees ((opening.cons tail).mono rfl rfl) (Or.inr rfl) (by decide) _

/-- Every statement of a planned merger agrees with the check. -/
theorem plan_agrees (merge : Merge) :
    Ensures (fun plan => ∀ statement ∈ plan.statements, statement.Agrees dialect.markerStyle)
      (merge.plan dialect) := by
  refine Ensures.mapError _ fun plan built => ?_
  obtain ⟨_, updated, rows, size, statements, _, _, _, made, rfl⟩ := parts_of_planUnplaced built
  exact Ensures.mapM (fun chunk _ => statement_agrees dialect merge updated chunk) statements made

end Merge

end

/-! ### Requests -/

namespace Request

/-- Whether no part of the request is written by hand. -/
def isComposed : Request → Bool
  | select query => query.isComposed
  | insert _ => true
  | update change => change.isComposed
  | delete change => change.isComposed
  | merge _ => true
  | handWritten _ => false

theorem plan_agrees (dialect : Dialect) (request : Request) (composed : request.isComposed = true) :
    Ensures (fun plan => ∀ statement ∈ plan.statements, statement.Agrees dialect.markerStyle)
      (request.plan dialect) := by
  have single {outcome : Except Error Statement}
      (agrees : Ensures (Statement.Agrees dialect.markerStyle) outcome) :
      Ensures (fun plan => ∀ statement ∈ plan.statements, statement.Agrees dialect.markerStyle)
        (outcome.map Plan.single) :=
    Ensures.map agrees fun _ agrees => List.forall_mem_singleton.mpr agrees
  cases request with
  | select query => exact single (Select.build_agrees dialect composed)
  | insert change => exact Insert.plan_agrees dialect
  | update change => exact Ensures.mapError _ (single (Update.build_agrees dialect composed))
  | delete change => exact Ensures.mapError _ (single (Delete.build_agrees dialect composed))
  | merge change => exact Merge.plan_agrees dialect change
  | handWritten statement => cases composed

/-- Builders and the check of binds agree. For every dialect and every request without text written
by hand, whatever its names and values are: if the request has a plan, then the reader finds in each
statement exactly the markers that were made, in order, those of the values of one run and then
those of the returned columns, and so the check accepts the statement and the plan. The same holds
of the statement that counts the rows of a query. -/
theorem markers_agree (dialect : Dialect) :
    (∀ (request : Request) (plan : Plan), request.isComposed = true →
      request.plan dialect = .ok plan →
        (∀ statement ∈ plan.statements, statement.Agrees dialect.markerStyle) ∧
          plan.check = .ok ()) ∧
    ∀ (query : Select) (statement : Statement), query.isComposed = true →
      query.buildCount dialect = .ok statement → statement.Agrees dialect.markerStyle := by
  constructor
  · intro request plan composed planned
    have each := plan_agrees dialect request composed plan planned
    exact ⟨each, Plan.check_eq each⟩
  · intro query statement composed built
    exact Select.buildCount_agrees dialect composed statement built

/-- The two parts for names that look like markers, comments and literals: a batch of rows with a
returned column, and a count. -/
theorem markers_agree_tricky_names :
    let dialect : Dialect :=
      { markerStyle := .named, bulkReturning := true, identifierCase := .preserve }
    let rows : Insert :=
      { table := "a:1.\"q'-- ?\""
        rows := { form := .many ["/*:x", "é@y"] [[.null, .null], [.null, .null]] }
        returning := ["*/'"] }
    let query : Select :=
      { source := "a:1 \"b c\"", filter := ⟨[.range "q'[" .null .null true]⟩ }
    ∃ plan statement, rows.plan dialect = .ok plan ∧ query.buildCount dialect = .ok statement ∧
      (∀ statement ∈ plan.statements, statement.Agrees .named) ∧ plan.check = .ok () ∧
      statement.Agrees .named := by
  intro dialect rows query
  have possible : (rows.plan dialect).isOk = true := by decide +kernel
  have countable : (query.buildCount dialect).isOk = true := by decide +kernel
  obtain ⟨plan, planned⟩ := exists_of_isOk possible
  obtain ⟨statement, counted⟩ := exists_of_isOk countable
  obtain ⟨each, accepted⟩ := (markers_agree dialect).1 (insert rows) plan rfl planned
  exact ⟨plan, statement, planned, counted, each, accepted,
    (markers_agree dialect).2 query statement rfl counted⟩

end Request

end OracleSql
