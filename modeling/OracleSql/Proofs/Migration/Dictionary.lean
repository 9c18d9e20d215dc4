/-
This file plans tables from what the dictionary answers. The questions about a table are fixed texts
with one marker for its name. A database that answers them from a catalog, and is not changed by
them, is planned for as the catalog says: names of indexes and constraints may come in any order,
and comments are read only where some are declared.
-/

import OracleSql.Migration.Migrator
import OracleSql.Proofs.Migration.Catalog
import OracleSql.Proofs.Migration.Reported
import OracleSql.Proofs.Markers.Assembled
import OracleSql.Proofs.Session.Transcript

namespace OracleSql

/-! ### Questions -/

/-- A question about a table of the session's user. -/
inductive Question where
  | tables
  | columns
  | indexes
  | constraints
  | tableComment
  | columnComments
  deriving DecidableEq

/-- The name of the first marker. -/
def MarkerStyle.firstName : MarkerStyle → String
  | .numbered => "1"
  | .named => "p1"

/-- One value, bound to the first marker. -/
def MarkerStyle.bindsOne (style : MarkerStyle) (value : Value) : Binds :=
  match style with
  | .numbered => .positional [value]
  | .named => .named [("p1", value)]

namespace Question

/-- The view that is asked, without the start that says whose objects it shows. -/
def view : Question → String
  | tables => "TABLES"
  | columns => "TAB_COLUMNS"
  | indexes => "INDEXES"
  | constraints => "CONSTRAINTS"
  | tableComment => "TAB_COMMENTS"
  | columnComments => "COL_COMMENTS"

/-- The columns of the view that are asked for. -/
def fields : Question → String
  | tables => "TABLE_NAME"
  | columns => Dictionary.columnFields
  | indexes => "INDEX_NAME"
  | constraints => "CONSTRAINT_NAME"
  | tableComment => "COMMENTS"
  | columnComments => "COLUMN_NAME, COMMENTS"

/-- The order of the answer. -/
def order : Question → String
  | columns => " ORDER BY COLUMN_ID"
  | _ => ""

/-- The question up to the name of the table. -/
def front (question : Question) : String :=
  "SELECT " ++ question.fields ++ " FROM USER_" ++ question.view ++ " WHERE TABLE_NAME = "

/-- The text of a question. -/
def sql (question : Question) (style : MarkerStyle) : String :=
  question.front ++ ":" ++ style.firstName ++ question.order

/-- The statement that asks a question about a table. -/
def statement (question : Question) (style : MarkerStyle) (name : String) : Statement where
  sql := question.sql style
  binds := style.bindsOne (.text name)
  shape := .rows
  operation := Dictionary.operation

theorem plain_front (question : Question) :
    question.front.toList.all Marker.isPlain = true := by
  have spelled {letters : List Char} (plain : letters.all Marker.isPlain = true) :
      (String.ofList letters).toList.all Marker.isPlain = true := by
    rwa [String.toList_ofList]
  have fields : question.fields.toList.all Marker.isPlain = true := by
    cases question <;> exact spelled (by decide)
  have view : question.view.toList.all Marker.isPlain = true := by
    cases question <;> exact spelled (by decide)
  rw [front]
  simp only [String.toList_append, List.all_append, Bool.and_eq_true]
  exact ⟨⟨⟨⟨spelled (by decide), fields⟩, spelled (by decide)⟩, view⟩, spelled (by decide)⟩

theorem lexemes_template (question : Question) :
    Marker.lexemes (question.front ++ "?") =
      .ok (question.front.toList.map (fun letter => Marker.Lexeme.text [letter]) ++
        [Marker.Lexeme.positional]) :=
  Marker.lexemes_plain_positional question.plain_front

theorem nativeNames_sql (question : Question) (style : MarkerStyle) :
    Marker.nativeNames (question.sql style) = .ok [style.firstName] := by
  have last : question.front.toList.getLast? = some ' ' := by
    rw [front, String.toList_append, List.getLast?_append]
    rfl
  have admits : Marker.AdmitsNative question.front.toList := by
    refine ⟨fun letter member => ?_, ?_⟩
    · rw [last] at member
      cases member
      rfl
    · rw [last]
      decide
  have follows : question.order.toList.head?.all (fun letter => !Marker.isNameChar letter) =
      true := by
    cases question <;> decide
  refine Marker.nativeNames_plain question.plain_front ?_ ?_ ⟨?_, ?_⟩ admits
  · cases question <;> decide +kernel
  · cases style <;> decide
  · exact List.all_eq_true.mp (by cases style <;> decide)
  · exact fun letter member =>
      (Bool.not_eq_true' _).mp ((Option.all_eq_true _ _).mp follows letter member)

theorem check_statement (question : Question) (style : MarkerStyle) (name : String) :
    (question.statement style name).check = .ok () := by
  have found : (question.statement style name).fault? = none := by
    have other : (question.statement style name).operation ≠ Statement.definitionOperation :=
      show Dictionary.operation ≠ Statement.definitionOperation by decide
    unfold Statement.fault?
    rw [if_neg other, show (question.statement style name).sql = question.sql style from rfl,
      nativeNames_sql]
    cases style with
    | numbered => rfl
    | named =>
      have bound :
          (question.statement .named name).valueFault? [MarkerStyle.named.firstName] = none :=
        if_pos (Statement.sameMembers_self _)
      dsimp only
      rw [bound]
      rfl
  rw [Statement.check, found]

/-- A template of single letters with a marker at the end is filled with one value. -/
theorem fill_final (dialect : Dialect) (args : Args) (value : Value) (letters : List Char) :
    dialect.fill args [value] (letters.map (fun letter => Marker.Lexeme.text [letter]) ++
        [Marker.Lexeme.positional]) =
      .ok (letters.map (fun letter => Piece.text (String.ofList [letter])) ++
        [Piece.value (dialect.lower value)]) := by
  induction letters with
  | nil => rfl
  | cons letter rest inductionHypothesis =>
    rw [List.map_cons, List.cons_append, Dialect.fill, inductionHypothesis]
    rfl

/-- Single letters are assembled to their text. -/
theorem foldl_letters (style : MarkerStyle) (letters : List Char) (assembly : Assembly) :
    (letters.map fun letter => Piece.text (String.ofList [letter])).foldl (Assembly.add style)
        assembly = { assembly with sql := assembly.sql ++ String.ofList letters } := by
  induction letters generalizing assembly with
  | nil => simp
  | cons letter rest inductionHypothesis =>
    have texts : assembly.sql ++ String.ofList [letter] ++ String.ofList rest =
        assembly.sql ++ String.ofList (letter :: rest) := by
      rw [String.append_assoc, ← String.ofList_append, List.singleton_append]
    rw [List.map_cons, List.foldl_cons, inductionHypothesis, Assembly.add, texts]

theorem statement_eq (question : Question) (dialect : Dialect) (name : String) :
    ∃ asked,
      Dictionary.statement dialect none (some name) question.view question.fields = .ok asked ∧
      { asked with sql := asked.sql ++ question.order } =
        question.statement dialect.markerStyle name := by
  have template : "SELECT " ++ question.fields ++ " FROM " ++ "USER_" ++ question.view ++
      " WHERE TABLE_NAME = ?" = question.front ++ "?" := by
    cases question <;> decide +kernel
  refine ⟨_, bind_eq_ok.mpr ⟨dialect.assemble
    (question.front.toList.map (fun letter => .text (String.ofList [letter])) ++
      [.value (.text name)]) .rows, ?_, rfl⟩, ?_⟩
  · show dialect.translate ("SELECT " ++ question.fields ++ " FROM " ++ "USER_" ++ question.view ++
      " WHERE TABLE_NAME = ?") { positional := [.text name] } = _
    have portable : hasNative (question.front.toList.map (fun letter => .text [letter]) ++
        [.positional]) = false := by
      simp [hasNative, Marker.Lexeme.nativeName?]
    rw [template, Dialect.translate, lexemes_template]
    refine bind_eq_ok.mpr ⟨_, rfl, ?_⟩
    rw [portable, if_neg Bool.false_ne_true]
    exact bind_eq_ok.mpr ⟨_, fill_final dialect _ _ _, rfl⟩
  · unfold Dialect.assemble
    rw [List.foldl_append, foldl_letters]
    have written : Nat.repr 1 = "1" ∧ "p" ++ Nat.repr 1 = "p1" := by decide +kernel
    cases style : dialect.markerStyle with
    | numbered =>
      simp [statement, sql, Assembly.add, Assembly.addNumbered, Assembly.marked, Assembly.binds,
        MarkerStyle.firstName, MarkerStyle.bindsOne, written.1]
    | named =>
      simp [statement, sql, Assembly.add, Assembly.addGenerated, Assembly.marked, Assembly.binds,
        MarkerStyle.firstName, MarkerStyle.bindsOne, written.2]

end Question

/-! ### Asking -/

namespace Executor

variable {σ : Type} {executor : Executor σ} {state : σ}

/-- When a run that starts now has to be over. -/
def deadlineFrom (executor : Executor σ) (state : σ) : Option Tick :=
  executor.options.timeout.map fun limit => executor.connection.now state + limit.nanoseconds

/-- A call at the start of a run is answered before anything that would interrupt it. -/
def InTime {α : Type} (executor : Executor σ) (call : σ → Pending σ α) (state : σ) : Prop :=
  ∀ interruption, Interruption.pending? (executor.connection.now state) executor.options.cancelAt
      (executor.deadlineFrom state) = some interruption →
    executor.connection.now state < interruption.time ∧ (call state).arrives < interruption.time

/-- Without limits every call is answered in time. -/
theorem inTime_of_unlimited {α : Type} (unlimited : executor.options = {})
    (call : σ → Pending σ α) (state : σ) : executor.InTime call state := by
  intro interruption due
  rw [deadlineFrom, unlimited] at due
  cases due

/-- A call that is answered in time comes to its answer. -/
theorem perform_guarded {α : Type} {call : σ → Pending σ α} (inTime : executor.InTime call state) :
    (executor.connection.guarded executor.options (executor.deadlineFrom state) call).perform
      state = ((call state).answer, (call state).arrived) := by
  rw [Session.perform_guarded]
  cases due : Interruption.pending? (executor.connection.now state) executor.options.cancelAt
      (executor.deadlineFrom state) with
  | none => rfl
  | some interruption =>
    obtain ⟨started, answered⟩ := inTime interruption due
    dsimp only
    rw [if_neg (Nat.not_le.mpr started), if_neg (Nat.not_le.mpr answered)]

/-- A question that is answered comes to the rows of the answer. -/
theorem perform_query {statement : Statement} {rows : List Row}
    (inTime : executor.InTime (executor.connection.query statement.sql statement.binds) state)
    (valid : executor.connection.isValid state = true) (shape : statement.shape = .rows)
    (accepted : statement.check = .ok ())
    (answered : (executor.connection.query statement.sql statement.binds state).answer = .ok rows) :
    (executor.query statement).perform state =
      (.ok rows, (executor.connection.query statement.sql statement.binds state).arrived) := by
  have sent : (executor.send (executor.deadlineAt state) statement).perform state =
      (.ok { rows }, (executor.connection.query statement.sql statement.binds state).arrived) := by
    unfold send
    rw [shape]
    refine Session.perform_bind_ok ?_ _
    rw [← answered]
    exact perform_guarded inTime
  unfold query
  rw [Session.perform_bind, executor.perform_run_single valid accepted, sent]
  simp [Except.mapError, bind, Except.bind, Plan.outcome, Plan.single, Session.perform_pure]

end Executor

/-! ### Answers -/

/-- What is read of a live table: all columns, the names of indexes and constraints in some order,
and comments where they are wanted. -/
structure LiveTable.ReadAs (live : LiveTable) (commented : Bool) (read : LiveTable) : Prop where
  columns : read.columns = live.columns
  indexes : ∀ name, name ∈ read.indexes ↔ name ∈ live.indexes
  constraints : ∀ name, name ∈ read.constraints ↔ name ∈ live.constraints
  comment : commented = true → read.comment = live.comment
  columnComment : commented = true → ∀ name, read.columnComment? name = live.columnComment? name

/-- The rows hold just these names, in some order. -/
def Row.Names (rows : List Row) (column : String) (known : List String) : Prop :=
  ∃ names : List String, List.Forall₂ (fun row name => row.get column = .ok name) rows names ∧
    ∀ name, name ∈ names ↔ name ∈ known

/-- The rows answer a question about a table, of which the dictionary shows this. -/
def Question.Answered (live : LiveTable) (rows : List Row) : Question → Prop
  | tables => rows ≠ []
  | columns => List.Forall₂ (fun column row => ∃ reported, column.ShownBy row reported)
      live.columns rows
  | indexes => Row.Names rows "INDEX_NAME" live.indexes
  | constraints => Row.Names rows "CONSTRAINT_NAME" live.constraints
  | tableComment => ∃ row, rows = [row] ∧ row.get "COMMENTS" = .ok live.comment
  | columnComments => ∃ entries : List (String × Option String),
      List.Forall₂ (fun row entry => row.get "COLUMN_NAME" = .ok entry.1 ∧
        row.get "COMMENTS" = .ok entry.2) rows entries ∧
      ∀ name comment, (name, some comment) ∈ entries ↔ live.columnComment? name = some comment

/-- The database answers questions of its dictionary in time and from a catalog, and is not changed
by them: an absent table has no rows. -/
structure Executor.Shows {σ : Type} (executor : Executor σ) (catalogOf : σ → Catalog) : Prop where
  valid : ∀ state, executor.connection.isValid state = true
  answers : ∀ (question : Question) (name : String) (state : σ),
    let ask := executor.connection.query (question.sql executor.dialect.markerStyle)
      (executor.dialect.markerStyle.bindsOne (.text name))
    executor.InTime ask state ∧ catalogOf (ask state).arrived = catalogOf state ∧
      ∃ rows, (ask state).answer = .ok rows ∧ match catalogOf state name with
      | none => rows = []
      | some live => question.Answered live rows

/-! ### Sessions that leave the catalog as it is -/

/-- A session that starts with a catalog has such an outcome, and the catalog stays. -/
def Session.Comes {σ α : Type} (catalogOf : σ → Catalog) (catalog : Catalog)
    (session : Session σ α) (holds : Except Error α → Prop) : Prop :=
  ∀ state, catalogOf state = catalog →
    holds (session.perform state).1 ∧ catalogOf (session.perform state).2 = catalog

namespace Session.Comes

variable {σ α β : Type} {catalogOf : σ → Catalog} {catalog : Catalog}

theorem ofExcept {holds : Except Error α → Prop} {outcome : Except Error α}
    (known : holds outcome) : Comes catalogOf catalog (Session.ofExcept outcome) holds :=
  fun _ start => ⟨known, start⟩

theorem pure {holds : Except Error α → Prop} {result : α} (known : holds (.ok result)) :
    Comes catalogOf catalog (Pure.pure result) holds :=
  fun _ start => ⟨known, start⟩

/-- After a part that succeeds the rest goes on with the same catalog. -/
theorem bind {session : Session σ α} {next : α → Session σ β} {found : α → Prop}
    {holds : Except Error β → Prop}
    (first : Comes catalogOf catalog session fun outcome =>
      ∃ result, outcome = .ok result ∧ found result)
    (rest : ∀ result, found result → Comes catalogOf catalog (next result) holds) :
    Comes catalogOf catalog (session >>= next) holds := by
  intro state start
  obtain ⟨⟨result, succeeds, known⟩, kept⟩ := first state start
  rw [perform_bind_ok (Prod.ext succeeds rfl)]
  exact rest result known _ kept

/-- One part after the other comes to what their outcomes come to. -/
theorem bindEq {session : Session σ α} {next : α → Session σ β} {outcome : Except Error α}
    {further : α → Except Error β} (first : Comes catalogOf catalog session (· = outcome))
    (rest : ∀ result, outcome = .ok result →
      Comes catalogOf catalog (next result) (· = further result)) :
    Comes catalogOf catalog (session >>= next) (· = outcome >>= further) := by
  intro state start
  obtain ⟨came, kept⟩ := first state start
  cases found : outcome with
  | error failure =>
    rw [perform_bind_error (Prod.ext (came.trans found) rfl)]
    exact ⟨rfl, kept⟩
  | ok result =>
    rw [perform_bind_ok (Prod.ext (came.trans found) rfl)]
    exact rest result found _ kept

/-- A row of sessions comes to what the row of their outcomes comes to. -/
theorem mapM {items : List α} {session : α → Session σ β} {outcome : α → Except Error β}
    (each : ∀ item ∈ items, Comes catalogOf catalog (session item) (· = outcome item)) :
    Comes catalogOf catalog (items.mapM session) (· = items.mapM outcome) := by
  induction items with
  | nil => exact fun _ start => ⟨rfl, start⟩
  | cons item rest inductionHypothesis =>
    obtain ⟨first, others⟩ := List.forall_mem_cons.mp each
    rw [List.mapM_cons, List.mapM_cons]
    refine first.bindEq fun result _ => ?_
    exact (inductionHypothesis others).bindEq fun results _ => pure rfl

end Session.Comes

namespace Executor.Shows

variable {σ : Type} {executor : Executor σ} {catalogOf : σ → Catalog} {catalog : Catalog}
  {name : String}

/-- Asking yields rows that answer the question. -/
theorem tableRows (shows : executor.Shows catalogOf) (catalog : Catalog) (question : Question)
    (name : String) :
    Session.Comes catalogOf catalog
      (Dictionary.tableRows executor ⟨none, name⟩ question.view question.fields question.order)
      fun outcome => ∃ rows, outcome = .ok rows ∧ match catalog name with
        | none => rows = []
        | some live => question.Answered live rows := by
  intro state start
  obtain ⟨asked, built, whole⟩ := question.statement_eq executor.dialect name
  obtain ⟨inTime, kept, rows, answered, right⟩ := shows.answers question name state
  have ran := perform_query inTime (shows.valid state) rfl
    (question.check_statement executor.dialect.markerStyle name) answered
  have asking : (Dictionary.tableRows executor ⟨none, name⟩ question.view question.fields
      question.order).perform state =
        (executor.query (question.statement executor.dialect.markerStyle name)).perform state := by
    unfold Dictionary.tableRows
    rw [Session.perform_bind, Session.perform_ofExcept, built, ← whole]
  rw [asking, ran]
  exact ⟨⟨rows, rfl, start ▸ right⟩, kept.trans start⟩

/-- A present table is asked about further. -/
theorem tableRows_present (shows : executor.Shows catalogOf) (question : Question)
    {live : LiveTable} (present : catalog name = some live) :
    Session.Comes catalogOf catalog
      (Dictionary.tableRows executor ⟨none, name⟩ question.view question.fields question.order)
      fun outcome => ∃ rows, outcome = .ok rows ∧ question.Answered live rows := by
  have asked := shows.tableRows catalog question name
  rwa [present] at asked

/-- The columns are read as they are. -/
theorem columns (shows : executor.Shows catalogOf) {live : LiveTable}
    (present : catalog name = some live) (fits : ∀ column ∈ live.columns, column.columnType.Fits) :
    Session.Comes catalogOf catalog (Dictionary.columns executor ⟨none, name⟩)
      fun outcome => ∃ result, outcome = .ok result ∧ result = live.columns := by
  refine (shows.tableRows_present .columns present).bind fun rows answered => .ofExcept ?_
  have described := (List.forall₂_and_left _ _).mpr ⟨fits, answered⟩
  refine ⟨_, mapM_eq_ok_iff.mpr (described.imp fun column row ⟨fits, _, shown⟩ => ?_).flip, rfl⟩
  exact shown.liveColumn_eq fits

/-- Names are read in some order. -/
theorem names (shows : executor.Shows catalogOf) (question : Question) {live : LiveTable}
    (present : catalog name = some live) {known : List String}
    (listed : ∀ rows, question.Answered live rows → Row.Names rows question.fields known)
    (plain : question.order = "") :
    Session.Comes catalogOf catalog
      (Dictionary.names executor ⟨none, name⟩ question.view question.fields)
      fun outcome => ∃ names, outcome = .ok names ∧ ∀ name, name ∈ names ↔ name ∈ known := by
  have asked := shows.tableRows_present question present
  rw [plain] at asked
  refine asked.bind fun rows answered => .ofExcept ?_
  obtain ⟨names, each, same⟩ := listed rows answered
  exact ⟨names, mapM_eq_ok_iff.mpr each, same⟩

theorem tableComment (shows : executor.Shows catalogOf) {live : LiveTable}
    (present : catalog name = some live) :
    Session.Comes catalogOf catalog (Dictionary.tableComment executor ⟨none, name⟩)
      fun outcome => ∃ comment, outcome = .ok comment ∧ comment = live.comment := by
  refine (shows.tableRows_present .tableComment present).bind fun rows answered => ?_
  obtain ⟨row, rfl, read⟩ := answered
  exact .ofExcept ⟨_, read, rfl⟩

theorem columnComments (shows : executor.Shows catalogOf) {live : LiveTable}
    (present : catalog name = some live) :
    Session.Comes catalogOf catalog (Dictionary.columnComments executor ⟨none, name⟩)
      fun outcome => ∃ comments : List (String × String), outcome = .ok comments ∧
        ∀ name comment, (name, comment) ∈ comments ↔ live.columnComment? name = some comment := by
  refine (shows.tableRows_present .columnComments present).bind fun rows answered => ?_
  obtain ⟨entries, each, known⟩ := answered
  have read : rows.mapM Dictionary.columnComment =
      .ok (entries.map fun entry => entry.2.map (entry.1, ·)) := by
    rw [mapM_eq_ok_iff, List.forall₂_map_right_iff]
    refine each.imp fun row entry ⟨column, comment⟩ => ?_
    refine bind_eq_ok.mpr ⟨_, comment, ?_⟩
    cases entry.2 with
    | none => rfl
    | some content => exact bind_eq_ok.mpr ⟨_, column, rfl⟩
  rw [read]
  refine Session.Comes.pure ⟨_, rfl, fun name comment => ?_⟩
  rw [← known name comment]
  simp

/-- Comments that are the same pairs are looked up alike. -/
theorem columnComment?_eq {live : LiveTable} {comments : List (String × String)}
    (known : ∀ name comment,
      (name, comment) ∈ comments ↔ live.columnComment? name = some comment) (name : String) :
    ((comments.find? fun entry => entry.1 == name).map Prod.snd) = live.columnComment? name := by
  cases found : comments.find? fun entry => entry.1 == name with
  | none =>
    cases recorded : live.columnComment? name with
    | none => rfl
    | some comment =>
      have absent := List.find?_eq_none.mp found _ ((known name comment).mpr recorded)
      exact absurd (beq_self_eq_true name) absent
  | some entry =>
    have same : entry.1 = name := by simpa using List.find?_some found
    exact ((known name entry.2).mp (same ▸ List.mem_of_find?_eq_some found)).symm

/-- An absent table is seen to be absent, and a present one is read. -/
theorem liveTable (shows : executor.Shows catalogOf) (commented : Bool)
    (fits : ∀ live, catalog name = some live → ∀ column ∈ live.columns, column.columnType.Fits) :
    Session.Comes catalogOf catalog (Dictionary.liveTable executor ⟨none, name⟩ commented)
      fun outcome => ∃ read, outcome = .ok read ∧
        Option.Rel (fun live read => live.ReadAs commented read) (catalog name) read := by
  have asked := shows.tableRows catalog .tables name
  unfold Dictionary.liveTable
  cases present : catalog name with
  | none =>
    rw [present] at asked
    have absent : Session.Comes catalogOf catalog (Dictionary.hasTable executor ⟨none, name⟩)
        fun outcome => ∃ has, outcome = .ok has ∧ has = false :=
      asked.bind fun rows none => .pure ⟨_, rfl, by rw [none]; rfl⟩
    refine absent.bind fun has none => ?_
    rw [none]
    exact .pure ⟨_, rfl, .none⟩
  | some live =>
    rw [present] at asked
    have there : Session.Comes catalogOf catalog (Dictionary.hasTable executor ⟨none, name⟩)
        fun outcome => ∃ has, outcome = .ok has ∧ has = true :=
      asked.bind fun rows some => .pure ⟨_, rfl, by simpa [Question.Answered] using some⟩
    refine there.bind fun has some => ?_
    rw [some]
    refine (shows.columns present (fits live present)).bind fun columns sameColumns => ?_
    refine (shows.names .indexes present (fun _ => id) rfl).bind fun indexes sameIndexes => ?_
    refine (shows.names .constraints present (fun _ => id) rfl).bind
      fun constraints sameConstraints => ?_
    cases commented with
    | false =>
      exact .pure ⟨_, rfl, .some ⟨sameColumns, sameIndexes, sameConstraints, nofun, nofun⟩⟩
    | true =>
      refine (shows.tableComment present).bind fun comment sameComment => ?_
      refine (shows.columnComments present).bind fun comments sameComments => ?_
      exact .pure ⟨_, rfl, .some ⟨sameColumns, sameIndexes, sameConstraints, fun _ => sameComment,
        fun _ => columnComment?_eq sameComments⟩⟩

end Executor.Shows

/-! ### Planning from a catalog -/

namespace LiveTable.ReadAs

variable {dialect : Dialect} {table : Table} {live read : LiveTable}

/-- Where a comment is declared, comments are read. -/
theorem ofColumn_eq (same : live.ReadAs table.hasComments read) {column : Column}
    (member : column ∈ table.columns) :
    Difference.ofColumn dialect table read column =
      Difference.ofColumn dialect table live column := by
  unfold Difference.ofColumn column?
  rw [same.columns]
  cases declared : column.comment with
  | none => rfl
  | some comment =>
    have commented : table.hasComments = true := by
      unfold Table.hasComments
      rw [List.any_eq_true.mpr ⟨column, member, by rw [declared]; rfl⟩, Bool.or_true]
    simp only [same.columnComment commented]

theorem ofTable_eq (same : live.ReadAs table.hasComments read) :
    Difference.ofTable dialect table read = Difference.ofTable dialect table live := by
  have columns : table.columns.mapM (Difference.ofColumn dialect table read) =
      table.columns.mapM (Difference.ofColumn dialect table live) :=
    mapM_congr fun column member => same.ofColumn_eq member
  have key : Difference.ofPrimaryKey dialect table read =
      Difference.ofPrimaryKey dialect table live := by
    unfold Difference.ofPrimaryKey
    simp only [List.contains_eq_mem, same.constraints]
  have indexes : Difference.ofIndex dialect table read = Difference.ofIndex dialect table live := by
    funext index
    unfold Difference.ofIndex
    simp only [List.contains_eq_mem, same.indexes]
  have comment : Difference.ofTableComment dialect table read =
      Difference.ofTableComment dialect table live := by
    unfold Difference.ofTableComment
    cases declared : table.comment with
    | none => rfl
    | some comment =>
      have commented : table.hasComments = true := by
        unfold Table.hasComments
        rw [declared]
        rfl
      rw [same.comment commented]
  unfold Difference.ofTable
  rw [columns, key, indexes, comment]

/-- A table is planned from what was read of it as from what is there. -/
theorem planTable_eq (same : live.ReadAs table.hasComments read) :
    dialect.planTable table (some read) = dialect.planTable table (some live) := by
  have keys : dialect.missingForeignKeys table (some read) =
      dialect.missingForeignKeys table (some live) := by
    unfold Dialect.missingForeignKeys
    have known : read.constraints.contains = live.constraints.contains := by
      funext name
      simp only [List.contains_eq_mem, same.constraints]
    simp only [known]
  unfold Dialect.planTable
  simp only [same.ofTable_eq, keys]

end LiveTable.ReadAs

/-- The plan for tables of which a catalog shows what is there. -/
def Dialect.planFrom (dialect : Dialect) (catalog : Catalog) (tables : List Table) :
    Except Error MigrationPlan := do
  tables.forM dialect.checkTable
  let parts ← tables.mapM fun table => do
    let stored ← dialect.storedTable table.name
    let plan ← dialect.planTable table (catalog stored.name)
    .ok (table, plan)
  .ok (.ofTables parts)

theorem LiveTable.fits_of_ite {here : Prop} [Decidable here] {live found : LiveTable}
    (fits : ∀ column ∈ live.columns, column.columnType.Fits)
    (shown : (if here then some live else none) = some found) :
    ∀ column ∈ found.columns, column.columnType.Fits := by
  obtain ⟨-, same⟩ := Option.ite_none_right_eq_some.mp shown
  exact Option.some.inj same ▸ fits

/-- Tables without an owner have types in range in a catalog that has no other ones. -/
theorem Catalog.fits_of_ownerless {dialect : Dialect} {catalog : Catalog} {tables : List Table}
    (owners : ∀ table ∈ tables,
      (dialect.storedTable table.name).map StoredTable.owner = .ok none)
    (fits : ∀ name live, catalog name = some live →
      ∀ column ∈ live.columns, column.columnType.Fits) :
    ∀ table ∈ tables, ∀ stored, dialect.storedTable table.name = .ok stored →
      stored.owner = none ∧ ∀ live, catalog stored.name = some live →
        ∀ column ∈ live.columns, column.columnType.Fits := by
  intro table member stored named
  have ownerless := owners table member
  rw [named] at ownerless
  exact ⟨Except.ok.inj ownerless, fits stored.name⟩

namespace Executor.Shows

variable {σ : Type} {executor : Executor σ} {catalogOf : σ → Catalog} {catalog : Catalog}

/-- Tables of the session's user are planned from the catalog that the dictionary shows. -/
theorem plan (shows : executor.Shows catalogOf) {tables : List Table}
    (ownerless : ∀ table ∈ tables, ∀ stored, executor.dialect.storedTable table.name = .ok stored →
      stored.owner = none ∧ ∀ live, catalog stored.name = some live →
        ∀ column ∈ live.columns, column.columnType.Fits) :
    Session.Comes catalogOf catalog (Migrator.plan executor tables)
      (· = executor.dialect.planFrom catalog tables) := by
  refine (Session.Comes.ofExcept rfl).bindEq fun _ _ => ?_
  refine (Session.Comes.mapM fun table member => ?_).bindEq fun parts _ => .pure rfl
  refine (Session.Comes.ofExcept rfl).bindEq fun stored found => ?_
  obtain ⟨alone, fits⟩ := ownerless table member stored found
  obtain ⟨owner, name⟩ := stored
  cases alone
  refine (shows.liveTable table.hasComments fits).bind fun read seen => ?_
  refine (Session.Comes.ofExcept ?_).bindEq fun plan _ => .pure rfl
  generalize catalog _ = entry at seen ⊢
  cases seen with
  | none => rfl
  | some same => exact same.planTable_eq

end Executor.Shows

end OracleSql
