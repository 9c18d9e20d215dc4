/-
This file says what views are made of. The query of a view is looked through for native markers, and
for question marks wherever they stand; if it has neither, the statement that makes the view is
sent, else nothing is. The `@name` markers are not looked for. So the query of a view that is sent
consists of text and such markers, and one that has them is sent like any other.
-/

import OracleSql.Proofs.Migration.Answering
import OracleSql.Proofs.Migration.Defining

namespace OracleSql

variable {σ α : Type}

/-! ### Queries -/

namespace Marker

/-- What is taken for the query of a view: it can be read, it has no native marker, and no question
mark stands anywhere in it. -/
def FitsView (query : String) : Prop :=
  nativeNames query = .ok [] ∧ '?' ∉ query.toList

/-- The query of a view consists of text and of `@name` markers. -/
theorem FitsView.exists_lexemes {query : String} (fits : FitsView query) :
    ∃ found, lexemes query = .ok found ∧
      ∀ lexeme ∈ found, (∃ written, lexeme = .text written) ∨ ∃ name, lexeme = .named name := by
  obtain ⟨unbound, unmarked⟩ := fits
  obtain ⟨found, read, none⟩ := map_eq_ok.mp unbound
  refine ⟨found, read, fun lexeme member => ?_⟩
  cases lexeme with
  | text written => exact .inl ⟨written, rfl⟩
  | named name => exact .inr ⟨name, rfl⟩
  | native name => cases List.filterMap_eq_nil_iff.mp none _ member
  | positional =>
    refine absurd ?_ unmarked
    rw [← flatMap_written_of_ok read]
    exact List.mem_flatMap.mpr ⟨_, member, List.mem_singleton_self _⟩

end Marker

/-! ### Steps that are alone -/

/-- A step that is alone is in effect in the end, or it is what the end is due to. -/
theorem Applied.single {executor : Executor σ} {step : MigrationStep} {result : List SentStep → α}
    {outcome : Except Error α} {calls : List Entry}
    (applied : Applied executor [step] result outcome calls) :
    (∃ ending, outcome = .ok (result [(step, ending)]) ∧ calls = [SentStep.entry (step, ending)]) ∨
      ∃ error, outcome = .error error ∧ step.Stops executor error calls := by
  cases applied with
  | finished sent all settled =>
    obtain ⟨⟨first, ending⟩, rfl, rfl⟩ := List.map_eq_singleton_iff.mp all
    exact .inl ⟨ending, rfl, rfl⟩
  | stopped sent first settled stops =>
    cases sent with
    | nil =>
      obtain ⟨rfl, rfl⟩ := List.cons.inj first
      exact .inr ⟨_, rfl, stops⟩
    | cons head others => cases others <;> cases first

/-- A step that stops a migration was sent by its own call, if it was sent. -/
theorem MigrationStep.Stops.act_of_mem {step : MigrationStep} {executor : Executor σ}
    {error : Error} {calls : List Entry} (stops : step.Stops executor error calls) :
    ∀ call ∈ calls, call.act = step.act ∨ call.act = .invalidate := by
  cases stops <;> simp [Entry.invalidation]

namespace Migrator

variable (executor : Executor σ)

/-- Definitions are not sent unless all of them can be written. -/
theorem define_tells (definitions : List Definition) :
    Tells (define executor definitions) (define executor.recorded definitions)
      fun outcome calls =>
        match executor.dialect.steps definitions with
        | .ok steps => Applied executor steps SentStep.report outcome calls
        | .error error => outcome = .error error ∧ calls = [] := by
  have same : executor.recorded.dialect = executor.dialect := rfl
  unfold define
  rw [same]
  cases executor.dialect.steps definitions with
  | error error => exact Tells.throw ⟨rfl, rfl⟩
  | ok steps => exact apply_tells executor steps

/-- A single definition is sent in one call, or what comes of it is an error. -/
theorem define_single_tells (definition : Definition) :
    Tells (define executor [definition]) (define executor.recorded [definition])
      fun outcome calls =>
        (∀ call ∈ statementCalls calls, ∃ sql,
          definition.sql executor.dialect = .ok sql ∧ call.act = .execute sql .none) ∧
        (statementCalls calls = [] →
          (∃ error, outcome = .error error) ∧ ∀ call ∈ calls, call.act = .invalidate) := by
  refine (define_tells executor [definition]).mono fun outcome calls told => ?_
  rw [Dialect.steps_singleton] at told
  cases written : definition.sql executor.dialect with
  | error error =>
    rw [written] at told
    obtain ⟨rfl, rfl⟩ := told
    exact ⟨List.forall_mem_nil _, fun _ => ⟨⟨error, rfl⟩, List.forall_mem_nil _⟩⟩
  | ok sql =>
    rw [written] at told
    rcases Applied.single told with ⟨ending, rfl, rfl⟩ | ⟨error, rfl, stops⟩
    · refine ⟨fun call member => ⟨sql, rfl, ?_⟩, fun none => by cases none⟩
      rw [List.mem_singleton.mp (List.mem_of_mem_filter member)]
      rfl
    · refine ⟨fun call member => ⟨sql, rfl, ?_⟩, fun none => ⟨⟨error, rfl⟩, fun call member => ?_⟩⟩
      · obtain ⟨inside, sent⟩ := List.mem_filter.mp member
        refine (stops.act_of_mem call inside).resolve_right fun marked => ?_
        rw [marked] at sent
        cases sent
      · refine (stops.act_of_mem call member).resolve_left fun own => ?_
        refine List.filter_eq_nil_iff.mp none call member ?_
        rw [own]
        rfl

/-- A definition that can be written is sent, if its call is answered in time. -/
theorem define_sends {definition : Definition} {sql : String} {state : σ}
    (written : definition.sql executor.dialect = .ok sql)
    (valid : executor.connection.isValid state = true)
    (inTime : executor.InTime (executor.connection.execute sql .none) state) :
    ((define executor.recorded [definition]).perform (state, [])).2.2.map Entry.act =
      [.execute sql .none] := by
  have recordedInTime :
      executor.recorded.InTime (executor.recorded.connection.execute sql .none) (state, []) :=
    inTime
  have answered := Executor.perform_guarded recordedInTime
  rw [perform_define, show definition.sql executor.recorded.dialect = .ok sql from written]
  dsimp only
  have validity : executor.recorded.connection.isValid (state, []) = true := valid
  rw [perform_runStep executor.recorded ⟨definition, sql⟩ validity]
  exact congrArg (fun came => came.2.2.map Entry.act) answered

/-! ### Views -/

/-- The check of a query, whatever becomes of the view. -/
def checkView (query : String) : Except Error Unit := do
  let markers ← Error.ofLexemes (Marker.nativeNames query)
  if !markers.isEmpty || query.toList.contains '?' then .error (.statement .boundView {})
  else .ok ()

theorem checkView_eq_ok_iff {query : String} :
    checkView query = .ok () ↔ Marker.FitsView query := by
  unfold checkView Marker.FitsView
  cases Marker.nativeNames query with
  | error opened => exact ⟨nofun, nofun⟩
  | ok markers =>
    show (if !markers.isEmpty || query.toList.contains '?' then _ else _) = _ ↔ _
    cases markers <;> simp

theorem createView_eq (name query : String) (replace : Bool) :
    createView executor name query replace =
      Session.ofExcept (checkView query) >>= fun _ =>
        define executor [.createView name query replace] := by
  unfold createView checkView
  cases Marker.nativeNames query with
  | error opened => rfl
  | ok markers =>
    show (if !markers.isEmpty || query.toList.contains '?' then _ else _ : Session σ _) =
      Session.ofExcept (if !markers.isEmpty || query.toList.contains '?' then _ else _) >>= _
    split <;> rfl


theorem perform_createView_refused (name : String) {query : String} (replace : Bool) {error : Error}
    (refused : checkView query = .error error) (state : σ) :
    (createView executor name query replace).perform state = (.error error, state) := by
  rw [createView_eq, refused, Session.perform_bind, Session.perform_ofExcept]

theorem createView_of_fits (name : String) {query : String} (replace : Bool)
    (fits : Marker.FitsView query) :
    createView executor name query replace =
      define executor [.createView name query replace] := by
  rw [createView_eq, checkView_eq_ok_iff.mpr fits]
  rfl

/-- A view is made by one statement, and the query of a view that is sent consists of text and of
`@name` markers. A creation that sends nothing fails, and one that is refused for its query leaves
all as it was. A query that is not refused is sent, whether it has `@name` markers or not. -/
theorem createView_sends (name query : String) (replace : Bool) (state : σ) :
    let definition := Definition.createView name query replace
    let ran := (createView executor name query replace).perform state
    ∃ calls,
      (createView executor.recorded name query replace).perform (state, []) =
        (ran.1, ran.2, calls) ∧
      (∀ call ∈ statementCalls calls, ∃ sql found,
        definition.sql executor.dialect = .ok sql ∧ call.act = .execute sql .none ∧
        Marker.lexemes query = .ok found ∧
        ∀ lexeme ∈ found, (∃ written, lexeme = .text written) ∨ ∃ named, lexeme = .named named) ∧
      (statementCalls calls = [] →
        (∃ error, ran.1 = .error error) ∧ ∀ call ∈ calls, call.act = .invalidate) ∧
      (¬ Marker.FitsView query → ran.2 = state ∧ calls = []) ∧
      ∀ sql, Marker.FitsView query → definition.sql executor.dialect = .ok sql →
        executor.connection.isValid state = true →
        executor.InTime (executor.connection.execute sql .none) state →
        calls.map Entry.act = [.execute sql .none] := by
  intro definition ran
  by_cases fits : Marker.FitsView query
  · obtain ⟨found, read, unbound⟩ := fits.exists_lexemes
    obtain ⟨calls, same, sent, unsent⟩ := define_single_tells executor definition state []
    have made := createView_of_fits executor name replace fits
    have noted := createView_of_fits executor.recorded name replace fits
    rw [← made] at same unsent
    rw [← noted] at same
    refine ⟨calls, same, fun call member => ?_, unsent, fun unfit => absurd fits unfit, ?_⟩
    · obtain ⟨sql, written, own⟩ := sent call member
      exact ⟨sql, found, written, own, read, unbound⟩
    · intro sql _ written valid inTime
      have sent := define_sends executor written valid inTime
      rw [← noted, same] at sent
      exact sent
  · cases refused : checkView query with
    | ok _ => exact absurd (checkView_eq_ok_iff.mp refused) fits
    | error error =>
      have failed := perform_createView_refused executor name replace refused state
      have noted := perform_createView_refused executor.recorded name replace refused (state, [])
      have came : ran = (.error error, state) := failed
      rw [came, noted]
      exact ⟨[], rfl, List.forall_mem_nil _, fun _ => ⟨⟨error, rfl⟩, List.forall_mem_nil _⟩,
        fun _ => ⟨rfl, rfl⟩, fun _ fit => absurd fit fits⟩

/-- A database that keeps nothing. -/
def forgetfulExecutor : Executor Unit where
  dialect := {}
  connection := .ofCatalog (fun _ _ => none) .numbered

/-- The view of a query with an `@name` marker is sent, and it is made. -/
theorem createView_sends_marker :
    (createView forgetfulExecutor.recorded "v" "SELECT * FROM t WHERE a = @x" true).perform
        ((), []) =
      (.ok { executed :=
          ["CREATE OR REPLACE VIEW \"V\" AS SELECT * FROM t WHERE a = @x"] }, (),
        [⟨.execute "CREATE OR REPLACE VIEW \"V\" AS SELECT * FROM t WHERE a = @x" .none,
          .succeeded {}⟩]) ∧
      ∃ found, Marker.lexemes "SELECT * FROM t WHERE a = @x" = .ok found ∧
        .named ['x'] ∈ found := by
  have marked : (Marker.lexemes "SELECT * FROM t WHERE a = @x").map
      (·.contains (.named ['x'])) = .ok true := by
    decide +kernel
  obtain ⟨found, read, member⟩ := map_eq_ok.mp marked
  exact ⟨by decide +kernel, found, read, List.contains_iff_mem.mp member⟩

end Migrator

end OracleSql
