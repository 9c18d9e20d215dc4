/-
This file takes a plan apart into what was seen and what was made of it. A plan asks the dictionary
about one table after the other; a survey asks the same questions and keeps the answers. A plan that
comes out is worked out, without further questions, from what the survey saw: each table is planned
for by itself, and the parts are put together.
-/

import OracleSql.Migration.Migrator
import OracleSql.Proofs.Outcome
import OracleSql.Proofs.Session.Perform

namespace OracleSql

/-! ### Sessions that succeed -/

namespace Session

variable {σ α β : Type}

theorem perform_ofExcept_eq_ok {outcome : Except Error α} {state after : σ} {result : α} :
    (ofExcept outcome).perform state = (.ok result, after) ↔
      outcome = .ok result ∧ after = state := by
  rw [perform_ofExcept, Prod.mk.injEq, eq_comm (a := state)]

theorem perform_pure_eq_ok {state after : σ} {result other : α} :
    (pure other : Session σ α).perform state = (.ok result, after) ↔
      result = other ∧ after = state := by
  rw [perform_pure, Prod.mk.injEq, Except.ok.injEq, eq_comm (a := other), eq_comm (a := state)]

/-- A traversal succeeds where its first item does and the others do from where it left off. -/
theorem perform_mapM_cons_eq_ok {body : α → Session σ β} {item : α} {rest : List α}
    {state after : σ} {results : List β} :
    ((item :: rest).mapM body).perform state = (.ok results, after) ↔
      ∃ first middle others, (body item).perform state = (.ok first, middle) ∧
        (rest.mapM body).perform middle = (.ok others, after) ∧ results = first :: others := by
  rw [List.mapM_cons]
  constructor
  · intro done
    obtain ⟨first, middle, came, done⟩ := perform_bind_eq_ok.mp done
    obtain ⟨others, _, later, ends⟩ := perform_bind_eq_ok.mp done
    obtain ⟨rfl, rfl⟩ := perform_pure_eq_ok.mp ends
    exact ⟨first, middle, others, came, later, rfl⟩
  · rintro ⟨first, middle, others, came, later, rfl⟩
    refine perform_bind_eq_ok.mpr ⟨first, middle, came, ?_⟩
    exact perform_bind_eq_ok.mpr ⟨others, after, later, rfl⟩

end Session

/-! ### Surveys -/

/-- A declared table with what the dictionary shows of it. -/
abbrev Sight := Table × Option LiveTable

namespace Migrator

variable {σ : Type} {executor : Executor σ} {tables : List Table} {state after : σ}

/-- Looks a table up in the dictionary. -/
def surveyTable (executor : Executor σ) (table : Table) : Session σ Sight := do
  let stored ← Session.ofExcept (executor.dialect.storedTable table.name)
  return (table, ← Dictionary.liveTable executor stored table.hasComments)

/-- Looks tables up in the dictionary. -/
def survey (executor : Executor σ) (tables : List Table) : Session σ (List Sight) :=
  tables.mapM (surveyTable executor)

/-- A table is planned for by what is seen of it. -/
theorem planTable_eq_ok {table : Table} {part : Table × TablePlan}
    (planned : (planTable executor table).perform state = (.ok part, after)) :
    ∃ live, (surveyTable executor table).perform state = (.ok (table, live), after) ∧
      part.1 = table ∧ executor.dialect.planTable table live = .ok part.2 := by
  obtain ⟨stored, _, named, planned⟩ := Session.perform_bind_eq_ok.mp planned
  obtain ⟨live, middle, read, planned⟩ := Session.perform_bind_eq_ok.mp planned
  obtain ⟨plan, _, made, ends⟩ := Session.perform_bind_eq_ok.mp planned
  obtain ⟨fits, rfl⟩ := Session.perform_ofExcept_eq_ok.mp made
  obtain ⟨rfl, rfl⟩ := Session.perform_pure_eq_ok.mp ends
  refine ⟨live, ?_, rfl, fits⟩
  refine Session.perform_bind_eq_ok.mpr ⟨stored, _, named, ?_⟩
  exact Session.perform_bind_eq_ok.mpr ⟨live, _, read, rfl⟩

/-- Tables are planned for one by one, by what is seen of them. -/
theorem mapM_planTable_eq_ok {parts : List (Table × TablePlan)}
    (planned : (tables.mapM (planTable executor)).perform state = (.ok parts, after)) :
    ∃ seen, (survey executor tables).perform state = (.ok seen, after) ∧
      seen.map Prod.fst = tables ∧
      List.Forall₂ (fun sight part => part.1 = sight.1 ∧
        executor.dialect.planTable sight.1 sight.2 = .ok part.2) seen parts := by
  induction tables generalizing state parts with
  | nil =>
    obtain ⟨rfl, rfl⟩ := Session.perform_pure_eq_ok.mp planned
    exact ⟨[], rfl, rfl, .nil⟩
  | cons table rest inductionHypothesis =>
    obtain ⟨part, middle, others, first, later, rfl⟩ := Session.perform_mapM_cons_eq_ok.mp planned
    obtain ⟨live, looked, same, fits⟩ := planTable_eq_ok first
    obtain ⟨seen, surveyed, names, each⟩ := inductionHypothesis later
    refine ⟨(table, live) :: seen, ?_, congrArg _ names, .cons ⟨same, fits⟩ each⟩
    exact Session.perform_mapM_cons_eq_ok.mpr ⟨_, middle, seen, looked, surveyed, rfl⟩

end Migrator

/-- The parts of a plan, each a table with what is seen of it and what is planned for it. -/
structure MigrationPlan.Made (dialect : Dialect) (plan : MigrationPlan)
    (parts : List (Sight × TablePlan)) : Prop where
  checked : ∀ part ∈ parts, dialect.checkTable part.1.1 = .ok ()
  planned : ∀ part ∈ parts, dialect.planTable part.1.1 part.1.2 = .ok part.2
  steps : plan.steps = parts.flatMap (·.2.difference.steps) ++ parts.flatMap (·.2.foreignKeys)
  skipped : plan.skipped = parts.flatMap (·.2.difference.skipped)

/-- A plan that comes out is made of what a survey sees, of tables that were accepted. -/
theorem Migrator.plan_eq_ok {σ : Type} {executor : Executor σ} {tables : List Table}
    {state after : σ} {plan : MigrationPlan}
    (planned : (Migrator.plan executor tables).perform state = (.ok plan, after)) :
    ∃ parts : List (Sight × TablePlan),
      (survey executor tables).perform state = (.ok (parts.map Prod.fst), after) ∧
        parts.map (·.1.1) = tables ∧ plan.Made executor.dialect parts := by
  obtain ⟨_, _, accepted, asked⟩ := Session.perform_bind_eq_ok.mp planned
  obtain ⟨checked, rfl⟩ := Session.perform_ofExcept_eq_ok.mp accepted
  obtain ⟨parts, _, made, ends⟩ := Session.perform_bind_eq_ok.mp asked
  obtain ⟨rfl, rfl⟩ := Session.perform_pure_eq_ok.mp ends
  obtain ⟨seen, surveyed, names, each⟩ := mapM_planTable_eq_ok made
  obtain ⟨pairs, rfl, rfl, fits⟩ := exists_pairs_of_forall₂ each
  refine ⟨pairs.map fun pair => (pair.1, pair.2.2), ?_, ?_, ?_⟩
  · rw [List.map_map]
    exact surveyed
  · rw [List.map_map] at names ⊢
    exact names
  · refine ⟨List.forall_mem_map.mpr fun pair member => ?_,
      List.forall_mem_map.mpr fun pair member => (fits pair member).2, ?_, ?_⟩
    · refine forM_eq_ok_iff.mp checked _ ?_
      rw [← names, List.map_map]
      exact List.mem_map_of_mem (f := fun pair => pair.1.1) member
    · simp [MigrationPlan.ofTables, List.flatMap_map]
    · simp [MigrationPlan.ofTables, List.flatMap_map]

end OracleSql
