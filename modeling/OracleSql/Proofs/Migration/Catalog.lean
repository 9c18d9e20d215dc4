/-
This file says what the dictionary shows while a plan of absent tables is carried out. The catalog
has a live table for each stored name that is in use; a definition changes the entry of the table it
belongs to, and no other one. A plan that was stopped somewhere has been stopped for each of its
tables: `Halted` is a table with what was done for it and what is left, and since foreign keys come
last of all, none of them is there before its table is finished.
-/

import OracleSql.Migration.Migrator
import OracleSql.Proofs.Migration.Effect

namespace OracleSql

/-! ### Catalogs -/

/-- A table right after its creation: its columns and its primary key, and nothing else. -/
def LiveTable.created (dialect : Dialect) (table : Table) : LiveTable :=
  ({} : LiveTable).afterAll dialect (table.columns.map (.addColumn table) ++
    table.primaryKey.toList.map (.addPrimaryKey table.name))

/-- The tables of the session's user, by their stored names. -/
abbrev Catalog := String → Option LiveTable

namespace Catalog

/-- What there is under a stored name after a definition has taken effect. -/
def entryAfter (dialect : Dialect) (name : String) (entry : Option LiveTable)
    (definition : Definition) : Option LiveTable :=
  if dialect.stored definition.table = .ok name then
    match definition with
    | .createTable table => some (.created dialect table)
    | _ => entry.map (·.after dialect definition)
  else entry

/-- The catalog after a definition has taken effect. -/
def after (dialect : Dialect) (catalog : Catalog) (definition : Definition) : Catalog :=
  fun name => entryAfter dialect name (catalog name) definition

/-- The catalog after definitions have taken effect, one after the other. -/
def afterAll (dialect : Dialect) (catalog : Catalog) (definitions : List Definition) : Catalog :=
  definitions.foldl (after dialect) catalog

variable {dialect : Dialect} {name : String} {entry : Option LiveTable} {definition : Definition}
  {definitions : List Definition}

theorem afterAll_apply (catalog : Catalog) (definitions : List Definition) (name : String) :
    catalog.afterAll dialect definitions name =
      definitions.foldl (entryAfter dialect name) (catalog name) := by
  induction definitions generalizing catalog with
  | nil => rfl
  | cons definition rest inductionHypothesis => exact inductionHypothesis _

theorem entryAfter_other (differs : dialect.stored definition.table ≠ .ok name) :
    entryAfter dialect name entry definition = entry :=
  if_neg differs

theorem entryAfter_own (own : dialect.stored definition.table = .ok name)
    (other : ∀ table, definition ≠ .createTable table) :
    entryAfter dialect name entry definition = entry.map (·.after dialect definition) := by
  unfold entryAfter
  rw [if_pos own]
  cases definition with
  | createTable table => exact absurd rfl (other table)
  | _ => rfl

theorem entryAfter_created {table : Table} (own : dialect.stored table.name = .ok name) :
    entryAfter dialect name entry (.createTable table) = some (.created dialect table) :=
  if_pos own

/-- Definitions that belong to other tables change nothing under a name. -/
theorem foldl_entryAfter_others
    (others : ∀ definition ∈ definitions, dialect.stored definition.table ≠ .ok name)
    (entry : Option LiveTable) : definitions.foldl (entryAfter dialect name) entry = entry := by
  induction definitions generalizing entry with
  | nil => rfl
  | cons definition rest inductionHypothesis =>
    obtain ⟨first, others⟩ := List.forall_mem_cons.mp others
    rw [List.foldl_cons, entryAfter_other first, inductionHypothesis others]

/-- Definitions that belong to a table, apart from its creation, change it if it is there. -/
theorem foldl_entryAfter_own
    (own : ∀ definition ∈ definitions, dialect.stored definition.table = .ok name)
    (created : ∀ table, .createTable table ∉ definitions) (entry : Option LiveTable) :
    definitions.foldl (entryAfter dialect name) entry =
      entry.map (·.afterAll dialect definitions) := by
  induction definitions generalizing entry with
  | nil => cases entry <;> rfl
  | cons definition rest inductionHypothesis =>
    obtain ⟨first, others⟩ := List.forall_mem_cons.mp own
    have notCreated (table : Table) : definition ≠ .createTable table := by
      rintro rfl
      exact created table List.mem_cons_self
    rw [List.foldl_cons, entryAfter_own first notCreated,
      inductionHypothesis others fun table member =>
        created table (List.mem_cons_of_mem _ member)]
    cases entry <;> rfl

end Catalog

/-! ### Plans that were stopped -/

/-- A beginning of lists in a row is a beginning of each of them. -/
theorem exists_parts_of_flatMap {α β : Type} {members : α → List β} (items : List α)
    {front back : List β} (split : items.flatMap members = front ++ back) :
    ∃ parts : List (α × List β × List β), parts.map Prod.fst = items ∧
      (∀ part ∈ parts, members part.1 = part.2.1 ++ part.2.2) ∧
      front = parts.flatMap (·.2.1) ∧ back = parts.flatMap (·.2.2) := by
  induction items generalizing front with
  | nil =>
    obtain ⟨rfl, rfl⟩ := List.append_eq_nil_iff.mp split.symm
    exact ⟨[], rfl, fun part member => absurd member List.not_mem_nil, rfl, rfl⟩
  | cons item rest inductionHypothesis =>
    rw [List.flatMap_cons] at split
    rcases List.append_eq_append_iff.mp split with ⟨middle, rfl, others⟩ | ⟨middle, first, rfl⟩
    · obtain ⟨parts, rfl, each, rfl, rfl⟩ := inductionHypothesis others
      refine ⟨(item, members item, []) :: parts, rfl, ?_, rfl, rfl⟩
      exact List.forall_mem_cons.mpr ⟨(List.append_nil _).symm, each⟩
    · refine ⟨(item, front, middle) :: rest.map fun other => (other, [], members other), ?_, ?_,
        ?_, ?_⟩
      · simp [Function.comp_def]
      · refine List.forall_mem_cons.mpr ⟨first, fun part member => ?_⟩
        obtain ⟨other, _, rfl⟩ := List.mem_map.mp member
        rfl
      · simp [List.flatMap_map]
      · simp [List.flatMap_map]

/-- The definitions of the foreign keys of a table. -/
def Table.foreignKeyDefinitions (table : Table) : List Definition :=
  table.foreignKeys.map (.addForeignKey table)

/-- A table in a plan that was stopped. -/
structure Halted where
  table : Table
  /-- What was done, but for foreign keys. -/
  made : List Definition
  left : List Definition
  keysMade : List Definition
  keysLeft : List Definition

/-- What was done for a table and what is left are what the table asks for, in this order. -/
structure Halted.Of (dialect : Dialect) (halted : Halted) : Prop where
  definitions : dialect.tableDefinitions halted.table = halted.made ++ halted.left
  keys : halted.table.foreignKeyDefinitions = halted.keysMade ++ halted.keysLeft
  last : halted.keysMade = [] ∨ halted.left = []

/-- A plan that was stopped has been stopped for each of its tables. -/
theorem exists_halted {dialect : Dialect} (tables : List Table) {done rest : List Definition}
    (split : tables.flatMap dialect.tableDefinitions ++
      tables.flatMap Table.foreignKeyDefinitions = done ++ rest) :
    ∃ parts : List Halted, parts.map Halted.table = tables ∧ (∀ part ∈ parts, part.Of dialect) ∧
      done = parts.flatMap Halted.made ++ parts.flatMap Halted.keysMade ∧
      rest = parts.flatMap Halted.left ++ parts.flatMap Halted.keysLeft := by
  rcases List.append_eq_append_iff.mp split with ⟨later, rfl, keys⟩ | ⟨later, tablesSplit, rfl⟩
  · -- all tables are finished
    obtain ⟨parts, rfl, each, rfl, rfl⟩ := exists_parts_of_flatMap tables keys
    refine ⟨parts.map fun part =>
      ⟨part.1, dialect.tableDefinitions part.1, [], part.2.1, part.2.2⟩, ?_, ?_, ?_, ?_⟩
    · simp [Function.comp_def]
    · intro halted member
      obtain ⟨part, inside, rfl⟩ := List.mem_map.mp member
      exact ⟨(List.append_nil _).symm, each part inside, Or.inr rfl⟩
    · simp [List.flatMap_map]
    · simp [List.flatMap_map]
  · -- no foreign key is there yet
    obtain ⟨parts, rfl, each, rfl, rfl⟩ := exists_parts_of_flatMap tables tablesSplit
    refine ⟨parts.map fun part =>
      ⟨part.1, part.2.1, part.2.2, [], part.1.foreignKeyDefinitions⟩, ?_, ?_, ?_, ?_⟩
    · simp [Function.comp_def]
    · intro halted member
      obtain ⟨part, inside, rfl⟩ := List.mem_map.mp member
      exact ⟨each part inside, rfl, Or.inl rfl⟩
    · simp [List.flatMap_map]
    · simp [List.flatMap_map]

end OracleSql
