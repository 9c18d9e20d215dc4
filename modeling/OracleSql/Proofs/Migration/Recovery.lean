/-
This file is about plans that were stopped. Tables that are all absent are planned, and the plan is
carried out up to any place. Planning again then yields what was left, and besides it nothing but
sequences: a table that was not yet created is planned anew with the sequences of its columns, and
one that was created gets what is missing of it. After the whole plan nothing is planned any more.
-/

import OracleSql.Proofs.Migration.Answering
import OracleSql.Proofs.Migration.Replanning
import Mathlib.Data.List.Perm.Basic

namespace OracleSql

/-! ### What is left of a list -/

/-- Without its beginning, a list without repetitions is what comes after it. -/
theorem filter_notMem_front {α : Type} [DecidableEq α] {front back : List α}
    (nodup : (front ++ back).Nodup) : (front ++ back).filter (· ∉ front) = back := by
  have apart := List.disjoint_of_nodup_append nodup
  rw [List.filter_append, List.filter_eq_nil_iff.mpr fun item member => by simp [member],
    List.filter_eq_self.mpr fun item member => by simpa using fun also => apart also member,
    List.nil_append]

namespace Table.NamesApart

variable {dialect : Dialect} {table : Table}

/-- Nothing that completes a table is asked for twice. -/
theorem nodup_furnishings (apart : table.NamesApart dialect) : table.furnishings.Nodup := by
  have columnsApart := apart.columns.nodup
  rw [List.map_map] at columnsApart
  have indexesApart := (List.nodup_append.mp apart.indexes.nodup).2.1.of_map
  have comments : (table.columns.flatMap (·.commentDefinitions table.name)).Nodup := by
    refine List.nodup_flatMap.mpr ⟨fun column _ => ?_, ?_⟩
    · cases declared : column.comment <;> simp [Column.commentDefinitions, declared]
    · refine (List.pairwise_map.mp columnsApart).imp fun {first second} differs => ?_
      intro definition one other
      obtain ⟨_, _, rfl⟩ := mem_commentDefinitions.mp one
      obtain ⟨_, _, same⟩ := mem_commentDefinitions.mp other
      injection same with _ names _
      exact differs (congrArg dialect.stored names)
  have ofColumns {definition : Definition}
      (member : definition ∈ table.columns.flatMap (·.commentDefinitions table.name)) :
      ∃ column comment, definition = .commentColumn table.name column comment := by
    obtain ⟨column, _, made⟩ := List.mem_flatMap.mp member
    obtain ⟨comment, _, rfl⟩ := mem_commentDefinitions.mp made
    exact ⟨_, _, rfl⟩
  refine List.nodup_append'.mpr ⟨?_, List.nodup_append'.mpr ⟨?_, comments, ?_⟩, ?_⟩
  · exact indexesApart.map fun first second same => by injection same
  · cases table.comment <;> simp
  · intro definition ofTable other
    obtain ⟨_, _, rfl⟩ := List.mem_map.mp ofTable
    obtain ⟨_, _, impossible⟩ := ofColumns other
    cases impossible
  · intro definition ofIndex other
    obtain ⟨_, _, rfl⟩ := List.mem_map.mp ofIndex
    rcases List.mem_append.mp other with ofTable | other
    · obtain ⟨_, _, impossible⟩ := List.mem_map.mp ofTable
      cases impossible
    · obtain ⟨_, _, impossible⟩ := ofColumns other
      cases impossible

/-- No foreign key is asked for twice. -/
theorem nodup_foreignKeyDefinitions (apart : table.NamesApart dialect) :
    table.foreignKeyDefinitions.Nodup :=
  (List.nodup_append.mp apart.constraints.nodup).2.1.of_map.map fun first second same => by
    injection same

end Table.NamesApart

/-! ### What a table asks for -/

theorem Column.mem_sequenceDefinitions {column : Column} {name : String} {definition : Definition} :
    definition ∈ column.sequenceDefinitions name ↔
      column.identity = true ∧ definition = .createSequence name column.name := by
  simp [sequenceDefinitions]

namespace Table

variable {dialect : Dialect} {table : Table} {definition : Definition}

theorem exists_of_mem_sequences (member : definition ∈ table.sequences) :
    ∃ column, definition = .createSequence table.name column := by
  obtain ⟨column, _, made⟩ := List.mem_flatMap.mp member
  exact ⟨_, (Column.mem_sequenceDefinitions.mp made).2⟩

/-- What completes a table belongs to it and creates no table. -/
theorem table_of_mem_furnishings (member : definition ∈ table.furnishings) :
    definition.table = table.name ∧ ∀ other, definition ≠ .createTable other := by
  rcases mem_furnishings.mp member with ⟨_, _, rfl⟩ | ⟨_, _, rfl⟩ | ⟨_, _, _, _, rfl⟩ <;>
    exact ⟨rfl, nofun⟩

/-- A foreign key belongs to its table and creates none. -/
theorem table_of_mem_foreignKeyDefinitions (member : definition ∈ table.foreignKeyDefinitions) :
    definition.table = table.name ∧ ∀ other, definition ≠ .createTable other := by
  obtain ⟨_, _, rfl⟩ := List.mem_map.mp member
  exact ⟨rfl, nofun⟩

/-- All that a table asks for belongs to it. -/
theorem table_of_mem_tableDefinitions (identity : dialect.identity = .sequenceDefault)
    (member : definition ∈ dialect.tableDefinitions table) : definition.table = table.name := by
  rw [tableDefinitions_eq identity] at member
  rcases List.mem_append.mp member with sequence | member
  · obtain ⟨_, rfl⟩ := exists_of_mem_sequences sequence
    rfl
  · rcases List.mem_cons.mp member with rfl | furnishing
    · rfl
    · exact (table_of_mem_furnishings furnishing).1

/-- Sequences for an absent table leave it absent. -/
theorem foldl_entryAfter_sequences {name : String} (stored : dialect.stored table.name = .ok name)
    {some : List Definition} (made : some ⊆ table.sequences) :
    some.foldl (Catalog.entryAfter dialect name) none = none := by
  refine Catalog.foldl_entryAfter_own (fun definition member => ?_) (fun other member => ?_) none
  · obtain ⟨_, rfl⟩ := exists_of_mem_sequences (made member)
    exact stored
  · obtain ⟨_, impossible⟩ := exists_of_mem_sequences (made member)
    cases impossible

/-- Once a table was created, it is there with all that was made for it. -/
theorem Unfinished.foldl_entryAfter {done keys : List Definition} {name : String}
    (unfinished : table.Unfinished dialect done keys)
    (stored : dialect.stored table.name = .ok name) :
    ((table.sequences ++ .createTable table :: done) ++ keys).foldl
        (Catalog.entryAfter dialect name) none = some (live dialect table done keys) := by
  have own : ∀ definition ∈ done ++ keys, definition.table = table.name ∧
      ∀ other, definition ≠ .createTable other := by
    intro definition member
    rcases List.mem_append.mp member with inside | inside
    · exact table_of_mem_furnishings (unfinished.done inside)
    · exact table_of_mem_foreignKeyDefinitions (unfinished.keys inside)
  rw [List.append_assoc, List.foldl_append,
    foldl_entryAfter_sequences stored (List.Subset.refl _), List.cons_append, List.foldl_cons,
    Catalog.entryAfter_created stored, Catalog.foldl_entryAfter_own]
  · rfl
  · intro definition member
    rw [(own definition member).1, stored]
  · exact fun other member => (own _ member).2 other rfl

end Table

/-! ### A table in a plan that was stopped -/

namespace Halted

variable {dialect : Dialect} {halted : Halted}

/-- Either the table is absent, with nothing made but sequences of its columns, or it was created
and lacks what is left. -/
theorem Of.absent_or_created (identity : dialect.identity = .sequenceDefault)
    (of : halted.Of dialect) :
    (halted.keysMade = [] ∧ halted.left ≠ [] ∧ halted.made ⊆ halted.table.sequences) ∨
    ∃ done, halted.made = halted.table.sequences ++ .createTable halted.table :: done ∧
      halted.table.furnishings = done ++ halted.left := by
  have split := of.definitions
  rw [Table.tableDefinitions_eq identity] at split
  have absent (some : halted.left ≠ []) (made : halted.made ⊆ halted.table.sequences) :
      halted.keysMade = [] ∧ halted.left ≠ [] ∧ halted.made ⊆ halted.table.sequences :=
    ⟨of.last.resolve_right some, some, made⟩
  rcases List.append_eq_append_iff.mp split with ⟨more, made, later⟩ | ⟨more, earlier, left⟩
  · cases more with
    | nil =>
      refine Or.inl (absent (fun none => ?_) ?_)
      · rw [none] at later
        cases later
      · rw [made, List.append_nil]
        exact List.Subset.refl _
    | cons created done =>
      obtain ⟨rfl, furnishings⟩ := List.cons.inj later
      exact Or.inr ⟨done, made, furnishings⟩
  · refine Or.inl (absent (by rw [left]; simp) ?_)
    rw [earlier]
    exact List.subset_append_left _ _

/-- What was made for a table belongs to it. -/
theorem Of.table_of_mem (identity : dialect.identity = .sequenceDefault)
    (of : halted.Of dialect) {definition : Definition}
    (member : definition ∈ halted.made ∨ definition ∈ halted.keysMade) :
    definition.table = halted.table.name := by
  rcases member with made | made
  · refine Table.table_of_mem_tableDefinitions identity ?_
    rw [of.definitions]
    exact List.mem_append_left _ made
  · refine (Table.table_of_mem_foreignKeyDefinitions ?_).1
    rw [of.keys]
    exact List.mem_append_left _ made

/-- What the dictionary shows of a table in a plan that was stopped. -/
theorem entry_of_stopped {parts : List Halted} {catalog : Catalog}
    (identity : dialect.identity = .sequenceDefault) (each : ∀ part ∈ parts, part.Of dialect)
    (apart : dialect.StoredApart (parts.map fun part => part.table.name))
    (member : halted ∈ parts) {name : String}
    (stored : dialect.stored halted.table.name = .ok name) :
    catalog.afterAll dialect (parts.flatMap made ++ parts.flatMap keysMade) name =
      (halted.made ++ halted.keysMade).foldl (Catalog.entryAfter dialect name) (catalog name) := by
  obtain ⟨front, back, rfl⟩ := List.append_of_mem member
  have distinct := apart.nodup
  rw [List.map_map, List.map_append, List.map_cons, List.nodup_middle, List.nodup_cons,
    ← List.map_append] at distinct
  have others (column : Halted → List Definition) (belongs : ∀ part ∈ front ++ halted :: back,
      ∀ definition ∈ column part, definition.table = part.table.name) (some : List Halted)
      (fewer : some ⊆ front ++ back) (entry : Option LiveTable) :
      (some.flatMap column).foldl (Catalog.entryAfter dialect name) entry = entry := by
    refine Catalog.foldl_entryAfter_others (fun definition made same => ?_) entry
    obtain ⟨part, listed, inside⟩ := List.mem_flatMap.mp made
    have among : part ∈ front ++ halted :: back :=
      List.perm_middle.mem_iff.mpr (List.mem_cons_of_mem _ (fewer listed))
    rw [belongs part among definition inside] at same
    exact distinct.1 (List.mem_map.mpr ⟨part, fewer listed, same.trans stored.symm⟩)
  have ofMade : ∀ part ∈ front ++ halted :: back, ∀ definition ∈ part.made,
      definition.table = part.table.name := fun part listed definition inside =>
    (each part listed).table_of_mem identity (Or.inl inside)
  have ofKeys : ∀ part ∈ front ++ halted :: back, ∀ definition ∈ part.keysMade,
      definition.table = part.table.name := fun part listed definition inside =>
    (each part listed).table_of_mem identity (Or.inr inside)
  rw [Catalog.afterAll_apply]
  simp only [List.flatMap_append, List.flatMap_cons, List.foldl_append,
    others made ofMade front (List.subset_append_left _ _),
    others made ofMade back (List.subset_append_right _ _),
    others keysMade ofKeys front (List.subset_append_left _ _),
    others keysMade ofKeys back (List.subset_append_right _ _)]

/-- What is there of a table in a plan that was stopped, and what is planned for it: what is left of
it, and besides that at most sequences that were made before. -/
structure Recovers (dialect : Dialect) (halted : Halted) (entry : Option LiveTable)
    (plan : TablePlan) (extra : List Definition) : Prop where
  declared : ∀ live, entry = some live → ∀ column ∈ live.columns,
    ∃ declared ∈ halted.table.columns, column.columnType = dialect.typeOf declared
  planned : dialect.planTable halted.table entry = .ok plan
  steps : plan.difference.steps.Perm ((halted.left ++ extra).map dialect.stepOf)
  foreignKeys : plan.foreignKeys = halted.keysLeft.map dialect.stepOf
  repeated : extra ⊆ halted.made ∧ extra ⊆ halted.table.sequences
  finished : halted.left = [] → extra = []

theorem Of.exists_recovers {name : String} (identity : dialect.identity = .sequenceDefault)
    (of : halted.Of dialect) (apart : halted.table.NamesApart dialect)
    (typed : ∀ column ∈ halted.table.columns,
      Error.ofColumn column (dialect.columnType column) = .ok (dialect.typeOf column))
    (writes : dialect.Writes (dialect.tableDefinitions halted.table))
    (writesKeys : dialect.Writes halted.table.foreignKeyDefinitions)
    (stored : dialect.stored halted.table.name = .ok name) :
    ∃ plan extra, Recovers dialect halted
      ((halted.made ++ halted.keysMade).foldl (Catalog.entryAfter dialect name) none) plan
      extra := by
  rcases of.absent_or_created identity with ⟨noKeys, unfinished, made⟩ | ⟨done, made, furnishings⟩
  · -- the table is planned anew
    rw [noKeys, List.append_nil, Table.foldl_entryAfter_sequences stored made]
    refine ⟨_, halted.made, ⟨nofun, Dialect.planTable_absent writes writesKeys, ?_, ?_,
      ⟨List.Subset.refl _, made⟩, fun none => absurd none unfinished⟩⟩
    · rw [of.definitions]
      exact List.perm_append_comm.map _
    · rw [of.keys, noKeys]
      rfl
  · -- the table is there, and what is missing of it is planned
    have unfinished : halted.table.Unfinished dialect done halted.keysMade := {
      apart, typed, writesKeys
      writes := fun definition member => writes definition (by
        rw [Table.tableDefinitions_eq identity]
        exact List.mem_append_right _ (List.mem_cons_of_mem _ member))
      done := by
        rw [furnishings]
        exact List.subset_append_left _ _
      keys := by
        rw [of.keys]
        exact List.subset_append_left _ _ }
    obtain ⟨plan, planned, steps, keys⟩ := unfinished.planTable_live
    have left := apart.nodup_furnishings
    rw [furnishings] at left steps
    have keysLeft := apart.nodup_foreignKeyDefinitions
    rw [of.keys] at keysLeft keys
    rw [made, unfinished.foldl_entryAfter stored]
    refine ⟨plan, [], ⟨?_, planned, ?_, ?_, ⟨List.nil_subset _, List.nil_subset _⟩, fun _ => rfl⟩⟩
    · rintro _ ⟨⟩ column member
      exact unfinished.declared_of_mem_live member
    · rw [List.append_nil]
      rwa [filter_notMem_front left] at steps
    · rw [keys, filter_notMem_front keysLeft]

end Halted

/-! ### Names of tables -/

/-- A name of one segment is stored without an owner, where the settings have none. -/
theorem Dialect.storedTable_eq_ok_iff {dialect : Dialect} {text : String} {part : IdentifierPart}
    {stored : StoredTable} (ownerless : dialect.schema = none)
    (unqualified : Identifier.parse text = .ok ⟨[part]⟩) :
    dialect.storedTable text = .ok stored ↔
      dialect.stored text = .ok stored.name ∧ stored.owner = none := by
  have owner : dialect.storedOwner = .ok none := by
    unfold Dialect.storedOwner
    rw [ownerless]
    rfl
  obtain ⟨given, name⟩ := stored
  unfold Dialect.storedTable Dialect.stored Dialect.storedName Dialect.storedSegment
  rw [unqualified]
  simp only [Identifier.storedName?, List.getLast?_singleton, Option.bind_some]
  cases found : dialect.stored? part with
  | none => simp [Error.ofName, Except.mapError, bind, Except.bind, owner, found]
  | some spelling =>
    simp [Error.ofName, Except.mapError, bind, Except.bind, owner, found, and_comm, eq_comm]

/-! ### Plans of tables -/

/-- A plan has a part for each table, of what the catalog shows of it. -/
theorem Dialect.planFrom_eq_ok_iff {dialect : Dialect} {catalog : Catalog} {tables : List Table}
    {plan : MigrationPlan} :
    dialect.planFrom catalog tables = .ok plan ↔
      (∀ table ∈ tables, dialect.checkTable table = .ok ()) ∧
        ∃ parts : List (Table × TablePlan), parts.map Prod.fst = tables ∧ plan = .ofTables parts ∧
          ∀ part ∈ parts, ∃ stored, dialect.storedTable part.1.name = .ok stored ∧
            dialect.planTable part.1 (catalog stored.name) = .ok part.2 := by
  have each (table : Table) (part : Table × TablePlan) : (do
        let stored ← dialect.storedTable table.name
        let plan ← dialect.planTable table (catalog stored.name)
        Except.ok (table, plan)) = .ok part ↔
      table = part.1 ∧ ∃ stored, dialect.storedTable part.1.name = .ok stored ∧
        dialect.planTable part.1 (catalog stored.name) = .ok part.2 := by
    constructor
    · intro built
      obtain ⟨stored, named, built⟩ := bind_eq_ok.mp built
      obtain ⟨plan, planned, same⟩ := bind_eq_ok.mp built
      cases same
      exact ⟨rfl, stored, named, planned⟩
    · rintro ⟨rfl, stored, named, planned⟩
      exact bind_eq_ok.mpr ⟨stored, named, bind_eq_ok.mpr ⟨part.2, planned, rfl⟩⟩
  unfold Dialect.planFrom
  rw [bind_eq_ok]
  constructor
  · rintro ⟨_, checked, built⟩
    obtain ⟨parts, made, same⟩ := bind_eq_ok.mp built
    have members := (mapM_eq_ok_iff.mp made).imp fun table part built => (each table part).mp built
    refine ⟨forM_eq_ok_iff.mp checked, parts, ?_, (Except.ok.inj same).symm, ?_⟩
    · have firsts : List.Forall₂ (fun table part => table = Prod.fst part) tables parts :=
        members.imp fun _ _ known => known.1
      rw [← List.forall₂_map_right_iff, List.forall₂_eq_eq_eq] at firsts
      exact firsts.symm
    · intro part member
      obtain ⟨_, _, _, known⟩ := exists_of_forall₂ members.flip member
      exact known
  · rintro ⟨checked, parts, rfl, rfl, members⟩
    refine ⟨(), forM_eq_ok_iff.mpr checked, bind_eq_ok.mpr ⟨parts, ?_, rfl⟩⟩
    rw [mapM_eq_ok_iff, List.forall₂_map_left_iff, List.forall₂_same]
    exact fun part member => (each part.1 part).mpr ⟨rfl, members part member⟩

/-- The columns of an accepted table have no faults. -/
theorem Dialect.typed_of_checkTable {dialect : Dialect} {table : Table}
    (checked : dialect.checkTable table = .ok ()) {column : Column}
    (member : column ∈ table.columns) :
    column.fault? = none ∧
      Error.ofColumn column (dialect.columnType column) = .ok (dialect.typeOf column) := by
  obtain ⟨_, _, checked⟩ := bind_eq_ok.mp checked
  obtain ⟨_, columns, _⟩ := bind_eq_ok.mp checked
  have accepted := mapError_eq_ok.mp (forM_eq_ok_iff.mp columns column member)
  obtain ⟨columnType, known, _⟩ := map_eq_ok.mp accepted
  have good : column.fault? = none := by
    unfold Dialect.columnType at known
    cases fault : column.fault? with
    | none => rfl
    | some fault =>
      rw [fault] at known
      cases known
  refine ⟨good, ?_⟩
  unfold Dialect.columnType
  rw [good]
  rfl

/-- Absent tables are planned with all that belongs to them, foreign keys last. -/
theorem Dialect.steps_of_planFrom_absent {dialect : Dialect} {catalog : Catalog}
    {tables : List Table} {plan : MigrationPlan}
    (absent : ∀ table ∈ tables, ∀ stored, dialect.storedTable table.name = .ok stored →
      catalog stored.name = none)
    (plans : dialect.planFrom catalog tables = .ok plan) :
    (∀ table ∈ tables, dialect.Writes (dialect.tableDefinitions table) ∧
      dialect.Writes table.foreignKeyDefinitions) ∧
    plan.steps = (tables.flatMap dialect.tableDefinitions ++
      tables.flatMap Table.foreignKeyDefinitions).map dialect.stepOf := by
  obtain ⟨_, parts, rfl, rfl, members⟩ := planFrom_eq_ok_iff.mp plans
  have each : ∀ part ∈ parts, dialect.planTable part.1 none = .ok part.2 := by
    intro part member
    obtain ⟨stored, named, planned⟩ := members part member
    rwa [absent part.1 (List.mem_map_of_mem member) stored named] at planned
  have writes := fun part member => writes_of_planTable_absent (each part member)
  have known : ∀ part ∈ parts, part.2 = ⟨.creating,
      { steps := (dialect.tableDefinitions part.1).map dialect.stepOf },
      part.1.foreignKeyDefinitions.map dialect.stepOf⟩ := fun part member =>
    Except.ok.inj ((each part member).symm.trans
      (planTable_absent (writes part member).1 (writes part member).2))
  refine ⟨fun table member => ?_, ?_⟩
  · obtain ⟨part, listed, rfl⟩ := List.mem_map.mp member
    exact writes part listed
  · rw [List.map_append, List.map_flatMap, List.map_flatMap, List.flatMap_map, List.flatMap_map]
    exact congrArg₂ _ (List.flatMap_congr fun part member => by rw [known part member])
      (List.flatMap_congr fun part member => by rw [known part member])

/-! ### Plans that were stopped are taken up again -/

/-- Tables of the session's user whose stored names can be told apart, and whose columns, indexes
and constraints can be told apart within each of them. -/
structure Dialect.Separates (dialect : Dialect) (tables : List Table) : Prop where
  ownerless : dialect.schema = none
  unqualified : ∀ table ∈ tables, ∃ part, Identifier.parse table.name = .ok ⟨[part]⟩
  apart : dialect.StoredApart (tables.map Table.name)
  within : ∀ table ∈ tables, table.NamesApart dialect

theorem Dialect.Separates.storedTable {dialect : Dialect} {tables : List Table}
    (separates : dialect.Separates tables) {table : Table} (member : table ∈ tables)
    {stored : StoredTable} : dialect.storedTable table.name = .ok stored ↔
      dialect.stored table.name = .ok stored.name ∧ stored.owner = none := by
  obtain ⟨part, parsed⟩ := separates.unqualified table member
  exact storedTable_eq_ok_iff separates.ownerless parsed

/-- Tables that are all absent are planned, and part of the plan is carried out. Then planning again
yields what was left, and besides it at most sequences that were made before. -/
theorem Dialect.planFrom_stopped {dialect : Dialect} {catalog : Catalog} {tables : List Table}
    {plan : MigrationPlan} {done rest : List MigrationStep}
    (identity : dialect.identity = .sequenceDefault) (separates : dialect.Separates tables)
    (absent : ∀ table ∈ tables, ∀ name, dialect.stored table.name = .ok name → catalog name = none)
    (plans : dialect.planFrom catalog tables = .ok plan) (split : plan.steps = done ++ rest) :
    ∃ parts : List (Halted × TablePlan × List Definition),
      parts.map (·.1.table) = tables ∧
      done = (parts.flatMap (·.1.made) ++ parts.flatMap (·.1.keysMade)).map dialect.stepOf ∧
      rest = (parts.flatMap (·.1.left) ++ parts.flatMap (·.1.keysLeft)).map dialect.stepOf ∧
      ∀ part ∈ parts, ∃ name, dialect.stored part.1.table.name = .ok name ∧
        part.1.Recovers dialect
          (catalog.afterAll dialect (done.map MigrationStep.definition) name) part.2.1
          part.2.2 := by
  have absentStored : ∀ table ∈ tables, ∀ stored, dialect.storedTable table.name = .ok stored →
      catalog stored.name = none := fun table member stored named =>
    absent table member stored.name ((separates.storedTable member).mp named).1
  obtain ⟨writes, steps⟩ := steps_of_planFrom_absent absentStored plans
  obtain ⟨checked, _⟩ := planFrom_eq_ok_iff.mp plans
  obtain ⟨made, left, definitions, rfl, rfl⟩ := List.map_eq_append_iff.mp (steps.symm.trans split)
  obtain ⟨halted, rfl, each, rfl, rfl⟩ := exists_halted tables definitions
  have taken : ((halted.flatMap Halted.made ++ halted.flatMap Halted.keysMade).map
      dialect.stepOf).map MigrationStep.definition =
        halted.flatMap Halted.made ++ halted.flatMap Halted.keysMade := by
    rw [List.map_map]
    exact List.map_id _
  rw [taken]
  have recovers : ∀ part ∈ halted, ∃ result : TablePlan × List Definition, ∃ name,
      dialect.stored part.table.name = .ok name ∧ part.Recovers dialect
        (catalog.afterAll dialect
          (halted.flatMap Halted.made ++ halted.flatMap Halted.keysMade) name) result.1
        result.2 := by
    intro part member
    have listed : part.table ∈ halted.map Halted.table := List.mem_map_of_mem member
    obtain ⟨name, stored⟩ := separates.apart.exists_name
      (List.mem_map_of_mem (List.mem_map_of_mem (f := Table.name) listed))
    have apart : dialect.StoredApart (halted.map fun part => part.table.name) := by
      have known := separates.apart
      rwa [List.map_map] at known
    obtain ⟨plan, extra, known⟩ := (each part member).exists_recovers identity
      (separates.within part.table listed)
      (fun column inside => (typed_of_checkTable (checked part.table listed) inside).2)
      (writes part.table listed).1 (writes part.table listed).2 stored
    refine ⟨(plan, extra), name, stored, ?_⟩
    rwa [Halted.entry_of_stopped identity each apart member stored,
      absent part.table listed name stored]
  have : Nonempty (TablePlan × List Definition) := ⟨⟨.creating, {}, []⟩, []⟩
  choose! result known using recovers
  refine ⟨halted.map fun part => (part, result part), ?_, ?_, ?_, ?_⟩
  · rw [List.map_map]
    rfl
  · rw [List.flatMap_map, List.flatMap_map]
  · rw [List.flatMap_map, List.flatMap_map]
  · intro part member
    obtain ⟨halted, listed, rfl⟩ := List.mem_map.mp member
    exact known halted listed

/-- **A plan that was stopped is taken up again.** Planning again yields what was left, in some
order, and besides it at most sequences that were made before; after the whole plan it yields
nothing. -/
theorem Dialect.planFrom_recovers {dialect : Dialect} {catalog : Catalog} {tables : List Table}
    {plan : MigrationPlan} {done rest : List MigrationStep}
    (identity : dialect.identity = .sequenceDefault) (separates : dialect.Separates tables)
    (absent : ∀ table ∈ tables, ∀ name, dialect.stored table.name = .ok name → catalog name = none)
    (plans : dialect.planFrom catalog tables = .ok plan) (split : plan.steps = done ++ rest) :
    ∃ again extra,
      dialect.planFrom (catalog.afterAll dialect (done.map MigrationStep.definition)) tables =
        .ok again ∧
      again.steps.Perm (rest ++ extra) ∧
      (∀ step ∈ extra, step ∈ done ∧
        ∃ table column, step.definition = .createSequence table column) ∧
      (rest = [] → extra = []) := by
  obtain ⟨checked, _⟩ := planFrom_eq_ok_iff.mp plans
  obtain ⟨parts, rfl, rfl, rfl, each⟩ := planFrom_stopped identity separates absent plans split
  refine ⟨.ofTables (parts.map fun part => (part.1.table, part.2.1)),
    (parts.flatMap (·.2.2)).map dialect.stepOf, planFrom_eq_ok_iff.mpr ⟨checked, _, ?_, rfl, ?_⟩,
    ?_, ?_, ?_⟩
  · rw [List.map_map]
    rfl
  · intro planned member
    obtain ⟨part, listed, rfl⟩ := List.mem_map.mp member
    obtain ⟨name, stored, recovers⟩ := each part listed
    have inside := List.mem_map_of_mem (f := fun part => part.1.table) listed
    exact ⟨⟨none, name⟩, (separates.storedTable inside).mpr ⟨stored, rfl⟩, recovers.planned⟩
  · have definitions : (parts.flatMap (·.2.1.difference.steps)).Perm
        ((parts.flatMap (·.1.left) ++ parts.flatMap (·.2.2)).map dialect.stepOf) := by
      refine List.Perm.trans ?_ ((List.flatMap_append_perm parts (·.1.left) (·.2.2)).symm.map _)
      rw [List.map_flatMap]
      refine List.Perm.flatMap_left parts fun part listed => ?_
      obtain ⟨name, stored, recovers⟩ := each part listed
      exact recovers.steps
    have keys : parts.flatMap (·.2.1.foreignKeys) =
        (parts.flatMap (·.1.keysLeft)).map dialect.stepOf := by
      rw [List.map_flatMap]
      refine List.flatMap_congr fun part listed => ?_
      obtain ⟨name, stored, recovers⟩ := each part listed
      exact recovers.foreignKeys
    rw [MigrationPlan.ofTables, List.flatMap_map, List.flatMap_map, keys, List.map_append,
      List.append_assoc]
    rw [List.map_append] at definitions
    refine (definitions.append_right _).trans ?_
    rw [List.append_assoc]
    exact List.perm_append_comm.append_left _
  · intro step member
    obtain ⟨definition, inside, rfl⟩ := List.mem_map.mp member
    obtain ⟨part, listed, repeated⟩ := List.mem_flatMap.mp inside
    obtain ⟨name, stored, recovers⟩ := each part listed
    refine ⟨List.mem_map_of_mem (List.mem_append_left _ (List.mem_flatMap.mpr
      ⟨part, listed, recovers.repeated.1 repeated⟩)), ?_⟩
    obtain ⟨column, same⟩ := Table.exists_of_mem_sequences (recovers.repeated.2 repeated)
    exact ⟨_, column, same⟩
  · intro none
    rw [List.map_eq_nil_iff] at none ⊢
    rw [List.flatMap_eq_nil_iff]
    intro part listed
    obtain ⟨name, stored, recovers⟩ := each part listed
    exact recovers.finished
      (List.flatMap_eq_nil_iff.mp (List.append_eq_nil_iff.mp none).1 part listed)

/-- What was carried out of a plan for absent tables leaves types that are read as what they are. -/
theorem Dialect.fits_of_stopped {dialect : Dialect} {catalog : Catalog} {tables : List Table}
    {plan : MigrationPlan} {done rest : List MigrationStep} (room : dialect.HasRoom)
    (identity : dialect.identity = .sequenceDefault) (separates : dialect.Separates tables)
    (absent : ∀ table ∈ tables, ∀ name, dialect.stored table.name = .ok name → catalog name = none)
    (plans : dialect.planFrom catalog tables = .ok plan) (split : plan.steps = done ++ rest)
    {table : Table} (member : table ∈ tables) {name : String}
    (stored : dialect.stored table.name = .ok name) {live : LiveTable}
    (present : catalog.afterAll dialect (done.map MigrationStep.definition) name = some live) :
    ∀ column ∈ live.columns, column.columnType.Fits := by
  intro column inside
  obtain ⟨checked, _⟩ := planFrom_eq_ok_iff.mp plans
  obtain ⟨parts, rfl, _, _, each⟩ := planFrom_stopped identity separates absent plans split
  obtain ⟨part, listed, rfl⟩ := List.mem_map.mp member
  obtain ⟨known, same, recovers⟩ := each part listed
  cases stored.symm.trans same
  obtain ⟨declared, belongs, typed⟩ := recovers.declared live present column inside
  rw [typed]
  exact fits_typeOf room (typed_of_checkTable (checked _ member) belongs).1

/-- **An interrupted migration recovers.** Tables that are all absent are planned, and a part of the
plan is carried out, up to any place. Planning again yields every step that was left, and besides
these at most the creation of sequences that were made before; after the whole plan nothing is
planned any more. -/
theorem Migrator.plan_recovers {σ : Type} (executor : Executor σ) (catalogOf : σ → Catalog)
    (tables : List Table) {before after : σ} {plan : MigrationPlan}
    {done rest : List MigrationStep} (shows : executor.Shows catalogOf)
    (room : executor.dialect.HasRoom) (identity : executor.dialect.identity = .sequenceDefault)
    (separates : executor.dialect.Separates tables)
    (absent : ∀ table ∈ tables, ∀ name, executor.dialect.stored table.name = .ok name →
      catalogOf before name = none)
    (plans : ((Migrator.plan executor tables).perform before).1 = .ok plan)
    (split : plan.steps = done ++ rest)
    (effect : catalogOf after =
      (catalogOf before).afterAll executor.dialect (done.map MigrationStep.definition)) :
    ∃ again extra, ((Migrator.plan executor tables).perform after).1 = .ok again ∧
      again.steps.Perm (rest ++ extra) ∧
      (∀ step ∈ extra, step ∈ done ∧
        ∃ table column, step.definition = .createSequence table column) ∧
      (rest = [] → again.steps = []) := by
  have first : executor.dialect.planFrom (catalogOf before) tables = .ok plan := by
    rw [← plans, eq_comm]
    refine (shows.plan (fun table member stored named => ?_) before rfl).1
    obtain ⟨known, alone⟩ := (separates.storedTable member).mp named
    refine ⟨alone, fun live present => ?_⟩
    rw [absent table member stored.name known] at present
    cases present
  obtain ⟨again, extra, second, steps, sequences, finished⟩ :=
    Dialect.planFrom_recovers identity separates absent first split
  refine ⟨again, extra, ?_, steps, sequences, fun none => ?_⟩
  · rw [← second, ← effect]
    refine (shows.plan (fun table member stored named => ?_) after rfl).1
    obtain ⟨known, alone⟩ := (separates.storedTable member).mp named
    refine ⟨alone, fun live present => ?_⟩
    rw [effect] at present
    exact Dialect.fits_of_stopped room identity separates absent first split member known present
  · rw [none, finished none] at steps
    exact List.perm_nil.mp steps

namespace Interrupted

/-- Goods with their main parts. -/
def items : Table where
  name := "Items"
  columns := [{ name := "id", fieldType := .int64, identity := true, nullable := false },
    { name := "title", fieldType := .string, size := some 20, comment := some "it's" },
    { name := "main", fieldType := .int64 }]
  primaryKey := some { columns := ["id"] }
  indexes := [{ name := "by title", columns := ["title"] }]
  foreignKeys := [
    { name := "main_part", columns := ["main"], target := "Parts", targetColumns := ["id"] }]
  comment := some "goods"

/-- Parts of goods. -/
def parts : Table where
  name := "Parts"
  columns := [{ name := "id", fieldType := .int64, identity := true, nullable := false },
    { name := "item", fieldType := .int64 }]
  primaryKey := some { columns := ["id"] }
  foreignKeys := [{ name := "part_of", columns := ["item"], target := "Items"
                    targetColumns := ["id"], onDelete := .cascade }]

/-- The two tables, which refer to each other. -/
def tables : List Table := [items, parts]

/-- What is done before the plan is stopped: the goods are there, but for their foreign key, and of
the parts only the sequence. -/
def done : List Definition :=
  [.createSequence "Items" "id", .createTable items,
    .createIndex "Items" { name := "by title", columns := ["title"] },
    .commentTable "Items" "goods", .commentColumn "Items" "title" "it's",
    .createSequence "Parts" "id"]

/-- The goods as they are then. -/
def goods : LiveTable where
  columns := [⟨"ID", .number (some 19) (some 0), false⟩, ⟨"TITLE", .varchar 20, true⟩,
    ⟨"MAIN", .number (some 19) (some 0), true⟩]
  indexes := ["BY TITLE", "PK_ITEMS"]
  constraints := ["PK_ITEMS"]
  comment := some "goods"
  columnComments := [("TITLE", "it's")]

/-- An empty database, before the plan is run and after it was stopped. -/
def catalogOf (stopped : Bool) : Catalog := fun name =>
  if stopped = true ∧ name = "ITEMS" then some goods else none

def database : Executor Bool where
  dialect := {}
  connection := .ofCatalog catalogOf .numbered

theorem shows : database.Shows catalogOf := by
  refine Executor.shows_ofCatalog {} fun _ _ _ => LiveTable.fits_of_ite ?_
  simp [goods, ColumnType.Fits, UInt32.size]

theorem separates : ({} : Dialect).Separates tables where
  ownerless := rfl
  unqualified := List.forall_mem_cons (l := [parts]).mpr ⟨⟨.bare "Items", by decide +kernel⟩,
    List.forall_mem_singleton.mpr ⟨.bare "Parts", by decide +kernel⟩⟩
  apart := ⟨by decide +kernel, by decide +kernel⟩
  within := List.forall_mem_cons (l := [parts]).mpr
    ⟨⟨⟨by decide +kernel, by decide +kernel⟩, ⟨by decide +kernel, by decide +kernel⟩,
        ⟨by decide +kernel, by decide +kernel⟩⟩,
      List.forall_mem_singleton.mpr
        ⟨⟨by decide +kernel, by decide +kernel⟩, ⟨by decide +kernel, by decide +kernel⟩,
          ⟨by decide +kernel, by decide +kernel⟩⟩⟩

/-- The plan of the empty database has nine steps, of which these are the first. -/
theorem exists_plan : ∃ plan, ((Migrator.plan database tables).perform false).1 = .ok plan ∧
    plan.steps.length = 9 ∧ (plan.steps.take 6).map MigrationStep.definition = done := by
  have planned : (({} : Dialect).planFrom (catalogOf false) tables).map
      (fun plan => (plan.steps.length, (plan.steps.take 6).map MigrationStep.definition)) =
        .ok (9, done) := by
    decide +kernel
  obtain ⟨plan, known, found⟩ := map_eq_ok.mp planned
  rw [Prod.mk.injEq] at found
  refine ⟨plan, known ▸ ?_, found⟩
  refine (shows.plan (fun table member stored named => ?_) false rfl).1
  exact ⟨((separates.storedTable member).mp named).2, fun live present => nomatch present⟩

/-- Where the plan is stopped, these steps have taken effect and nothing else. -/
theorem catalogOf_stopped : catalogOf true = (catalogOf false).afterAll {} done := by
  funext name
  rw [Catalog.afterAll_apply]
  by_cases there : name = "ITEMS"
  · subst there
    decide +kernel
  · -- the other table has just a sequence, which does not show
    have first : ({} : Dialect).stored "Items" = .ok "ITEMS" := by decide +kernel
    have other (definition : Definition) (belongs : definition.table = "Items")
        (entry : Option LiveTable) : Catalog.entryAfter {} name entry definition = entry := by
      refine Catalog.entryAfter_other ?_
      rw [belongs, first]
      exact fun same => there (Except.ok.inj same).symm
    rw [show catalogOf true name = none from if_neg fun both => there both.2,
      show catalogOf false name = none from rfl]
    simp only [done, List.foldl_cons, List.foldl_nil]
    rw [other (.createSequence "Items" _) rfl, other (.createTable items) rfl,
      other (.createIndex "Items" _) rfl, other (.commentTable "Items" _) rfl,
      other (.commentColumn "Items" _ _) rfl]
    unfold Catalog.entryAfter
    split <;> rfl

end Interrupted

/-- Two tables that refer to each other; the plan was stopped before the second one was created. -/
theorem Migrator.plan_recovers_second_table :
    ∃ plan, ((Migrator.plan Interrupted.database Interrupted.tables).perform false).1 = .ok plan ∧
      plan.steps.length = 9 ∧
      Interrupted.catalogOf true = (Interrupted.catalogOf false).afterAll {}
        ((plan.steps.take 6).map MigrationStep.definition) ∧
      ∃ again extra,
        ((Migrator.plan Interrupted.database Interrupted.tables).perform true).1 = .ok again ∧
        again.steps.Perm (plan.steps.drop 6 ++ extra) ∧
        (∀ step ∈ extra, step ∈ plan.steps.take 6 ∧
          ∃ table column, step.definition = .createSequence table column) ∧
        (plan.steps.drop 6 = [] → again.steps = []) := by
  obtain ⟨plan, plans, many, first⟩ := Interrupted.exists_plan
  have effect : Interrupted.catalogOf true = (Interrupted.catalogOf false).afterAll {}
      ((plan.steps.take 6).map MigrationStep.definition) := first ▸ Interrupted.catalogOf_stopped
  have absent : ∀ table ∈ Interrupted.tables, ∀ name,
      ({} : Dialect).stored table.name = .ok name → Interrupted.catalogOf false name = none :=
    fun _ _ _ _ => rfl
  exact ⟨plan, plans, many, effect,
    Migrator.plan_recovers Interrupted.database Interrupted.catalogOf Interrupted.tables
      Interrupted.shows ⟨by decide, by decide⟩ rfl Interrupted.separates absent plans
      (List.take_append_drop 6 _).symm effect⟩

end OracleSql
