/-
This file is about columns that a trigger numbers, and migrations that were stopped. A trigger is
made right after its column, in the same plan, and after its sequence; no later plan makes it for a
column that is there. So where the migrations of a table end with a report, a column has all that
numbers it just if the last of them found it missing, or an earlier one made it and went on to its
trigger. A migration that was stopped between the two leaves a column without a trigger for good.
-/

import OracleSql.Proofs.Migration.Answering
import OracleSql.Proofs.Migration.Progress
import OracleSql.Proofs.Migration.Safety

namespace OracleSql

/-! ### Triggers come last -/

namespace Definition

/-- The definition makes the sequence or the trigger of the column. -/
def Numbers (tableName columnName : String) (definition : Definition) : Prop :=
  definition = .createSequence tableName columnName ∨
    definition = .createTrigger tableName columnName

/-- The definition makes the column, by itself or with its table. -/
def CreatesColumn (tableName columnName : String) : Definition → Prop
  | createTable table => table.name = tableName ∧ ∃ column ∈ table.columns, column.name = columnName
  | addColumn table column => table.name = tableName ∧ column.name = columnName
  | _ => False

theorem Numbers.not_furnishes {tableName columnName : String} {definition : Definition}
    (numbers : definition.Numbers tableName columnName) : definition.furnishes = false := by
  rcases numbers with rfl | rfl <;> rfl

end Definition

/-- Every trigger comes after its sequence and after its column. -/
def TriggersLast (definitions : List Definition) : Prop :=
  ∀ ⦃front back : List Definition⦄ ⦃tableName columnName : String⦄,
    definitions = front ++ .createTrigger tableName columnName :: back →
      .createSequence tableName columnName ∈ front ∧
        ∃ creation ∈ front, creation.CreatesColumn tableName columnName

namespace TriggersLast

variable {front back definitions : List Definition}

/-- Without triggers there is nothing to say. -/
theorem of_notMem
    (without : ∀ tableName columnName, .createTrigger tableName columnName ∉ definitions) :
    TriggersLast definitions := by
  rintro front back tableName columnName rfl
  exact absurd (List.mem_append_right _ List.mem_cons_self) (without tableName columnName)

/-- Triggers of a second part may come after sequences and columns of the first. -/
theorem append_of (first : TriggersLast front)
    (second : ∀ ⦃before after tableName columnName⦄,
      back = before ++ .createTrigger tableName columnName :: after →
        .createSequence tableName columnName ∈ front ++ before ∧
          ∃ creation ∈ front ++ before, creation.CreatesColumn tableName columnName) :
    TriggersLast (front ++ back) := by
  intro before after tableName columnName split
  rcases List.append_eq_append_iff.mp split with ⟨more, rfl, rest⟩ | ⟨more, rfl, rest⟩
  · exact second rest
  · cases more with
    | nil =>
      have found := @second [] _ _ _ rest.symm
      rwa [List.append_nil, List.append_nil] at found
    | cons definition others =>
      obtain ⟨rfl, -⟩ := List.cons.inj rest
      exact first rfl

theorem append (first : TriggersLast front) (second : TriggersLast back) :
    TriggersLast (front ++ back) := by
  refine first.append_of fun before after tableName columnName split => ?_
  obtain ⟨sequence, creation, made, creates⟩ := second split
  exact ⟨List.mem_append_right _ sequence, creation, List.mem_append_right _ made, creates⟩

theorem flatMap {α : Type} {items : List α} {members : α → List Definition}
    (each : ∀ item ∈ items, TriggersLast (members item)) :
    TriggersLast (items.flatMap members) := by
  induction items with
  | nil => exact of_notMem fun _ _ => List.not_mem_nil
  | cons item rest inductionHypothesis =>
    obtain ⟨first, others⟩ := List.forall_mem_cons.mp each
    rw [List.flatMap_cons]
    exact first.append (inductionHypothesis others)

/-- A trigger in a beginning of a plan has its sequence there, and comes after its column. -/
theorem of_isPrefix (last : TriggersLast definitions) (isPrefix : front <+: definitions)
    {tableName columnName : String} (member : .createTrigger tableName columnName ∈ front) :
    .createSequence tableName columnName ∈ front ∧
      ∃ creation : Definition, creation.CreatesColumn tableName columnName ∧
        [creation, .createTrigger tableName columnName].Sublist front := by
  obtain ⟨rest, rfl⟩ := isPrefix
  obtain ⟨before, after, rfl⟩ := List.append_of_mem member
  obtain ⟨sequence, creation, made, creates⟩ :=
    @last before (after ++ rest) tableName columnName (by simp)
  refine ⟨List.mem_append_left _ sequence, creation, creates, ?_⟩
  exact (List.singleton_sublist.mpr made).append (List.singleton_sublist.mpr List.mem_cons_self)

end TriggersLast

/-! ### What numbers the columns of a table -/

namespace Dialect

variable {dialect : Dialect} {table : Table} {column : Column} {definition : Definition}
  {tableName columnName : String}

theorem mem_triggerDefinitions :
    definition ∈ dialect.triggerDefinitions tableName column ↔
      column.identity = true ∧ dialect.identity = .trigger ∧
        definition = .createTrigger tableName column.name := by
  simp [triggerDefinitions, and_assoc]

/-- A numbered column asks for its own sequence and trigger only. -/
theorem mem_numbering_iff (trigger : dialect.identity = .trigger)
    (numbers : definition.Numbers tableName columnName) :
    definition ∈ column.sequenceDefinitions table.name ∨
      definition ∈ dialect.triggerDefinitions table.name column ↔
        table.name = tableName ∧ column.identity = true ∧ column.name = columnName := by
  rw [Column.mem_sequenceDefinitions, mem_triggerDefinitions]
  constructor
  · rintro (⟨identity, same⟩ | ⟨identity, -, same⟩)
    · rcases numbers with rfl | rfl <;> cases same
      exact ⟨rfl, identity, rfl⟩
    · rcases numbers with rfl | rfl <;> cases same
      exact ⟨rfl, identity, rfl⟩
  · rintro ⟨rfl, identity, rfl⟩
    exact numbers.imp (fun same => ⟨identity, same⟩) fun same => ⟨identity, trigger, same⟩

/-- A definition that creates columns, between their sequences and their triggers. -/
def creationDefinitions (dialect : Dialect) (tableName : String) (columns : List Column)
    (creation : Definition) : List Definition :=
  columns.flatMap (·.sequenceDefinitions tableName) ++
    creation :: columns.flatMap (dialect.triggerDefinitions tableName)

/-- A table is created with what numbers its columns, before all else. -/
theorem exists_rest_of_creation (dialect : Dialect) (table : Table) :
    ∃ rest, Furnishing rest ∧ dialect.tableDefinitions table =
      dialect.creationDefinitions table.name table.columns (.createTable table) ++ rest := by
  obtain ⟨rest, furnishing, parts⟩ := exists_rest_of_tableDefinitions dialect table
  exact ⟨rest, furnishing, by simp [parts, creationDefinitions]⟩

/-- A column is added with what numbers it, before its comment. -/
theorem columnDefinitions_eq (dialect : Dialect) (table : Table) (column : Column) :
    dialect.columnDefinitions table column =
      dialect.creationDefinitions table.name [column] (.addColumn table column) ++
        column.commentDefinitions table.name := by
  simp [columnDefinitions, creationDefinitions]

/-- Columns that are created get what numbers them, and nothing that numbers others. -/
theorem mem_creation_iff (trigger : dialect.identity = .trigger)
    (numbers : definition.Numbers tableName columnName) {columns : List Column}
    {creation : Definition} {rest : List Definition}
    (creates : ¬creation.Numbers tableName columnName) (furnishing : Furnishing rest) :
    definition ∈ dialect.creationDefinitions table.name columns creation ++ rest ↔
      ∃ column ∈ columns, table.name = tableName ∧ column.identity = true ∧
        column.name = columnName := by
  have other : definition ∉ rest := fun member => by
    cases numbers.not_furnishes.symm.trans (furnishing definition member)
  have apart : definition ≠ creation := fun same => creates (same ▸ numbers)
  simp only [creationDefinitions, List.mem_append, List.mem_cons, List.mem_flatMap, other, apart,
    or_false, false_or, ← mem_numbering_iff trigger numbers, and_or_left, exists_or]

/-- The triggers of columns that are created come last. -/
theorem triggersLast_creation (dialect : Dialect) (table : Table) {columns : List Column}
    {creation : Definition} {rest : List Definition}
    (creates : ∀ column ∈ columns, creation.CreatesColumn table.name column.name)
    (apart : ∀ tableName columnName, creation ≠ .createTrigger tableName columnName)
    (furnishing : Furnishing rest) :
    TriggersLast (dialect.creationDefinitions table.name columns creation ++ rest) := by
  unfold creationDefinitions
  rw [← List.singleton_append, ← List.append_assoc, List.append_assoc]
  refine TriggersLast.append_of (.of_notMem fun tableName columnName member => ?_)
    fun before after tableName columnName split => ?_
  · rcases List.mem_append.mp member with sequence | created
    · obtain ⟨column, _, inside⟩ := List.mem_flatMap.mp sequence
      cases (Column.mem_sequenceDefinitions.mp inside).2
    · exact apart tableName columnName (List.mem_singleton.mp created).symm
  · have member : .createTrigger tableName columnName ∈
        columns.flatMap (dialect.triggerDefinitions table.name) ++ rest := by
      rw [split]
      exact List.mem_append_right _ List.mem_cons_self
    rcases List.mem_append.mp member with inside | other
    · obtain ⟨column, listed, inside⟩ := List.mem_flatMap.mp inside
      obtain ⟨identity, -, same⟩ := mem_triggerDefinitions.mp inside
      cases same
      refine ⟨?_, creation, ?_, creates column listed⟩
      · refine List.mem_append_left _ (List.mem_append_left _ (List.mem_flatMap.mpr ?_))
        exact ⟨column, listed, Column.mem_sequenceDefinitions.mpr ⟨identity, rfl⟩⟩
      · exact List.mem_append_left _ (List.mem_append_right _ (List.mem_singleton.mpr rfl))
    · cases furnishing _ other

/-- A table that is created gets what numbers its columns. -/
theorem mem_tableDefinitions_iff (trigger : dialect.identity = .trigger)
    (numbers : definition.Numbers tableName columnName) :
    definition ∈ dialect.tableDefinitions table ↔
      ∃ column ∈ table.columns, table.name = tableName ∧ column.identity = true ∧
        column.name = columnName := by
  obtain ⟨rest, furnishing, parts⟩ := exists_rest_of_creation dialect table
  rw [parts]
  exact mem_creation_iff trigger numbers (by rintro (same | same) <;> cases same) furnishing

/-- A column that is added gets what numbers it. -/
theorem mem_columnDefinitions_iff (trigger : dialect.identity = .trigger)
    (numbers : definition.Numbers tableName columnName) :
    definition ∈ dialect.columnDefinitions table column ↔
      table.name = tableName ∧ column.identity = true ∧ column.name = columnName := by
  rw [columnDefinitions_eq, mem_creation_iff trigger numbers
    (by rintro (same | same) <;> cases same) (furnishing_commentDefinitions column table.name)]
  simp only [List.mem_singleton, exists_eq_left]

/-- The triggers of a table that is created come last. -/
theorem triggersLast_tableDefinitions (dialect : Dialect) (table : Table) :
    TriggersLast (dialect.tableDefinitions table) := by
  obtain ⟨rest, furnishing, parts⟩ := exists_rest_of_creation dialect table
  rw [parts]
  exact triggersLast_creation dialect table (fun column listed => ⟨rfl, column, listed, rfl⟩)
    (fun _ _ => nofun) furnishing

/-- The trigger of a column that is added comes last. -/
theorem triggersLast_columnDefinitions (dialect : Dialect) (table : Table) (column : Column) :
    TriggersLast (dialect.columnDefinitions table column) := by
  rw [columnDefinitions_eq]
  exact triggersLast_creation dialect table (List.forall_mem_singleton.mpr ⟨rfl, rfl⟩)
    (fun _ _ => nofun) (furnishing_commentDefinitions column table.name)

/-! ### What numbers the columns of a plan -/

/-- The column is not there: either its table is absent, or it has no such column. -/
def MissesIn (dialect : Dialect) (live : Option LiveTable) (column : Column) : Prop :=
  ∀ known ∈ live, dialect.Misses known column

variable {live : Option LiveTable} {plan : TablePlan}

/-- What lets a column grow that is there does not number it. -/
theorem not_numbers_of_grows {current : LiveColumn} {declared : ColumnType}
    (grows : definition.Grows table column current declared) :
    ¬definition.Numbers tableName columnName := by
  intro numbers
  cases grows with
  | widens => rcases numbers with impossible | impossible <;> cases impossible
  | loosens => rcases numbers with impossible | impossible <;> cases impossible
  | furnishes some => cases numbers.not_furnishes.symm.trans some

/-- Sequences and triggers are planned for just the numbered columns that are missing. -/
theorem mem_planTable_iff (trigger : dialect.identity = .trigger)
    (planned : dialect.planTable table live = .ok plan)
    (numbers : definition.Numbers tableName columnName) :
    definition ∈ plan.difference.definitions ↔
      ∃ column ∈ table.columns, (table.name = tableName ∧ column.identity = true ∧
        column.name = columnName) ∧ dialect.MissesIn live column := by
  obtain ⟨built, -⟩ := parts_of_planTable planned
  cases live with
  | none =>
    have absent : ∀ column, dialect.MissesIn none column := fun _ => nofun
    rw [(Difference.of_ofDefinitions built).1, mem_tableDefinitions_iff trigger numbers]
    simp only [absent, and_true]
  | some known =>
    obtain ⟨columns, rest, compared, parts, furnishing, -⟩ :=
      Difference.exists_columns_of_ofTable built
    have other : definition ∉ rest := fun member => by
      cases numbers.not_furnishes.symm.trans (furnishing definition member)
    have each := mapM_eq_ok_iff.mp compared
    rw [parts, List.mem_append, or_iff_left other, List.mem_flatMap]
    constructor
    · rintro ⟨part, listed, inside⟩
      obtain ⟨column, belongs, made⟩ := exists_of_forall₂ each.flip listed
      rcases Difference.finds_or_misses made with ⟨current, found⟩ | missing
      · obtain ⟨_, _, grows, -⟩ := Difference.grows_of_ofColumn found made
        exact absurd numbers (not_numbers_of_grows (grows definition inside))
      · rw [(Difference.definitions_of_misses missing made).1] at inside
        refine ⟨column, belongs, (mem_columnDefinitions_iff trigger numbers).mp inside, ?_⟩
        rintro _ ⟨⟩
        exact missing
    · rintro ⟨column, belongs, numbered, missing⟩
      obtain ⟨part, listed, made⟩ := exists_of_forall₂ each belongs
      refine ⟨part, listed, ?_⟩
      rw [(Difference.definitions_of_misses (missing known rfl) made).1]
      exact (mem_columnDefinitions_iff trigger numbers).mpr numbered

/-- The triggers that are planned for a table come last. -/
theorem triggersLast_planTable (planned : dialect.planTable table live = .ok plan) :
    TriggersLast plan.difference.definitions := by
  obtain ⟨built, -⟩ := parts_of_planTable planned
  cases live with
  | none =>
    rw [(Difference.of_ofDefinitions built).1]
    exact triggersLast_tableDefinitions dialect table
  | some known =>
    obtain ⟨columns, rest, compared, parts, furnishing, -⟩ :=
      Difference.exists_columns_of_ofTable built
    rw [parts]
    refine (TriggersLast.flatMap fun part listed => ?_).append
      (.of_notMem fun _ _ member => by cases furnishing _ member)
    obtain ⟨column, _, made⟩ := exists_of_forall₂ (mapM_eq_ok_iff.mp compared).flip listed
    rcases Difference.finds_or_misses made with ⟨current, found⟩ | missing
    · obtain ⟨_, _, grows, -⟩ := Difference.grows_of_ofColumn found made
      exact .of_notMem fun tableName columnName member =>
        not_numbers_of_grows (grows _ member) (.inr rfl)
    · rw [(Difference.definitions_of_misses missing made).1]
      exact triggersLast_columnDefinitions dialect table column

/-- Some table of this name has a numbered column of this name that is not there. -/
def Lacks (dialect : Dialect) (seen : List Sight) (tableName columnName : String) : Prop :=
  ∃ sight ∈ seen, ∃ column ∈ sight.1.columns, (sight.1.name = tableName ∧
    column.identity = true ∧ column.name = columnName) ∧ dialect.MissesIn sight.2 column

end Dialect

namespace MigrationPlan.Made

variable {dialect : Dialect} {plan : MigrationPlan} {parts : List (Sight × TablePlan)}

theorem definitions_eq (made : plan.Made dialect parts) :
    plan.steps.map MigrationStep.definition =
      parts.flatMap (·.2.difference.definitions) ++
        parts.flatMap fun part => part.2.foreignKeys.map MigrationStep.definition := by
  rw [made.steps, List.map_append, List.map_flatMap, List.map_flatMap]
  rfl

/-- A plan makes the sequence and the trigger of just the numbered columns that are missing. -/
theorem mem_definitions_iff (made : plan.Made dialect parts) (trigger : dialect.identity = .trigger)
    {definition : Definition} {tableName columnName : String}
    (numbers : definition.Numbers tableName columnName) :
    definition ∈ plan.steps.map MigrationStep.definition ↔
      dialect.Lacks (parts.map Prod.fst) tableName columnName := by
  have other : definition ∉
      parts.flatMap fun part => part.2.foreignKeys.map MigrationStep.definition := by
    intro member
    obtain ⟨part, listed, inside⟩ := List.mem_flatMap.mp member
    cases numbers.not_furnishes.symm.trans
      (Dialect.furnishing_foreignKeys (made.planned part listed) _ inside)
  have each : ∀ part ∈ parts, definition ∈ part.2.difference.definitions ↔ _ :=
    fun part listed => Dialect.mem_planTable_iff trigger (made.planned part listed) numbers
  rw [made.definitions_eq, List.mem_append, or_iff_left other, List.mem_flatMap]
  constructor
  · rintro ⟨part, listed, inside⟩
    exact ⟨part.1, List.mem_map_of_mem listed, (each part listed).mp inside⟩
  · rintro ⟨sight, among, lacking⟩
    obtain ⟨part, listed, rfl⟩ := List.mem_map.mp among
    exact ⟨part, listed, (each part listed).mpr lacking⟩

/-- The triggers of a plan come last. -/
theorem triggersLast (made : plan.Made dialect parts) :
    TriggersLast (plan.steps.map MigrationStep.definition) := by
  rw [made.definitions_eq]
  refine (TriggersLast.flatMap fun part listed =>
    Dialect.triggersLast_planTable (made.planned part listed)).append
      (TriggersLast.flatMap fun part listed => .of_notMem fun _ _ member => ?_)
  cases Dialect.furnishing_foreignKeys (made.planned part listed) _ member

end MigrationPlan.Made

/-! ### Migrations that were stopped -/

namespace Migrator

variable {σ : Type} {attempt : Attempt σ} {tableName columnName : String}

/-- An attempt that makes a trigger has made its sequence, and its column before it. -/
theorem Attempt.sequence_of_trigger
    (achieved : .createTrigger tableName columnName ∈ attempt.achieved) :
    .createSequence tableName columnName ∈ attempt.achieved ∧
      ∃ creation : Definition, creation.CreatesColumn tableName columnName ∧
        [creation, .createTrigger tableName columnName].Sublist attempt.achieved := by
  rcases attempt.achieved_isPrefix with none | ⟨plan, middle, planned, isPrefix⟩
  · rw [none] at achieved
    exact absurd achieved List.not_mem_nil
  · obtain ⟨parts, -, -, made⟩ := plan_eq_ok planned
    exact made.triggersLast.of_isPrefix isPrefix achieved

/-- One of the attempts carried the definition out, or found that it was carried out already. -/
def Achieved (attempts : List (Attempt σ)) (definition : Definition) : Prop :=
  ∃ attempt ∈ attempts, definition ∈ attempt.achieved

/-- **Which columns are numbered after a migration.** Columns are numbered by triggers, and a
migration comes to a report, whatever it skips and whatever earlier ones came to. Then a numbered
column of its tables has both its sequence and its trigger just if the migration found it missing,
or an earlier one made the column and went on to its trigger. -/
theorem achieved_numbering_iff (last : Attempt σ) (earlier : List (Attempt σ)) {after : σ}
    {report : MigrationReport} (trigger : last.executor.dialect.identity = .trigger)
    (succeeds : last.outcome = (.ok report, after)) :
    ∃ seen middle, (survey last.executor last.tables).perform last.state = (.ok seen, middle) ∧
      seen.map Prod.fst = last.tables ∧
      ∀ table ∈ last.tables, ∀ column ∈ table.identityColumns,
        (Achieved (last :: earlier) (.createSequence table.name column.name) ∧
          Achieved (last :: earlier) (.createTrigger table.name column.name)) ↔
        (last.executor.dialect.Lacks seen table.name column.name ∨
          ∃ attempt ∈ earlier, ∃ creation : Definition,
            creation.CreatesColumn table.name column.name ∧
              [creation, .createTrigger table.name column.name].Sublist attempt.achieved) := by
  obtain ⟨plan, middle, planned, whole, -⟩ := Attempt.achieved_of_ok succeeds
  obtain ⟨parts, surveyed, names, made⟩ := plan_eq_ok planned
  refine ⟨parts.map Prod.fst, middle, surveyed, by rw [List.map_map]; exact names, ?_⟩
  intro table _ column _
  have now : ∀ definition : Definition, definition.Numbers table.name column.name →
      (definition ∈ last.achieved ↔
        last.executor.dialect.Lacks (parts.map Prod.fst) table.name column.name) :=
    fun definition numbers => whole ▸ made.mem_definitions_iff trigger numbers
  constructor
  · rintro ⟨-, attempt, listed, achieved⟩
    rcases List.mem_cons.mp listed with rfl | before
    · exact .inl ((now _ (.inr rfl)).mp achieved)
    · exact .inr ⟨attempt, before, (Attempt.sequence_of_trigger achieved).2⟩
  · rintro (lacking | ⟨attempt, before, creation, -, order⟩)
    · exact ⟨⟨last, List.mem_cons_self, (now _ (.inl rfl)).mpr lacking⟩,
        last, List.mem_cons_self, (now _ (.inr rfl)).mpr lacking⟩
    · have achieved : .createTrigger table.name column.name ∈ attempt.achieved :=
        order.subset (by simp)
      exact ⟨⟨attempt, List.mem_cons_of_mem _ before, (Attempt.sequence_of_trigger achieved).1⟩,
        attempt, List.mem_cons_of_mem _ before, achieved⟩

/-! ### A trigger that is refused -/

namespace Refusing

/-- A table whose key is numbered. -/
def items : Table where
  name := "Items"
  columns := [{ name := "id", fieldType := .int64, identity := true, nullable := false }]

/-- The dictionary of a database that has the table, or not yet. -/
def catalogOf (present : Bool) : Catalog := fun name =>
  if present = true ∧ name = "ITEMS" then
    some { columns := [⟨"ID", .number (some 19) (some 0), false⟩] }
  else none

/-- The text that makes the table. -/
def creationText : String := "CREATE TABLE \"ITEMS\" (\"ID\" NUMBER(19) NOT NULL)"

/-- The text that makes the trigger. -/
def triggerText : String :=
  "CREATE OR REPLACE TRIGGER \"ITEMS_ID_TRG\" BEFORE INSERT ON \"ITEMS\" FOR EACH ROW WHEN " ++
    "(NEW.\"ID\" IS NULL) BEGIN :NEW.\"ID\" := \"ITEMS_ID_SEQ\".NEXTVAL; END;"

/-- The steps that make the table. -/
def steps : List MigrationStep :=
  [⟨.createSequence "Items" "id",
      "CREATE SEQUENCE \"ITEMS_ID_SEQ\" START WITH 1 INCREMENT BY 1"⟩,
    ⟨.createTable items, creationText⟩, ⟨.createTrigger "Items" "id", triggerText⟩]

/-- A migration of the table by a user who may create triggers or not. -/
def migration (refuses present : Bool) : Attempt Bool where
  executor :=
    { dialect := { identity := .trigger }
      connection :=
        { Connection.ofCatalog catalogOf .numbered with
          execute := fun sql _ present =>
            if refuses && sql == triggerText then
              .settled (.error (.database ⟨some 1031, "insufficient privileges"⟩ {})) present
            else .settled (.ok 0) (present || sql == creationText) } }
  tables := [items]
  state := present

theorem isSome_catalogOf (present : Bool) : (catalogOf present "ITEMS").isSome = present := by
  cases present <;> rfl

theorem catalogOf_injective {first second : Bool} (same : catalogOf first = catalogOf second) :
    first = second := by
  rw [← isSome_catalogOf first, same, isSome_catalogOf]

/-- The migration plans from what the dictionary shows. -/
theorem perform_plan (refuses present : Bool) :
    let attempt := migration refuses present
    (plan attempt.executor attempt.tables).perform attempt.state =
      (({ identity := .trigger } : Dialect).planFrom (catalogOf present) [items], present) := by
  intro attempt
  have fits : ∀ present name live, catalogOf present name = some live →
      ∀ column ∈ live.columns, column.columnType.Fits :=
    fun _ _ _ => LiveTable.fits_of_ite (by simp [ColumnType.Fits])
  have shows : attempt.executor.Shows catalogOf :=
    ⟨fun _ => rfl, (Executor.shows_ofCatalog { identity := .trigger } fits).answers⟩
  have owner : (({ identity := .trigger } : Dialect).storedTable items.name).map
      StoredTable.owner = .ok none := by
    decide +kernel
  obtain ⟨planned, same⟩ := shows.plan
    (Catalog.fits_of_ownerless (List.forall_mem_singleton.mpr owner) (fits present)) present rfl
  exact Prod.ext planned (catalogOf_injective same)

theorem planFrom_absent : ({ identity := .trigger } : Dialect).planFrom (catalogOf false) [items] =
    .ok { steps, tables := [("Items", .creating)] } := by
  decide +kernel

theorem planFrom_present : ({ identity := .trigger } : Dialect).planFrom (catalogOf true) [items] =
    .ok { tables := [("Items", .present)] } := by
  decide +kernel

/-- Where the table is there, a migration has nothing to do. -/
theorem outcome_present (refuses : Bool) :
    (migration refuses true).outcome = (.ok {}, true) ∧ (migration refuses true).achieved = [] := by
  have planned := perform_plan refuses true
  rw [planFrom_present] at planned
  exact ⟨Session.perform_bind_eq_ok.mpr ⟨_, true, planned, rfl⟩, Attempt.achieved_of_plan planned⟩

/-- Where the table is absent, a migration makes it, and then stops if the trigger is refused. -/
theorem perform_apply (refuses : Bool) :
    let applied := (apply (migration refuses false).executor steps).perform false
    (applied.1.isOk, applied.2) = (!refuses, true) := by
  cases refuses <;> decide +kernel

theorem outcome_absent (refuses : Bool) :
    (migration refuses false).outcome.1.isOk = !refuses ∧
      (migration refuses false).outcome.2 = true := by
  have planned := perform_plan refuses false
  rw [planFrom_absent] at planned
  obtain ⟨comes, leaves⟩ := Prod.mk.inj (perform_apply refuses)
  have applied : (migration refuses false).outcome = _ := Session.perform_bind_ok planned _
  rw [Session.perform_bind] at applied
  rw [applied]
  split
  next report after came =>
    rw [came] at comes leaves
    exact ⟨comes, leaves⟩
  next error after came =>
    rw [came] at comes leaves
    exact ⟨comes, leaves⟩

/-- A migration that is not stopped achieves all of it, and any other one not the trigger. -/
theorem achieved_absent (refuses : Bool) :
    (refuses = false → (migration refuses false).achieved = steps.map MigrationStep.definition) ∧
      (refuses = true → .createTrigger "Items" "id" ∉ (migration refuses false).achieved) := by
  have planned := perform_plan refuses false
  rw [planFrom_absent] at planned
  have achieved := Attempt.achieved_of_plan planned
  dsimp only at achieved
  have comes := (Prod.mk.inj (perform_apply refuses)).1
  rw [achieved]
  constructor
  · rintro rfl
    obtain ⟨report, came⟩ := exists_of_isOk comes
    rw [exists_apply_eq_ok_iff.mp ⟨report, _, Prod.ext came rfl⟩]
  · rintro rfl made
    have isPrefix : carriedOut (migration true false).executor steps false <+: steps :=
      carriedOut_isPrefix steps false
    have short : (carriedOut (migration true false).executor steps false).length ≤ 2 := by
      by_contra long
      have whole := isPrefix.eq_of_length_le (Nat.lt_of_not_le long)
      obtain ⟨report, after, came⟩ := exists_apply_eq_ok_iff.mpr whole
      rw [came] at comes
      cases comes
    rw [List.prefix_iff_eq_take.mp isPrefix] at made
    have early := (List.take_prefix_take_left short (l := steps)).map MigrationStep.definition
    have front : .createTrigger "Items" "id" ∈ (steps.take 2).map MigrationStep.definition :=
      early.subset made
    simp [steps] at front

end Refusing

/-- A migration that is not stopped, and one after it that finds all there. -/
theorem achieved_numbering_completed :
    let first := Refusing.migration false false
    let second := { first with state := first.outcome.2 }
    second.outcome = (.ok {}, true) ∧
      Achieved [second, first] (.createSequence "Items" "id") ∧
      Achieved [second, first] (.createTrigger "Items" "id") := by
  intro first second
  have again : second = Refusing.migration false true := by
    show Attempt.mk _ _ _ = _
    rw [(Refusing.outcome_absent false).2]
    rfl
  have succeeds : second.outcome = (.ok {}, true) := again ▸ (Refusing.outcome_present false).1
  obtain ⟨_, _, _, _, numbered⟩ := achieved_numbering_iff second [first] rfl succeeds
  refine ⟨succeeds, (numbered Refusing.items List.mem_cons_self _ List.mem_cons_self).mpr ?_⟩
  refine .inr ⟨first, List.mem_singleton.mpr rfl, .createTable Refusing.items,
    ⟨rfl, _, List.mem_cons_self, rfl⟩, ?_⟩
  rw [(Refusing.achieved_absent false).1 rfl]
  exact List.sublist_cons_self _ _

/-- **A column stays without its trigger.** A migration is stopped when the trigger is refused; the
next one comes to a report, skips nothing and does nothing, and the trigger was never made. -/
theorem achieved_numbering_stopped :
    let first := Refusing.migration true false
    let second := { first with state := first.outcome.2 }
    first.outcome.1.isOk = false ∧ second.tables.forM second.executor.dialect.checkTable = .ok () ∧
      second.executor.dialect.identity = .trigger ∧
      (∃ report, second.outcome = (.ok report, true) ∧ report.skipped = []) ∧
      ∃ table ∈ second.tables, ∃ column ∈ table.identityColumns,
        ¬Achieved [second, first] (.createTrigger table.name column.name) := by
  intro first second
  have again : second = Refusing.migration true true := by
    show Attempt.mk _ _ _ = _
    rw [(Refusing.outcome_absent true).2]
    rfl
  obtain ⟨succeeds, idle⟩ := Refusing.outcome_present true
  rw [← again] at succeeds idle
  refine ⟨(Refusing.outcome_absent true).1, by decide +kernel, rfl, ⟨{}, succeeds, rfl⟩,
    Refusing.items, List.mem_cons_self, _, List.mem_cons_self, ?_⟩
  rintro ⟨attempt, listed, made⟩
  rcases List.mem_cons.mp listed with rfl | listed
  · rw [idle] at made
    cases made
  · rw [List.mem_singleton.mp listed] at made
    exact (Refusing.achieved_absent true).2 rfl made

end Migrator

end OracleSql
