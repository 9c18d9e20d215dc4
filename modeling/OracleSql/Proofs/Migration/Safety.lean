/-
This file proves that a migration by itself neither destroys nor narrows. A column that is there is
changed in two ways only: its type becomes a wider one, which holds all that the column holds, and
it is allowed to hold nulls. Every other difference of type and every column that may hold nulls
against its declaration is listed as skipped. All the rest of a plan adds something.
-/

import OracleSql.Proofs.Column.Widening
import OracleSql.Proofs.Migration.Parts
import OracleSql.Proofs.Migration.Recovery
import OracleSql.Proofs.Migration.Survey

namespace OracleSql

/-! ### One column -/

/-- Whether a definition adds something to the database and changes nothing that is there. -/
def Definition.adds : Definition → Bool
  | createSequence _ _ => true
  | createTrigger _ _ => true
  | createTable _ => true
  | addColumn _ _ => true
  | definition => definition.furnishes

theorem Definition.adds_of_furnishes {definition : Definition}
    (furnishes : definition.furnishes = true) : definition.adds = true := by
  unfold adds
  split
  case h_5 => exact furnishes
  all_goals rfl

/-- Nothing that is added is dropped. -/
theorem Definition.kind_of_adds {definition : Definition} (adds : definition.adds = true) :
    definition.kind ≠ .drop := by
  intro drops
  cases definition <;> cases drops <;> cases adds

/-- What may be planned for a column that is there, with the type it is declared with: to make it
larger, to let it hold nulls, and to give it a comment. -/
inductive Definition.Grows (table : Table) (column : Column) (current : LiveColumn)
    (columnType : ColumnType) : Definition → Prop
  | widens (wider : current.columnType.compare columnType = .widen) :
    Grows table column current columnType (.modifyType table.name column.name columnType)
  | loosens : Grows table column current columnType
      (.modifyNullness table.name column.name true)
  | furnishes {definition : Definition} (some : definition.furnishes = true) :
    Grows table column current columnType definition

/-- What must be skipped of a column that is there, with the type it is declared with. -/
structure Difference.Reports (table : Table) (column : Column) (current : LiveColumn)
    (columnType : ColumnType) (skipped : List Skipped) : Prop where
  narrowing : current.columnType.compare columnType = .narrow →
    ⟨table.name, column.name, .narrowing current.columnType columnType⟩ ∈ skipped
  changing : current.columnType.compare columnType = .incompatible →
    ⟨table.name, column.name, .changing current.columnType columnType⟩ ∈ skipped
  tightening : table.allowsNull column = false → current.nullable = true →
    ⟨table.name, column.name, .tightening⟩ ∈ skipped

namespace Difference

variable {dialect : Dialect} {table : Table} {column : Column} {live : LiveTable}
  {current : LiveColumn} {difference : Difference} {declared : ColumnType}

theorem Reports.mono {fewer more : List Skipped} (subset : fewer ⊆ more)
    (reports : Reports table column current declared fewer) :
    Reports table column current declared more :=
  ⟨fun narrow => subset (reports.narrowing narrow), fun other => subset (reports.changing other),
    fun required nullable => subset (reports.tightening required nullable)⟩

/-- A type is changed to a wider one only, and every other change is skipped. -/
theorem grows_of_ofType
    (built : ofType dialect table.name column.name current.columnType declared = .ok difference) :
    (∀ definition ∈ difference.definitions,
      definition.Grows table column current declared) ∧
    (current.columnType.compare declared = .narrow →
      ⟨table.name, column.name, .narrowing current.columnType declared⟩ ∈ difference.skipped) ∧
    (current.columnType.compare declared = .incompatible →
      ⟨table.name, column.name, .changing current.columnType declared⟩ ∈ difference.skipped) := by
  unfold ofType at built
  cases compared : current.columnType.compare declared <;> rw [compared] at built
  case same =>
    cases built
    exact ⟨List.forall_mem_nil _, nofun, nofun⟩
  case widen =>
    obtain ⟨single, -⟩ := of_ofDefinitions built
    rw [single]
    exact ⟨List.forall_mem_singleton.mpr (.widens compared), nofun, nofun⟩
  case narrow =>
    cases built
    exact ⟨List.forall_mem_nil _, fun _ => List.mem_singleton.mpr rfl, nofun⟩
  case incompatible =>
    cases built
    exact ⟨List.forall_mem_nil _, nofun, fun _ => List.mem_singleton.mpr rfl⟩

/-- Nulls are only ever allowed, and a column that may hold some against its declaration is
skipped. -/
theorem grows_of_ofNullness (declared : ColumnType)
    (built : ofNullness dialect table.name column.name current.nullable
      (table.allowsNull column) = .ok difference) :
    (∀ definition ∈ difference.definitions, definition.Grows table column current declared) ∧
    (table.allowsNull column = false → current.nullable = true →
      ⟨table.name, column.name, .tightening⟩ ∈ difference.skipped) := by
  unfold ofNullness at built
  cases allowed : table.allowsNull column <;> cases nullable : current.nullable <;>
    rw [allowed, nullable] at built
  case false.true =>
    cases built
    exact ⟨List.forall_mem_nil _, fun _ _ => List.mem_singleton.mpr rfl⟩
  case true.false =>
    obtain ⟨single, -⟩ := of_ofDefinitions built
    rw [single]
    exact ⟨List.forall_mem_singleton.mpr .loosens, nofun⟩
  all_goals
    cases built
    exact ⟨List.forall_mem_nil _, by simp⟩

/-- A column that is there only grows, and what would not let it grow is reported. -/
theorem grows_of_ofColumn (found : dialect.Finds live column current)
    (built : ofColumn dialect table live column = .ok difference) :
    ∃ declared, dialect.columnType column = .ok declared ∧
      (∀ definition ∈ difference.definitions, definition.Grows table column current declared) ∧
      Reports table column current declared difference.skipped := by
  obtain ⟨name, stored, present⟩ := found
  obtain ⟨declared, types, nulls, comment, typed, first, second, third, rfl⟩ :=
    (ofColumn_eq_ok_iff stored present).mp built
  obtain ⟨typeGrows, narrowing, changing⟩ := grows_of_ofType first
  obtain ⟨nullsGrow, tightening⟩ := grows_of_ofNullness declared second
  obtain ⟨furnishes, -⟩ := furnishing_ofComment third
  refine ⟨declared, mapError_eq_ok.mp typed, ?_, ?_⟩
  · rw [definitions_append, definitions_append]
    refine List.forall_mem_append.mpr ⟨List.forall_mem_append.mpr ⟨typeGrows, nullsGrow⟩, ?_⟩
    exact fun definition member => .furnishes (furnishes definition member)
  · refine ⟨fun narrow => ?_, fun other => ?_, fun required nullable => ?_⟩
    · exact List.mem_append_left _ (List.mem_append_left _ (narrowing narrow))
    · exact List.mem_append_left _ (List.mem_append_left _ (changing other))
    · exact List.mem_append_left _ (List.mem_append_right _ (tightening required nullable))

end Difference

/-! ### One table -/

namespace Dialect

variable {dialect : Dialect} {table : Table} {live : LiveTable} {plan : TablePlan}

theorem adds_of_mem_sequenceDefinitions {column : Column} {definition : Definition}
    (member : definition ∈ column.sequenceDefinitions table.name) : definition.adds = true := by
  rw [(Column.mem_sequenceDefinitions.mp member).2]
  rfl

theorem adds_of_mem_triggerDefinitions {column : Column} {definition : Definition}
    (member : definition ∈ dialect.triggerDefinitions table.name column) :
    definition.adds = true := by
  unfold triggerDefinitions at member
  split at member
  · rw [List.mem_singleton.mp member]
    rfl
  · exact absurd member List.not_mem_nil

/-- A table that is created brings all it has with it, and so does a column that is added. -/
theorem adds_of_mem_tableDefinitions {definition : Definition}
    (member : definition ∈ dialect.tableDefinitions table) : definition.adds = true := by
  obtain ⟨rest, furnishing, parts⟩ := exists_rest_of_tableDefinitions dialect table
  rw [parts, List.mem_append, List.mem_append, List.mem_append, List.mem_singleton] at member
  rcases member with ((sequence | rfl) | trigger) | other
  · obtain ⟨column, _, inside⟩ := List.mem_flatMap.mp sequence
    exact adds_of_mem_sequenceDefinitions inside
  · rfl
  · obtain ⟨column, _, inside⟩ := List.mem_flatMap.mp trigger
    exact adds_of_mem_triggerDefinitions inside
  · exact Definition.adds_of_furnishes (furnishing definition other)

theorem adds_of_mem_columnDefinitions {column : Column} {definition : Definition}
    (member : definition ∈ dialect.columnDefinitions table column) : definition.adds = true := by
  unfold columnDefinitions at member
  rw [List.mem_append, List.mem_append, List.mem_append, List.mem_singleton] at member
  rcases member with ((sequence | rfl) | trigger) | comment
  · exact adds_of_mem_sequenceDefinitions sequence
  · rfl
  · exact adds_of_mem_triggerDefinitions trigger
  · exact Definition.adds_of_furnishes
      (furnishing_commentDefinitions column table.name definition comment)

/-- What is planned for a table adds something, or lets a column grow that is there. -/
theorem adds_or_grows_of_planTable {live : Option LiveTable}
    (planned : dialect.planTable table live = .ok plan) {definition : Definition}
    (member : definition ∈ plan.difference.definitions) :
    definition.adds = true ∨
      ∃ known column current declared, live = some known ∧ column ∈ table.columns ∧
        dialect.Finds known column current ∧ dialect.columnType column = .ok declared ∧
        definition.Grows table column current declared := by
  obtain ⟨built, -⟩ := parts_of_planTable planned
  cases live with
  | none =>
    rw [(Difference.of_ofDefinitions built).1] at member
    exact .inl (adds_of_mem_tableDefinitions member)
  | some known =>
    obtain ⟨columns, rest, compared, parts, furnishing, -⟩ :=
      Difference.exists_columns_of_ofTable built
    rw [parts, List.mem_append] at member
    rcases member with inside | other
    · obtain ⟨part, listed, inside⟩ := List.mem_flatMap.mp inside
      obtain ⟨column, belongs, made⟩ := exists_of_forall₂ (mapM_eq_ok_iff.mp compared).flip listed
      rcases Difference.finds_or_misses made with ⟨current, found⟩ | missing
      · obtain ⟨declared, typed, grows, -⟩ := Difference.grows_of_ofColumn found made
        exact .inr ⟨known, column, current, declared, rfl, belongs, found, typed,
          grows definition inside⟩
      · rw [(Difference.definitions_of_misses missing made).1] at inside
        exact .inl (adds_of_mem_columnDefinitions inside)
    · exact .inl (Definition.adds_of_furnishes (furnishing definition other))

/-- A column that is there is reported where it does not only grow. -/
theorem reports_of_planTable (planned : dialect.planTable table (some live) = .ok plan)
    {column : Column} (member : column ∈ table.columns) {current : LiveColumn}
    (found : dialect.Finds live column current) :
    ∃ declared, dialect.columnType column = .ok declared ∧
      Difference.Reports table column current declared plan.difference.skipped := by
  obtain ⟨built, -⟩ := parts_of_planTable planned
  obtain ⟨columns, _, compared, -, -, skipped⟩ := Difference.exists_columns_of_ofTable built
  obtain ⟨part, listed, made⟩ := exists_of_forall₂ (mapM_eq_ok_iff.mp compared) member
  obtain ⟨declared, typed, -, reports⟩ := Difference.grows_of_ofColumn found made
  refine ⟨declared, typed, reports.mono fun entry inside => ?_⟩
  rw [skipped]
  exact List.mem_flatMap.mpr ⟨part, listed, inside⟩

end Dialect

/-! ### A whole plan -/

/-- A plan that is safe for what was seen. -/
structure MigrationPlan.Safe (dialect : Dialect) (seen : List Sight) (plan : MigrationPlan) :
    Prop where
  /-- Nothing is dropped. -/
  drops_nothing : ∀ step ∈ plan.steps, step.definition.kind ≠ .drop
  /-- A type is only changed to the declared one, which is wider than that of the column which was
  seen and holds all of its contents. -/
  widens : ∀ step ∈ plan.steps, ∀ tableName columnName columnType,
    step.definition = .modifyType tableName columnName columnType →
      ∃ table live column current, (table, some live) ∈ seen ∧ column ∈ table.columns ∧
        dialect.Finds live column current ∧ tableName = table.name ∧ columnName = column.name ∧
        dialect.columnType column = .ok columnType ∧
        current.columnType.compare columnType = .widen ∧
        ∀ datum, current.columnType.Holds datum → columnType.Holds datum
  /-- Nulls are never forbidden. -/
  loosens : ∀ step ∈ plan.steps, ∀ tableName columnName nullable,
    step.definition = .modifyNullness tableName columnName nullable → nullable = true
  /-- A column that was seen has a declared type; if this is neither the same nor a wider one, the
  change is skipped, and so is that of a column which may hold nulls against its declaration. -/
  reports : ∀ table live column current, (table, some live) ∈ seen → column ∈ table.columns →
    dialect.Finds live column current → ∃ columnType, dialect.columnType column = .ok columnType ∧
      (current.columnType.compare columnType ≠ .same →
        current.columnType.compare columnType ≠ .widen →
          ⟨table.name, column.name, .narrowing current.columnType columnType⟩ ∈ plan.skipped ∨
          ⟨table.name, column.name, .changing current.columnType columnType⟩ ∈ plan.skipped) ∧
      (table.allowsNull column = false → current.nullable = true →
        ⟨table.name, column.name, .tightening⟩ ∈ plan.skipped)

namespace MigrationPlan

variable {dialect : Dialect} {plan : MigrationPlan} {parts : List (Sight × TablePlan)}

/-- Every step of a plan adds something, or lets a column grow that was seen. -/
theorem Made.adds_or_grows (made : plan.Made dialect parts) {step : MigrationStep}
    (member : step ∈ plan.steps) :
    step.definition.adds = true ∨
      ∃ table live column current declared, (table, some live) ∈ parts.map Prod.fst ∧
        column ∈ table.columns ∧ dialect.Finds live column current ∧
        dialect.columnType column = .ok declared ∧
        step.definition.Grows table column current declared := by
  rw [made.steps, List.mem_append, List.mem_flatMap, List.mem_flatMap] at member
  rcases member with ⟨part, listed, inside⟩ | ⟨part, listed, inside⟩
  · have among := List.mem_map_of_mem (f := MigrationStep.definition) inside
    rcases Dialect.adds_or_grows_of_planTable (made.planned part listed) among with
      adds | ⟨live, column, current, declared, seen, rest⟩
    · exact .inl adds
    · refine .inr ⟨part.1.1, live, column, current, declared, ?_, rest⟩
      rw [← seen]
      exact List.mem_map_of_mem listed
  · have among := List.mem_map_of_mem (f := MigrationStep.definition) inside
    exact .inl (Definition.adds_of_furnishes
      (Dialect.furnishing_foreignKeys (made.planned part listed) _ among))

/-- A plan that is made of what was seen is safe for it. -/
theorem Made.safe (made : plan.Made dialect parts) : plan.Safe dialect (parts.map Prod.fst) where
  drops_nothing step member := by
    rcases made.adds_or_grows member with adds | ⟨_, _, _, _, _, _, _, _, _, grows⟩
    · exact Definition.kind_of_adds adds
    · generalize step.definition = definition at grows
      cases grows with
      | widens => exact nofun
      | loosens => exact nofun
      | furnishes some => exact Definition.kind_of_adds (Definition.adds_of_furnishes some)
  widens step member tableName columnName columnType same := by
    rcases made.adds_or_grows member with
      adds | ⟨table, live, column, current, declared, seen, belongs, found, typed, grows⟩
    · rw [same] at adds
      cases adds
    · rw [same] at grows
      cases grows with
      | widens wider =>
        have plain : ∀ scale, columnType ≠ .number none (some scale) := by
          rw [← Dialect.typeOf_of_columnType typed]
          exact dialect.typeOf_ne_number column
        exact ⟨table, live, column, current, seen, belongs, found, rfl, rfl, typed, wider,
          fun datum => ColumnType.holds_of_widen plain wider⟩
      | furnishes some => cases some
  loosens step member tableName columnName nullable same := by
    rcases made.adds_or_grows member with adds | ⟨_, _, _, _, _, _, _, _, _, grows⟩
    · rw [same] at adds
      cases adds
    · rw [same] at grows
      cases grows with
      | loosens => rfl
      | furnishes some => cases some
  reports table live column current seen belongs found := by
    obtain ⟨part, listed, same⟩ := List.mem_map.mp seen
    have planned := made.planned part listed
    rw [same] at planned
    obtain ⟨declared, typed, reports⟩ := Dialect.reports_of_planTable planned belongs found
    have whole : part.2.difference.skipped ⊆ plan.skipped := by
      rw [made.skipped]
      exact fun entry inside => List.mem_flatMap.mpr ⟨part, listed, inside⟩
    refine ⟨declared, typed, fun differs unwidened => ?_, fun required nullable =>
      whole (reports.tightening required nullable)⟩
    cases compared : current.columnType.compare declared with
    | same => exact absurd compared differs
    | widen => exact absurd compared unwidened
    | narrow => exact .inl (whole (reports.narrowing compared))
    | incompatible => exact .inr (whole (reports.changing compared))

end MigrationPlan

/-- **A migration never destroys or narrows.** Whatever the settings, the declared tables and the
database: a plan that comes out is made of what a survey of the dictionary sees, and is safe for
it. -/
theorem Migrator.plan_safe {σ : Type} (executor : Executor σ) (tables : List Table)
    {state after : σ} {plan : MigrationPlan}
    (planned : (Migrator.plan executor tables).perform state = (.ok plan, after)) :
    ∃ seen, (survey executor tables).perform state = (.ok seen, after) ∧
      seen.map Prod.fst = tables ∧ plan.Safe executor.dialect seen := by
  obtain ⟨parts, surveyed, names, made⟩ := plan_eq_ok planned
  exact ⟨parts.map Prod.fst, surveyed, by rw [List.map_map]; exact names, made.safe⟩

namespace Narrowed

/-- Items with titles and codes. -/
def items : Table where
  name := "Items"
  columns :=
    [{ name := "title", fieldType := .string, size := some 100 },
      { name := "code", fieldType := .string, size := some 5, nullable := false }]

/-- The items as they are: the titles are too small, and the codes are larger than declared and may
be null. -/
def liveItems : LiveTable where
  columns := [⟨"TITLE", .varchar 50, false⟩, ⟨"CODE", .varchar 9, true⟩]

def catalog : Catalog := fun name => if name = "ITEMS" then some liveItems else none

def database : Executor Unit where
  dialect := {}
  connection := .ofCatalog (fun _ => catalog) .numbered

/-- What is planned is what the catalog asks for. -/
theorem perform_plan : (Migrator.plan database [items]).perform () =
    (({} : Dialect).planFrom catalog [items], ()) := by
  have fits : ∀ name live, catalog name = some live →
      ∀ column ∈ live.columns, column.columnType.Fits :=
    fun _ _ => LiveTable.fits_of_ite (by simp [liveItems, ColumnType.Fits, UInt32.size])
  have shows : database.Shows fun _ => catalog := Executor.shows_ofCatalog {} fun _ => fits
  have owner : (({} : Dialect).storedTable items.name).map StoredTable.owner = .ok none := by
    decide +kernel
  obtain ⟨planned, -⟩ := shows.plan
    (Catalog.fits_of_ownerless (List.forall_mem_singleton.mpr owner) fits) () rfl
  exact Prod.ext planned (Subsingleton.elim _ _)

end Narrowed

/-- A table with one column that is too small and one that is larger than declared and may hold
nulls. -/
theorem Migrator.plan_safe_narrowing :
    ∃ plan seen,
      (Migrator.plan Narrowed.database [Narrowed.items]).perform () = (.ok plan, ()) ∧
      plan.steps.map MigrationStep.definition =
        [.modifyType "Items" "title" (.varchar 100), .modifyNullness "Items" "title" true] ∧
      plan.skipped =
        [⟨"Items", "code", .narrowing (.varchar 9) (.varchar 5)⟩, ⟨"Items", "code", .tightening⟩] ∧
      (survey Narrowed.database [Narrowed.items]).perform () = (.ok seen, ()) ∧
      plan.Safe {} seen := by
  have planned := Narrowed.perform_plan
  have worked : (({} : Dialect).planFrom Narrowed.catalog [Narrowed.items]).map
      (fun plan => (plan.steps.map MigrationStep.definition, plan.skipped)) =
        .ok ([.modifyType "Items" "title" (.varchar 100), .modifyNullness "Items" "title" true],
          [⟨"Items", "code", .narrowing (.varchar 9) (.varchar 5)⟩,
            ⟨"Items", "code", .tightening⟩]) := by
    decide +kernel
  obtain ⟨plan, known, found⟩ := map_eq_ok.mp worked
  rw [known] at planned
  simp only [Prod.mk.injEq] at found
  obtain ⟨seen, surveyed, -, safe⟩ :=
    Migrator.plan_safe Narrowed.database [Narrowed.items] planned
  exact ⟨plan, seen, planned, found.1, found.2, surveyed, safe⟩

end OracleSql
