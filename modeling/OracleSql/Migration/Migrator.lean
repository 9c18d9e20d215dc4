/-
This file brings the database to what is declared. All declarations are checked first. Then the
dictionary is asked about each table, and the steps are worked out: an absent table is made, a
present one gets what it lacks, and foreign keys come last, so that tables can refer to each other.
Only then the steps are run, in order. An error that says that a step was carried out already counts
as success; any other one ends the migration.

Renaming, dropping and narrowing are never done by themselves. Each has a call of its own.
-/

import OracleSql.Migration.Dictionary

namespace OracleSql

/-! ### Plans and reports -/

/-- Where a table stands at the start of a migration. -/
inductive TableState where
  /-- It is absent and will be made. -/
  | creating
  /-- It is as declared. -/
  | present
  /-- It lacks something. -/
  | altering
  deriving DecidableEq

/-- The steps of a migration, before any of them is run. -/
structure MigrationPlan where
  steps : List MigrationStep := []
  skipped : List Skipped := []
  tables : List (String × TableState) := []
  deriving DecidableEq

/-- The steps as a script, each on a line of its own and with one semicolon at its end. -/
def MigrationPlan.script (plan : MigrationPlan) : String :=
  Text.join "" (plan.steps.map fun step =>
    String.ofList (step.sql.toList.reverse.dropWhile (· == ';')).reverse ++ ";\n")

/-- What a migration has done. -/
structure MigrationReport where
  executed : List String := []
  /-- The steps that had been carried out before. -/
  tolerated : List String := []
  skipped : List Skipped := []
  deriving DecidableEq

/-! ### Checking declarations -/

/-- Accepts a declaration that the dialect can express. -/
def Dialect.checkTable (dialect : Dialect) (table : Table) : Except Error Unit := do
  let place := Context.on "migrate" table.name
  (Error.ofTable table.check).mapError (Error.within place)
  table.columns.forM fun column =>
    ((Error.ofColumn column (dialect.columnType column)).map fun _ => ()).mapError
      (Error.within { place with column := some column.name })
  table.foreignKeys.forM table.checkForeignKey

/-- Whether a table or one of its columns has a comment. -/
def Table.hasComments (table : Table) : Bool :=
  table.comment.isSome || table.columns.any fun column => column.comment.isSome

/-! ### Planning -/

/-- What a table needs, its foreign keys apart from the rest. -/
structure TablePlan where
  state : TableState
  difference : Difference
  foreignKeys : List MigrationStep

/-- The foreign keys of a table that are not there. -/
def Dialect.missingForeignKeys (dialect : Dialect) (table : Table) (live : Option LiveTable) :
    Except Error (List MigrationStep) := do
  let steps ← table.foreignKeys.mapM fun key => do
    let present ← match live with
      | some known => (dialect.stored key.name).map known.constraints.contains
      | none => .ok false
    if present then .ok [] else dialect.steps [.addForeignKey table key]
  .ok steps.flatten

/-- What a table needs, given what is there. -/
def Dialect.planTable (dialect : Dialect) (table : Table) (live : Option LiveTable) :
    Except Error TablePlan := do
  let (state, difference) ← match live with
    | none =>
      (Difference.ofDefinitions dialect (dialect.tableDefinitions table)).map (.creating, ·)
    | some known =>
      (Difference.ofTable dialect table known).map fun difference =>
        (if difference.steps.isEmpty then .present else .altering, difference)
  let foreignKeys ← dialect.missingForeignKeys table live
  .ok { state, difference, foreignKeys }

/-- What all tables need together. -/
def MigrationPlan.ofTables (parts : List (Table × TablePlan)) : MigrationPlan where
  steps := parts.flatMap (·.2.difference.steps) ++ parts.flatMap (·.2.foreignKeys)
  skipped := parts.flatMap (·.2.difference.skipped)
  tables := parts.map fun (table, plan) => (table.name, plan.state)

namespace Migrator

variable {σ : Type}

/-- What a table needs. -/
def planTable (executor : Executor σ) (table : Table) : Session σ (Table × TablePlan) := do
  let stored ← Session.ofExcept (executor.dialect.storedTable table.name)
  let live ← Dictionary.liveTable executor stored table.hasComments
  return (table, ← Session.ofExcept (executor.dialect.planTable table live))

/-- The steps that bring the database to what is declared. -/
def plan (executor : Executor σ) (tables : List Table) : Session σ MigrationPlan := do
  Session.ofExcept (tables.forM executor.dialect.checkTable)
  return .ofTables (← tables.mapM (planTable executor))

/-! ### Running -/

/-- Whether an error of a step says that it was carried out already. -/
def tolerates (kind : DefinitionKind) (error : Error) : Bool :=
  match kind with
  | .create => error.isPresentOnCreate
  | .alter => error.isPresentOnCreate
  | .drop => error.isAbsentOnDrop

/-- Whether an error comes from the session and not from a step. -/
def isOfSession : Error → Bool
  | .timeout _ => true
  | .cancelled => true
  | .pool _ => true
  | _ => false

/-- Runs a step; the answer says whether it had to be. -/
def runStep (executor : Executor σ) (step : MigrationStep) : Session σ Bool := do
  let table := step.definition.table
  match ← (executor.execute { Statement.definition step.sql with table := some table }).attempt with
  | .ok _ => return true
  | .error error =>
    if tolerates step.definition.kind error then return false
    else if isOfSession error then throw error
    else throw (.migration (step.sql ++ ": " ++ error.message) (.on "migrate" table))

/-- Runs steps in order. -/
def apply (executor : Executor σ) (steps : List MigrationStep) : Session σ MigrationReport := do
  let done ← steps.mapM fun step => do return (step.sql, ← runStep executor step)
  return {
    executed := (done.filter fun entry => entry.2).map Prod.fst
    tolerated := (done.filter fun entry => !entry.2).map Prod.fst }

/-- Brings the database to what is declared. -/
def migrate (executor : Executor σ) (tables : List Table) : Session σ MigrationReport := do
  let plan ← plan executor tables
  let report ← apply executor plan.steps
  return { report with skipped := plan.skipped }

/-- Runs the steps of some definitions. -/
def define (executor : Executor σ) (definitions : List Definition) :
    Session σ MigrationReport := do
  apply executor (← Session.ofExcept (executor.dialect.steps definitions))

/-! ### Looking up -/

/-- Whether there is such a table. -/
def hasTable (executor : Executor σ) (table : String) : Session σ Bool := do
  let stored ← Session.ofExcept (executor.dialect.storedTable table)
  Dictionary.hasTable executor stored

/-- The columns of a table. -/
def columnTypes (executor : Executor σ) (table : String) : Session σ (List LiveColumn) := do
  let stored ← Session.ofExcept (executor.dialect.storedTable table)
  Dictionary.columns executor stored

/-- Whether the names that a question yields for a table hold the stored form of a name. -/
def hasName (executor : Executor σ) (question : StoredTable → Session σ (List String))
    (table name : String) : Session σ Bool := do
  let storedTable ← Session.ofExcept (executor.dialect.storedTable table)
  let storedName ← Session.ofExcept (executor.dialect.stored name)
  return (← question storedTable).contains storedName

/-- Whether a table has such a column. -/
def hasColumn (executor : Executor σ) : (table column : String) → Session σ Bool :=
  hasName executor fun table => do
    return (← Dictionary.columns executor table).map LiveColumn.name

/-- Whether a table has such an index. -/
def hasIndex (executor : Executor σ) : (table index : String) → Session σ Bool :=
  hasName executor (Dictionary.indexNames executor)

/-- Whether a table has such a constraint. -/
def hasConstraint (executor : Executor σ) : (table constraint : String) → Session σ Bool :=
  hasName executor (Dictionary.constraintNames executor)

/-! ### Changes that are asked for -/

/-- Makes a view of a trusted query, which may not have markers. -/
def createView (executor : Executor σ) (name query : String) (replace : Bool) :
    Session σ MigrationReport := do
  let markers ← Session.ofExcept (Error.ofLexemes (Marker.nativeNames query))
  if !markers.isEmpty || query.toList.contains '?' then throw (.statement .boundView {})
  define executor [.createView name query replace]

/-- Drops a table with the sequences of its columns. -/
def dropTable (executor : Executor σ) (table : Table) : Session σ MigrationReport :=
  define executor (.dropTable table.name ::
    table.identityColumns.map fun column => .dropSequence table.name column.name)

/-- Brings a column to its declared type, even where that narrows it, and to hold nulls or not. -/
def alterColumn (executor : Executor σ) (table : Table) (name : String) :
    Session σ MigrationReport := do
  let dialect := executor.dialect
  let some column := table.column? name
    | throw (.validation (.table (.noSuchColumn table.name name)))
  let columnType ← Session.ofExcept (Error.ofColumn column (dialect.columnType column))
  let modify ← Session.ofExcept (dialect.step (.modifyType table.name column.name columnType))
  let storedTable ← Session.ofExcept (dialect.storedTable table.name)
  let storedColumn ← Session.ofExcept (dialect.stored column.name)
  let live ← Dictionary.columns executor storedTable
  let nullable := table.allowsNull column
  let differs := (live.find? fun known => known.name == storedColumn).any
    fun known => known.nullable != nullable
  let others ← if differs then
      Session.ofExcept (dialect.steps [.modifyNullness table.name column.name nullable])
    else pure []
  apply executor (modify :: others)

end Migrator

end OracleSql
