/-
This file holds definitions: the statements that make, change and drop tables and what belongs to
them. A definition says what is to be done in declared names; its text writes these names as the
database stores them. The only literals in a text are defaults and comments of declarations, in
single quotes with every quote inside written twice.

The number of a row in an identity column comes from a sequence, either as the default of the column
or by a trigger. Sequence and trigger are named for table and column.
-/

import OracleSql.ColumnType
import OracleSql.Error.Basic
import OracleSql.Piece

namespace OracleSql

/-! ### Names -/

namespace Dialect

/-- A word in lower case where names keep their spelling, and in upper case else. -/
def casedWord (dialect : Dialect) (word : String) : String :=
  match dialect.identifierCase with
  | .upper => Text.foldUpper word
  | .preserve => Text.foldLower word

/-- The stored spelling of a name. -/
def stored (dialect : Dialect) (name : String) : Except Error String :=
  Error.ofName (dialect.storedName name)

/-- The stored spelling of a name that is taken exactly as it stands. -/
def storedExactly (dialect : Dialect) (name : String) : Except Error String :=
  dialect.stored (Identifier.inQuotes name)

/-- The stored name of an object that belongs to a column. -/
def columnObject (dialect : Dialect) (table column ending : String) : Except Error String := do
  let storedTable ← dialect.stored table
  let storedColumn ← dialect.stored column
  dialect.storedExactly (storedTable ++ "_" ++ storedColumn ++ "_" ++ dialect.casedWord ending)

/-- The stored name of the sequence that numbers the rows in a column. -/
def sequenceName (dialect : Dialect) (table column : String) : Except Error String :=
  dialect.columnObject table column "seq"

/-- The stored name of the trigger that numbers the rows in a column. -/
def triggerName (dialect : Dialect) (table column : String) : Except Error String :=
  dialect.columnObject table column "trg"

/-- The stored name of the constraint of a primary key: its own, or one made from the table. -/
def primaryKeyName (dialect : Dialect) (table : String) (key : PrimaryKey) :
    Except Error String :=
  match key.name with
  | some name => dialect.stored name
  | none => do
    let storedTable ← dialect.stored table
    dialect.storedExactly (dialect.casedWord "pk" ++ "_" ++ storedTable)

/-- Quoted names with commas between them. -/
def nameTexts (dialect : Dialect) (names : List String) : Except Error String :=
  (names.mapM dialect.nameText).map (Text.join ", ")

end Dialect

/-! ### Columns -/

/-- One letter inside a literal: a quote is written twice. -/
def literalLetter (letter : Char) : List Char :=
  if letter = '\'' then ['\'', '\''] else [letter]

/-- A text as a literal. -/
def literal (content : String) : String :=
  String.ofList ('\'' :: (content.toList.flatMap literalLetter ++ ['\'']))

namespace Table

/-- Whether a column is one of the primary key. -/
def isKeyColumn (table : Table) (column : Column) : Bool :=
  table.primaryKey.any fun key => Text.memFolded column.name key.columns

/-- Whether a column of the table can hold the null. Keys and numbers of rows never can. -/
def allowsNull (table : Table) (column : Column) : Bool :=
  column.nullable && !column.identity && !table.isKeyColumn column

end Table

/-- A default as a definition writes it. A number that is not finite has no form. -/
def ColumnDefault.sql (dialect : Dialect) : ColumnDefault → Except Column.Fault String
  | bool flag =>
    .ok (if dialect.nativeBoolean then (if flag then "TRUE" else "FALSE")
      else if flag then "1" else "0")
  | int number => .ok (toString number.toInt)
  | float number => if number.isFinite then .ok number.toText else .error (.endlessDefault number)
  | text content => .ok (literal content)
  | now => .ok "SYSTIMESTAMP"
  | expression sql => .ok sql

/-- The default clause of a column. -/
def Dialect.defaultClause (dialect : Dialect) (table : Table) (column : Column) :
    Except Error String :=
  if column.identity && dialect.identity == .sequenceDefault then do
    let sequence ← dialect.sequenceName table.name column.name
    .ok (" DEFAULT " ++ Identifier.inQuotes sequence ++ ".NEXTVAL")
  else match column.default with
    | some content => do
      let written ← Error.ofColumn column (content.sql dialect)
      .ok (" DEFAULT " ++ written)
    | none => .ok ""

/-- A column in the definition of its table. -/
def Dialect.columnText (dialect : Dialect) (table : Table) (column : Column) :
    Except Error String := do
  let name ← dialect.nameText column.name
  let columnType ← Error.ofColumn column (dialect.columnType column)
  if column.identity && column.default.isSome then
    throw (.validation (.column column.name .identityDefault))
  let default ← dialect.defaultClause table column
  let required := if table.allowsNull column then "" else " NOT NULL"
  let check := (dialect.checkCondition? column name).elim "" fun condition =>
    " CHECK (" ++ condition ++ ")"
  .ok (name ++ " " ++ columnType.sql ++ default ++ required ++ check)

/-! ### Foreign keys -/

/-- The first thing about a foreign key that the server cannot express. -/
def Table.foreignKeyFault? (table : Table) (key : ForeignKey) : Option CapabilityFault :=
  if key.onDelete = .restrict ∨ key.onDelete = .setDefault then
    some (.onDelete key.name key.onDelete)
  else if key.onUpdate ≠ .noAction then some (.onUpdate key.name key.onUpdate)
  else if key.onDelete = .setNull then
    (key.columns.find? fun name =>
      (table.column? name).any fun column => !table.allowsNull column).map
      (.nullOnRequired key.name)
  else none

/-- Accepts a foreign key that the server can express. -/
def Table.checkForeignKey (table : Table) (key : ForeignKey) : Except Error Unit :=
  match table.foreignKeyFault? key with
  | some fault => .error (.capability fault (.on "migrate" table.name))
  | none => .ok ()

/-- What a foreign key says about rows that are removed. -/
def ForeignKey.deleteClause (key : ForeignKey) : String :=
  match key.onDelete with
  | .cascade => " ON DELETE CASCADE"
  | .setNull => " ON DELETE SET NULL"
  | _ => ""

/-! ### Definitions -/

/-- Which errors of a definition say that it was carried out already. -/
inductive DefinitionKind where
  | create
  | alter
  | drop
  deriving DecidableEq

/-- What a definition does. -/
inductive Definition where
  | createSequence (table column : String)
  | createTrigger (table column : String)
  | createTable (table : Table)
  | createIndex (table : String) (index : Index)
  | addPrimaryKey (table : String) (key : PrimaryKey)
  | addForeignKey (table : Table) (key : ForeignKey)
  | addColumn (table : Table) (column : Column)
  | modifyType (table column : String) (columnType : ColumnType)
  | modifyNullness (table column : String) (nullable : Bool)
  | commentTable (table comment : String)
  | commentColumn (table column comment : String)
  | renameTable (source target : String)
  | renameColumn (table source target : String)
  | renameIndex (table source target : String)
  | createView (name query : String) (replace : Bool)
  | dropView (name : String)
  | dropTable (name : String)
  | dropSequence (table column : String)
  | dropColumn (table column : String)
  | dropIndex (table index : String)
  | dropConstraint (table constraint : String)
  /-- A definition written by hand. -/
  | handWritten (kind : DefinitionKind) (table sql : String)
  deriving DecidableEq

namespace Definition

/-- The kind of a definition. -/
def kind : Definition → DefinitionKind
  | createSequence _ _ => .create
  | createTrigger _ _ => .create
  | createTable _ => .create
  | createIndex _ _ => .create
  | addPrimaryKey _ _ => .create
  | addForeignKey _ _ => .create
  | addColumn _ _ => .create
  | createView _ _ _ => .create
  | modifyType _ _ _ => .alter
  | modifyNullness _ _ _ => .alter
  | commentTable _ _ => .alter
  | commentColumn _ _ _ => .alter
  | renameTable _ _ => .alter
  | renameColumn _ _ _ => .alter
  | renameIndex _ _ _ => .alter
  | dropView _ => .drop
  | dropTable _ => .drop
  | dropSequence _ _ => .drop
  | dropColumn _ _ => .drop
  | dropIndex _ _ => .drop
  | dropConstraint _ _ => .drop
  | handWritten kind _ _ => kind

/-- The declared name of the table, or of the view, that a definition belongs to. -/
def table : Definition → String
  | createSequence table _ => table
  | createTrigger table _ => table
  | createTable table => table.name
  | createIndex table _ => table
  | addPrimaryKey table _ => table
  | addForeignKey table _ => table.name
  | addColumn table _ => table.name
  | modifyType table _ _ => table
  | modifyNullness table _ _ => table
  | commentTable table _ => table
  | commentColumn table _ _ => table
  | renameTable source _ => source
  | renameColumn table _ _ => table
  | renameIndex table _ _ => table
  | createView name _ _ => name
  | dropView name => name
  | dropTable name => name
  | dropSequence table _ => table
  | dropColumn table _ => table
  | dropIndex table _ => table
  | dropConstraint table _ => table
  | handWritten _ table _ => table

/-- The constraint of a primary key. -/
def primaryKeyText (dialect : Dialect) (table : String) (key : PrimaryKey) :
    Except Error String := do
  let name ← dialect.primaryKeyName table key
  let columns ← dialect.nameTexts key.columns
  .ok ("CONSTRAINT " ++ Identifier.inQuotes name ++ " PRIMARY KEY (" ++ columns ++ ")")

/-- The definition of a table with its columns and its primary key. -/
def tableText (dialect : Dialect) (table : Table) : Except Error String := do
  let columns ← table.columns.mapM (dialect.columnText table)
  let key ← table.primaryKey.toList.mapM (primaryKeyText dialect table.name)
  let name ← dialect.nameText table.name
  .ok ("CREATE TABLE " ++ name ++ " (" ++ Text.join ", " (columns ++ key) ++ ")")

/-- The definition of a trigger that numbers the rows which come without a number. -/
def triggerText (dialect : Dialect) (table column : String) : Except Error String := do
  let trigger ← dialect.triggerName table column
  let sequence ← dialect.sequenceName table column
  let tableName ← dialect.nameText table
  let columnName ← dialect.nameText column
  .ok ("CREATE OR REPLACE TRIGGER " ++ Identifier.inQuotes trigger ++ " BEFORE INSERT ON " ++
    tableName ++ " FOR EACH ROW WHEN (NEW." ++ columnName ++ " IS NULL) BEGIN :NEW." ++
    columnName ++ " := " ++ Identifier.inQuotes sequence ++ ".NEXTVAL; END;")

/-- The definition of an index. -/
def indexText (dialect : Dialect) (table : String) (index : Index) : Except Error String := do
  let name ← dialect.nameText index.name
  let tableName ← dialect.nameText table
  let columns ← dialect.nameTexts index.columns
  let head := if index.unique then "CREATE UNIQUE INDEX " else "CREATE INDEX "
  .ok (head ++ name ++ " ON " ++ tableName ++ " (" ++ columns ++ ")")

/-- The definition that adds a foreign key. -/
def foreignKeyText (dialect : Dialect) (table : Table) (key : ForeignKey) :
    Except Error String := do
  table.checkForeignKey key
  let tableName ← dialect.nameText table.name
  let name ← dialect.nameText key.name
  let columns ← dialect.nameTexts key.columns
  let target ← dialect.nameText key.target
  let targetColumns ← dialect.nameTexts key.targetColumns
  .ok ("ALTER TABLE " ++ tableName ++ " ADD CONSTRAINT " ++ name ++ " FOREIGN KEY (" ++ columns ++
    ") REFERENCES " ++ target ++ " (" ++ targetColumns ++ ")" ++ key.deleteClause)

/-- A change of a column: its quoted name after the table's, then the rest. -/
def modifyText (dialect : Dialect) (table column rest : String) : Except Error String := do
  let tableName ← dialect.nameText table
  let columnName ← dialect.nameText column
  .ok ("ALTER TABLE " ++ tableName ++ " MODIFY (" ++ columnName ++ " " ++ rest ++ ")")

/-- Two names in a text: what stands before, between and after them. -/
def pairText (dialect : Dialect) (before first between second : String) : Except Error String := do
  let firstName ← dialect.nameText first
  let secondName ← dialect.nameText second
  .ok (before ++ firstName ++ between ++ secondName)

/-- The text of a definition. -/
def sql (dialect : Dialect) : Definition → Except Error String
  | createSequence table column => do
    let name ← dialect.sequenceName table column
    .ok ("CREATE SEQUENCE " ++ Identifier.inQuotes name ++ " START WITH 1 INCREMENT BY 1")
  | createTrigger table column => triggerText dialect table column
  | createTable table => tableText dialect table
  | createIndex table index => indexText dialect table index
  | addPrimaryKey table key => do
    let tableName ← dialect.nameText table
    let constraint ← primaryKeyText dialect table key
    .ok ("ALTER TABLE " ++ tableName ++ " ADD " ++ constraint)
  | addForeignKey table key => foreignKeyText dialect table key
  | addColumn table column => do
    let tableName ← dialect.nameText table.name
    let definition ← dialect.columnText table column
    .ok ("ALTER TABLE " ++ tableName ++ " ADD (" ++ definition ++ ")")
  | modifyType table column columnType => modifyText dialect table column columnType.sql
  | modifyNullness table column nullable =>
    modifyText dialect table column (if nullable then "NULL" else "NOT NULL")
  | commentTable table comment => do
    let tableName ← dialect.nameText table
    .ok ("COMMENT ON TABLE " ++ tableName ++ " IS " ++ literal comment)
  | commentColumn table column comment => do
    let written ← pairText dialect "COMMENT ON COLUMN " table "." column
    .ok (written ++ " IS " ++ literal comment)
  | renameTable source target => pairText dialect "ALTER TABLE " source " RENAME TO " target
  | renameColumn table source target => do
    let written ← pairText dialect "ALTER TABLE " table " RENAME COLUMN " source
    let targetName ← dialect.nameText target
    .ok (written ++ " TO " ++ targetName)
  | renameIndex _ source target => pairText dialect "ALTER INDEX " source " RENAME TO " target
  | createView name query replace => do
    let viewName ← dialect.nameText name
    let head := if replace then "CREATE OR REPLACE VIEW " else "CREATE VIEW "
    .ok (head ++ viewName ++ " AS " ++ Text.trim query)
  | dropView name => (dialect.nameText name).map ("DROP VIEW " ++ ·)
  | dropTable name => (dialect.nameText name).map fun written =>
    "DROP TABLE " ++ written ++ " CASCADE CONSTRAINTS"
  | dropSequence table column => (dialect.sequenceName table column).map fun name =>
    "DROP SEQUENCE " ++ Identifier.inQuotes name
  | dropColumn table column => pairText dialect "ALTER TABLE " table " DROP COLUMN " column
  | dropIndex _ index => (dialect.nameText index).map ("DROP INDEX " ++ ·)
  | dropConstraint table constraint =>
    pairText dialect "ALTER TABLE " table " DROP CONSTRAINT " constraint
  | handWritten _ _ sql => .ok sql

end Definition

/-! ### Steps -/

/-- A definition with its text. -/
structure MigrationStep where
  definition : Definition
  sql : String
  deriving DecidableEq

/-- The step of a definition. -/
def Dialect.step (dialect : Dialect) (definition : Definition) : Except Error MigrationStep :=
  (definition.sql dialect).map (⟨definition, ·⟩)

/-- The steps of definitions. -/
def Dialect.steps (dialect : Dialect) (definitions : List Definition) :
    Except Error (List MigrationStep) :=
  definitions.mapM dialect.step

/-! ### What a declaration asks for -/

/-- What the numbering of a column needs before the column is there. -/
def Column.sequenceDefinitions (column : Column) (table : String) : List Definition :=
  if column.identity then [.createSequence table column.name] else []

/-- What the numbering of a column needs once the column is there. -/
def Dialect.triggerDefinitions (dialect : Dialect) (table : String) (column : Column) :
    List Definition :=
  if column.identity && dialect.identity == .trigger then [.createTrigger table column.name]
  else []

/-- The comment of a column. -/
def Column.commentDefinitions (column : Column) (table : String) : List Definition :=
  column.comment.toList.map (.commentColumn table column.name)

/-- What brings an absent table into being, but for its foreign keys. -/
def Dialect.tableDefinitions (dialect : Dialect) (table : Table) : List Definition :=
  table.columns.flatMap (·.sequenceDefinitions table.name) ++
    [.createTable table] ++
    table.columns.flatMap (dialect.triggerDefinitions table.name) ++
    table.indexes.map (.createIndex table.name) ++
    table.comment.toList.map (.commentTable table.name) ++
    table.columns.flatMap (·.commentDefinitions table.name)

/-- What adds a missing column. -/
def Dialect.columnDefinitions (dialect : Dialect) (table : Table) (column : Column) :
    List Definition :=
  column.sequenceDefinitions table.name ++ [.addColumn table column] ++
    dialect.triggerDefinitions table.name column ++ column.commentDefinitions table.name

end OracleSql
