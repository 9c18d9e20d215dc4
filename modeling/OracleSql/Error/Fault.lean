/-
This file holds the causes of errors, one type for each class of error, and their wordings. A cause
names what was wrong and with which name, column or count; the words are put around it only when it
is shown. Causes that belong to one kind of thing, such as an identifier or a column, are defined
beside that thing and only taken up here. Each type has a constructor `custom` for a cause that
comes from outside with words of its own.
-/

import OracleSql.ColumnType
import OracleSql.Identifier
import OracleSql.Marker

namespace OracleSql

/-! ### Settings -/

/-- Why a connection text cannot be used. -/
inductive ConnectFault where
  | empty
  | url
  | scheme (name : String)
  | noHost
  | entry (key : String)
  | unclosedQuote (key : String)
  | noUser
  | noTarget
  | noDirectory (path : String)
  deriving DecidableEq

/-- The wording of a fault. -/
def ConnectFault.message : ConnectFault → String
  | empty => "empty DSN"
  | url => "invalid DSN: malformed URL"
  | scheme name => "unsupported DSN scheme '" ++ name ++ "', expected oracle://"
  | noHost => "DSN has no host"
  | entry key => "invalid DSN entry near '" ++ key ++ "', expected key=value"
  | unclosedQuote key => "unterminated quote in DSN value for '" ++ key ++ "'"
  | noUser => "DSN has no user"
  | noTarget => "DSN has no connect string"
  | noDirectory path => "driver library directory '" ++ path ++ "' does not exist"

/-- Why the settings of a pool cannot be used. -/
inductive PoolSettingsFault where
  | noSessions
  | idleExceeds (idle opened : Nat)
  | zeroLifetime
  deriving DecidableEq

/-- The wording of a fault. -/
def PoolSettingsFault.message : PoolSettingsFault → String
  | noSessions => "pool max_open must be > 0"
  | idleExceeds idle opened =>
    "pool max_idle (" ++ toString idle ++ ") exceeds max_open (" ++ toString opened ++ ")"
  | zeroLifetime => "pool lifetimes must be > 0 when set"

/-- Why a configuration cannot be used. -/
inductive ConfigFault where
  | setting (fault : Dialect.Fault)
  | pool (fault : PoolSettingsFault)
  | connect (fault : ConnectFault)
  | dialectText
  | adapterText
  | custom (text : String)
  deriving DecidableEq

/-- The wording of a fault. -/
def ConfigFault.message : ConfigFault → String
  | setting fault => fault.message
  | pool fault => fault.message
  | connect fault => fault.message
  | dialectText => "invalid dialect config: malformed document"
  | adapterText => "invalid config: malformed document"
  | custom text => text

/-! ### Statements -/

/-- Why a statement has no form in the dialect, or a template does not go with its values. -/
inductive StatementFault where
  | unterminated (part : Marker.Unterminated)
  | nativeInFragment
  | mixedMarkers
  | mixedValues
  | fewValues (given : Nat)
  | manyValues (given used : Nat)
  | unboundName (name : String)
  | generatedName (name : String)
  | bindCount (operation : String) (markers values : Nat)
  | missingOut (marker : String)
  | noColumns (operation : String)
  | tooWide (columns limit : Nat)
  | lockedPage
  | pageRange
  | mergeReturning
  | boundView
  | custom (text : String)
  deriving DecidableEq

/-- The wording of a fault. -/
def StatementFault.message : StatementFault → String
  | unterminated part => "unterminated " ++ part.name ++ " in SQL template"
  | nativeInFragment =>
    "native :n / :name markers are not allowed in fragments; use ? or @name"
  | mixedMarkers => "cannot mix native :n / :name markers with ? or @name markers"
  | mixedValues => "native markers take either positional or named values, not both"
  | fewValues given => "not enough positional values: " ++ toString given ++ " given"
  | manyValues given used =>
    "too many positional values: " ++ toString given ++ " given, " ++ toString used ++ " used"
  | unboundName name => "unbound named parameter @" ++ name
  | generatedName name => "bind name @" ++ name ++ " collides with generated marker names"
  | bindCount operation markers values =>
    "bind count mismatch in " ++ operation ++ " statement: " ++ toString markers ++
      " markers, " ++ toString values ++ " values"
  | missingOut marker => "out bind :" ++ marker ++ " does not appear in the statement"
  | noColumns operation => operation ++ " needs at least one column"
  | tooWide columns limit =>
    toString columns ++ " columns exceed the limit of " ++ toString limit ++
      " bind parameters per statement"
  | lockedPage => "FOR UPDATE cannot be combined with pagination"
  | pageRange => "offset + limit overflows the row number range"
  | mergeReturning => "RETURNING is not supported on MERGE; query the rows after the upsert"
  | boundView => "a view query cannot take bind parameters"
  | custom text => text

/-! ### Declarations and builders -/

/-- Why the rows of a statement cannot be written. -/
inductive RowsFault where
  | setAfterColumns
  | columnsAfterSet
  | rowAfterSet
  | noRows
  | columnTwice (column : String)
  | rowWidth (row values columns : Nat)
  deriving DecidableEq

/-- The wording of a fault. -/
def RowsFault.message (operation : String) : RowsFault → String
  | setAfterColumns => operation ++ ": set() cannot be mixed with columns()/row()"
  | columnsAfterSet => operation ++ ": columns() cannot be mixed with set()"
  | rowAfterSet => operation ++ ": row() cannot be mixed with set()"
  | noRows => operation ++ " has no rows"
  | columnTwice column => operation ++ ": column '" ++ column ++ "' is listed twice"
  | rowWidth row values columns =>
    operation ++ ": row " ++ toString row ++ " has " ++ toString values ++ " values for " ++
      toString columns ++ " columns"

/-- Why the keys and updated columns of a merge do not go together. -/
inductive MergeFault where
  | noKeys
  | keyWithoutValue (column : String)
  | keyUpdated (column : String)
  | updateWithoutValue (column : String)
  deriving DecidableEq

/-- The wording of a fault. -/
def MergeFault.message : MergeFault → String
  | noKeys => "MERGE needs at least one key column"
  | keyWithoutValue column => "MERGE: key column '" ++ column ++ "' has no value"
  | keyUpdated column => "MERGE: key column '" ++ column ++ "' cannot be updated"
  | updateWithoutValue column => "MERGE: update column '" ++ column ++ "' has no value"

/-- Why a declaration or a builder is unusable whatever the dialect. -/
inductive ValidationFault where
  | name (fault : Identifier.Fault)
  | column (owner : String) (fault : Column.Fault)
  | table (fault : Table.Fault)
  | tableReference (text : String)
  | unclosedQuote (text : String)
  | rows (operation : String) (fault : RowsFault)
  | merge (fault : MergeFault)
  | noAssignments
  | noTableName (text : String)
  | tooManySegments (text : String)
  | custom (text : String)
  deriving DecidableEq

/-- The wording of a fault. -/
def ValidationFault.message : ValidationFault → String
  | name fault => fault.message
  | column owner fault => "column '" ++ owner ++ "': " ++ fault.message
  | table fault => fault.message
  | tableReference text =>
    "invalid table reference " ++ Text.quoted text ++ ", expected `table [alias]`"
  | unclosedQuote text => "unclosed quoted identifier in " ++ Text.quoted text
  | rows operation fault => fault.message operation
  | merge fault => fault.message
  | noAssignments => "UPDATE has no SET fields"
  | noTableName text => "'" ++ text ++ "' is not a table name"
  | tooManySegments text =>
    "'" ++ text ++ "' is not a table name, expected `[owner.]table`"
  | custom text => text

/-- Why the dialect cannot express what is wanted. -/
inductive CapabilityFault where
  | returning (operation : String)
  | onDelete (key : String) (action : ReferentialAction)
  | onUpdate (key : String) (action : ReferentialAction)
  | nullOnRequired (key column : String)
  | custom (text : String)
  deriving DecidableEq

/-- The wording of a fault. -/
def CapabilityFault.message : CapabilityFault → String
  | returning operation => "RETURNING on " ++ operation ++ " is disabled for this dialect"
  | onDelete key action =>
    "foreign key '" ++ key ++ "': ON DELETE " ++ action.sql ++ " is not supported"
  | onUpdate key action =>
    "foreign key '" ++ key ++ "': ON UPDATE " ++ action.sql ++ " is not supported"
  | nullOnRequired key column =>
    "foreign key '" ++ key ++ "': ON DELETE SET NULL on NOT NULL column '" ++ column ++ "'"
  | custom text => text

/-! ### Running -/

/-- Why a session is not used, or none is to be had. -/
inductive PoolFault where
  | unusable
  | invalidated
  | tooOld
  | idleTooLong
  | waitedTooLong
  | custom (text : String)
  deriving DecidableEq

/-- The wording of a fault. -/
def PoolFault.message : PoolFault → String
  | unusable => "connection was invalidated and must be revalidated by the pool"
  | invalidated => "session was invalidated"
  | tooOld => "session exceeded conn_max_lifetime"
  | idleTooLong => "session exceeded conn_max_idle_time"
  | waitedTooLong => "Timeout occurred while waiting for a slot to become available"
  | custom text => text

/-- Why an expected row is absent. -/
inductive AbsenceFault where
  | noRow
  | custom (text : String)
  deriving DecidableEq

/-- The wording of a fault. -/
def AbsenceFault.message : AbsenceFault → String
  | noRow => "Expected 1 row, got 0"
  | custom text => text

/-- Why returned rows do not go with the rows that were sent. -/
inductive ReturnFault where
  | outside (row sent : Nat)
  | twice (row : Nat)
  | missing (row : Nat)
  | custom (text : String)
  deriving DecidableEq

/-- The wording of a fault. -/
def ReturnFault.message : ReturnFault → String
  | outside row sent =>
    "RETURNING row tagged with input row " ++ toString row ++ " but only " ++ toString sent ++
      " rows were sent"
  | twice row => "input row " ++ toString row ++ " produced more than one RETURNING row"
  | missing row => "input row " ++ toString row ++ " produced no RETURNING row"
  | custom text => text

end OracleSql
