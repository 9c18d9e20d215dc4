/-
This file holds the errors of the library. An error is a class with a cause, and most classes also
say where it happened: in which operation, on which table and column. What is known of that place
is never overwritten, only completed. Every error has a canonical kind, a text, and, if the database
raised it, a native code.
-/

import OracleSql.Decode
import OracleSql.Encode
import OracleSql.Error.Fault

namespace OracleSql

/-! ### Places -/

/-- Where an error happened, as far as it is known. -/
structure Context where
  operation : Option String := none
  table : Option String := none
  column : Option String := none
  deriving DecidableEq

namespace Context

/-- The place of an operation on a table. -/
def on (operation table : String) : Context :=
  { operation := some operation, table := some table }

/-- Whether nothing is known. -/
def isEmpty (context : Context) : Bool :=
  context.operation.isNone && context.table.isNone && context.column.isNone

/-- What is known here, completed by what is known there. -/
def orElse (context further : Context) : Context where
  operation := context.operation.or further.operation
  table := context.table.or further.table
  column := context.column.or further.column

/-- The place at the end of a message: nothing, or its known parts in parentheses. -/
def toText (context : Context) : String :=
  let part := fun (name : String) (content : Option String) =>
    content.toList.map fun known => name ++ "=" ++ known
  if context.isEmpty then ""
  else " (" ++ Text.join ", " (part "operation" context.operation ++ part "table" context.table ++
    part "column" context.column) ++ ")"

end Context

/-! ### Native errors -/

/-- An error of the database: its number, unless it never came from the server, and its words. -/
structure NativeError where
  code : Option Int
  message : String
  deriving DecidableEq

/-- The text of a native error, its number in five digits. -/
def NativeError.toText (raised : NativeError) : String :=
  match raised.code with
  | some code => "ORA-" ++ Text.paddedInt 5 code ++ ": " ++ raised.message
  | none => raised.message

/-- The canonical kinds of errors. -/
inductive ErrorKind where
  | duplicateKey
  | foreignKeyViolation
  | notNullViolation
  | missingWhereClause
  | recordNotFound
  | connectionFailure
  | timeout
  | unsupported
  | unknown
  deriving DecidableEq

/-- The name of a kind. -/
def ErrorKind.name : ErrorKind → String
  | duplicateKey => "duplicate_key"
  | foreignKeyViolation => "foreign_key_violation"
  | notNullViolation => "not_null_violation"
  | missingWhereClause => "missing_where_clause"
  | recordNotFound => "record_not_found"
  | connectionFailure => "connection_failure"
  | timeout => "timeout"
  | unsupported => "syntax_or_unsupported_feature"
  | unknown => "unknown"

/-! ### Errors -/

/-- What can go wrong. -/
inductive Error where
  | config (fault : ConfigFault)
  | statement (fault : StatementFault) (context : Context)
  | data (fault : DataFault) (context : Context)
  | decode (column : String) (fault : DecodeFault)
  /-- An error of the database as it came. -/
  | database (native : NativeError) (context : Context)
  /-- An error of the database with its canonical kind. -/
  | classified (kind : ErrorKind) (native : NativeError) (context : Context)
  | missingWhere (context : Context)
  | notFound (fault : AbsenceFault)
  | tooManyRows (expected got : Nat)
  | capability (fault : CapabilityFault) (context : Context)
  | migration (text : String) (context : Context)
  | timeout (limit : Duration)
  | cancelled
  | pool (fault : PoolFault)
  | validation (fault : ValidationFault)
  | other (fault : ReturnFault)
  deriving DecidableEq

namespace Error

/-- The name of the class of an error. -/
def className : Error → String
  | config _ => "Config"
  | statement _ _ => "Translation"
  | data _ _ => "Data"
  | decode _ _ => "Decode"
  | database _ _ => "Database"
  | classified _ _ _ => "Classified"
  | missingWhere _ => "MissingWhereClause"
  | notFound _ => "NotFound"
  | tooManyRows _ _ => "TooManyRows"
  | capability _ _ => "Capability"
  | migration _ _ => "Migration"
  | timeout _ => "Timeout"
  | cancelled => "Cancelled"
  | pool _ => "Pool"
  | validation _ => "Validation"
  | other _ => "Other"

/-- The place of an error, if its class has one. -/
def context? : Error → Option Context
  | statement _ context => some context
  | data _ context => some context
  | database _ context => some context
  | classified _ _ context => some context
  | missingWhere context => some context
  | capability _ context => some context
  | migration _ context => some context
  | _ => none

/-- The error with what it does not know of its place taken from a further one. -/
def within (further : Context) : Error → Error
  | statement fault context => statement fault (context.orElse further)
  | data fault context => data fault (context.orElse further)
  | database native context => database native (context.orElse further)
  | classified kind native context => classified kind native (context.orElse further)
  | missingWhere context => missingWhere (context.orElse further)
  | capability fault context => capability fault (context.orElse further)
  | migration text context => migration text (context.orElse further)
  | error => error

/-- The number of the native error. -/
def nativeCode? : Error → Option Int
  | database native _ => native.code
  | classified _ native _ => native.code
  | _ => none

/-- The canonical kind of an error. A native error that was not classified has none. -/
def kind : Error → ErrorKind
  | classified kind _ _ => kind
  | missingWhere _ => .missingWhereClause
  | notFound _ => .recordNotFound
  | timeout _ => .timeout
  | cancelled => .timeout
  | pool _ => .connectionFailure
  | statement _ _ => .unsupported
  | capability _ _ => .unsupported
  | _ => .unknown

/-- The text of an error. -/
def message : Error → String
  | config fault => "Configuration error: " ++ fault.message
  | statement fault context => "Translation error: " ++ fault.message ++ context.toText
  | data fault context => "Data error: " ++ fault.message ++ context.toText
  | decode column fault => "Decode error on column '" ++ column ++ "': " ++ fault.message
  | database raised context => "Database error: " ++ raised.toText ++ context.toText
  | classified kind raised context => kind.name ++ ": " ++ raised.toText ++ context.toText
  | missingWhere context =>
    "Refusing to run a global mutation without WHERE" ++ context.toText
  | notFound fault => "Not found: " ++ fault.message
  | tooManyRows expected got =>
    "Too many rows: expected " ++ toString expected ++ ", got " ++ toString got
  | capability fault context => "Unsupported by dialect: " ++ fault.message ++ context.toText
  | migration text context => "Migration error: " ++ text ++ context.toText
  | timeout limit => "Query timeout after " ++ limit.toText
  | cancelled => "Query cancelled"
  | pool fault => "Pool error: " ++ fault.message
  | validation fault => "Validation error: " ++ fault.message
  | other fault => fault.message

/-! ### Questions -/

/-- Whether a key would have become ambiguous. -/
def isDuplicateKey (error : Error) : Bool :=
  error.kind == .duplicateKey

/-- Whether an expected row is absent. -/
def isNotFound : Error → Bool
  | notFound _ => true
  | _ => false

/-- Whether a deadline passed. -/
def isTimeout : Error → Bool
  | timeout _ => true
  | _ => false

/-- Whether a change without a condition was refused. -/
def isMissingWhere : Error → Bool
  | missingWhere _ => true
  | _ => false

/-- Whether a call was given up while it was under way. -/
def isAbandonment : Error → Bool
  | timeout _ => true
  | cancelled => true
  | _ => false

/-! ### From the faults of parts -/

/-- An outcome about a connection text, as one of the library. -/
def ofConnect {α : Type} (outcome : Except ConnectFault α) : Except Error α :=
  outcome.mapError fun fault => config (.connect fault)

/-- An outcome about a name, as one of the library. -/
def ofName {α : Type} (outcome : Except Identifier.Fault α) : Except Error α :=
  outcome.mapError fun fault => validation (.name fault)

/-- An outcome about the lexemes of a template, as one of the library. -/
def ofLexemes {α : Type} (outcome : Except Marker.Unterminated α) : Except Error α :=
  outcome.mapError fun part => statement (.unterminated part) {}

/-- An outcome about a declared column, as one of the library. -/
def ofColumn {α : Type} (column : Column) (outcome : Except Column.Fault α) : Except Error α :=
  outcome.mapError fun fault => validation (.column column.name fault)

/-- An outcome about a declared table, as one of the library. -/
def ofTable {α : Type} (outcome : Except Table.Fault α) : Except Error α :=
  outcome.mapError fun fault => validation (.table fault)

/-- An outcome of storing in a column, as one of the library. -/
def ofStoring {α : Type} (column : Column) (outcome : Except DataFault α) : Except Error α :=
  outcome.mapError fun fault => data fault { column := some column.name }

/-- An outcome of reading under a column's name, as one of the library. -/
def ofReading {α : Type} (column : String) (outcome : Except DecodeFault α) : Except Error α :=
  outcome.mapError (decode column)

end Error

end OracleSql
