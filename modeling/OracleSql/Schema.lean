/-
This file holds declared tables: their columns, keys, indexes and foreign keys, in the terms of a
program and not of the database. A declaration can be checked by itself: it has columns, no column
twice, and every key, index and foreign key is over columns of the table. Names of columns are
compared without regard to the case of ASCII letters.
-/

import OracleSql.Number.Binary
import OracleSql.Text.Fold

namespace OracleSql

/-! ### Columns -/

/-- What a column holds, in the terms of a program. -/
inductive FieldType where
  | bool
  | int8
  | int16
  | int32
  | int64
  | uint8
  | uint16
  | uint32
  | uint64
  | float32
  | float64
  | decimal
  | string
  | bytes
  | instant
  | localTimestamp
  | uuid
  | json
  deriving DecidableEq

namespace FieldType

/-- The name of a field type, as messages show it. -/
def name : FieldType → String
  | bool => "Bool"
  | int8 => "Int8"
  | int16 => "Int16"
  | int32 => "Int32"
  | int64 => "Int64"
  | uint8 => "UInt8"
  | uint16 => "UInt16"
  | uint32 => "UInt32"
  | uint64 => "UInt64"
  | float32 => "Float32"
  | float64 => "Float64"
  | decimal => "Decimal"
  | string => "String"
  | bytes => "Bytes"
  | instant => "InstantTimestamp"
  | localTimestamp => "LocalTimestamp"
  | uuid => "Uuid"
  | json => "Json"

/-- All field types. -/
def all : List FieldType :=
  [bool, int8, int16, int32, int64, uint8, uint16, uint32, uint64, float32, float64, decimal,
    string, bytes, instant, localTimestamp, uuid, json]

/-- The least and the greatest number of a whole-number type. -/
def range? : FieldType → Option (Int × Int)
  | int8 => some (Int8.minValue.toInt, Int8.maxValue.toInt)
  | int16 => some (Int16.minValue.toInt, Int16.maxValue.toInt)
  | int32 => some (Int32.minValue.toInt, Int32.maxValue.toInt)
  | int64 => some (Int64.minValue.toInt, Int64.maxValue.toInt)
  | uint8 => some (0, UInt8.size - 1)
  | uint16 => some (0, UInt16.size - 1)
  | uint32 => some (0, UInt32.size - 1)
  | uint64 => some (0, UInt64.size - 1)
  | _ => none

/-- Whether the type holds whole numbers only. -/
def isInteger (fieldType : FieldType) : Bool :=
  fieldType.range?.isSome

end FieldType

/-- The value a column takes when a row gives none. -/
inductive ColumnDefault where
  | bool (flag : Bool)
  | int (number : Int64)
  | float (number : Binary64)
  | text (content : String)
  /-- The time at which the row is inserted. -/
  | now
  /-- A trusted expression, written as it stands. -/
  | expression (sql : String)
  deriving DecidableEq

/-- A declared column. -/
structure Column where
  name : String
  fieldType : FieldType
  /-- The length of a text in characters, or of a byte string in bytes. -/
  size : Option Nat := none
  /-- The digits of a decimal, or the fractional digits of a timestamp's seconds. -/
  precision : Option Nat := none
  /-- The digits of a decimal after the point. -/
  scale : Option Int := none
  nullable : Bool := true
  default : Option ColumnDefault := none
  /-- Whether the database numbers the rows in this column. -/
  identity : Bool := false
  comment : Option String := none
  deriving DecidableEq

/-- The column as one that the database numbers, which is never null. -/
def Column.numbered (column : Column) : Column :=
  { column with identity := true, nullable := false }

/-! ### Tables -/

/-- What happens to a row when the row it refers to is changed. -/
inductive ReferentialAction where
  | noAction
  | restrict
  | cascade
  | setNull
  | setDefault
  deriving DecidableEq

namespace ReferentialAction

/-- An action in the words of a statement. -/
def sql : ReferentialAction → String
  | noAction => "NO ACTION"
  | restrict => "RESTRICT"
  | cascade => "CASCADE"
  | setNull => "SET NULL"
  | setDefault => "SET DEFAULT"

/-- All actions. -/
def all : List ReferentialAction := [noAction, restrict, cascade, setNull, setDefault]

end ReferentialAction

/-- The columns that tell rows apart, with the name of the constraint if one is given. -/
structure PrimaryKey where
  name : Option String := none
  columns : List String
  deriving DecidableEq

/-- An index over columns. -/
structure Index where
  name : String
  columns : List String
  unique : Bool := false
  deriving DecidableEq

/-- Columns that refer to columns of another table. -/
structure ForeignKey where
  name : String
  columns : List String
  target : String
  targetColumns : List String
  onDelete : ReferentialAction := .noAction
  onUpdate : ReferentialAction := .noAction
  deriving DecidableEq

/-- A declared table. -/
structure Table where
  name : String
  columns : List Column := []
  primaryKey : Option PrimaryKey := none
  indexes : List Index := []
  foreignKeys : List ForeignKey := []
  comment : Option String := none
  deriving DecidableEq

namespace Table

/-- The column with this name, in any case of its letters. -/
def column? (table : Table) (name : String) : Option Column :=
  table.columns.find? fun column => Text.sameFolded column.name name

/-- The columns that the database numbers. -/
def identityColumns (table : Table) : List Column :=
  table.columns.filter Column.identity

/-! ### Checking a declaration -/

/-- Why a declaration is unusable whatever the dialect. -/
inductive Fault where
  | noColumns (table : String)
  | columnTwice (table column : String)
  | primaryKey (table : String)
  | index (name : String)
  | foreignKey (name : String)
  | noSuchColumn (table column : String)
  deriving DecidableEq

/-- The wording of a fault. -/
def Fault.message : Fault → String
  | noColumns table => "table '" ++ table ++ "' has no columns"
  | columnTwice table column => "table '" ++ table ++ "' declares column '" ++ column ++ "' twice"
  | primaryKey table => "primary key of '" ++ table ++ "' references unknown columns"
  | index name => "index '" ++ name ++ "' references unknown columns"
  | foreignKey name => "foreign key '" ++ name ++ "' has mismatched or unknown columns"
  | noSuchColumn table column =>
    "table '" ++ table ++ "' declares no column '" ++ column ++ "'"

/-- The first of the columns whose name an earlier one has. -/
def repeated? : (earlier : List String) → List Column → Option Column
  | _, [] => none
  | earlier, column :: rest =>
    if Text.memFolded column.name earlier then some column
    else repeated? (column.name :: earlier) rest

/-- Whether the names are those of columns, and there are some. -/
def knowsAll (table : Table) (names : List String) : Bool :=
  !names.isEmpty && names.all fun name => (table.column? name).isSome

/-- Whether a foreign key pairs columns of the table with as many of its target. -/
def pairs (table : Table) (key : ForeignKey) : Bool :=
  key.columns.length == key.targetColumns.length && table.knowsAll key.columns

/-- The first fault of the declaration, if there is one. -/
def fault? (table : Table) : Option Fault :=
  if table.columns.isEmpty then some (.noColumns table.name)
  else match repeated? [] table.columns with
    | some column => some (.columnTwice table.name column.name)
    | none =>
      if table.primaryKey.any (fun key => !table.knowsAll key.columns) then
        some (.primaryKey table.name)
      else match table.indexes.find? (fun index => !table.knowsAll index.columns) with
        | some index => some (.index index.name)
        | none => (table.foreignKeys.find? (fun key => !table.pairs key)).map (.foreignKey ·.name)

/-- Accepts a declaration without faults. -/
def check (table : Table) : Except Fault Unit :=
  match table.fault? with
  | some fault => .error fault
  | none => .ok ()

end Table

end OracleSql
