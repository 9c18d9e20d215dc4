/-
This file holds the column types of the database: the type that a declared column is stored as, its
text in a definition, the type that the data dictionary reports, and how a reported type relates to
a declared one. The comparison says whether every value of the one is a value of the other.
-/

import OracleSql.Dialect
import OracleSql.Number.Shortest
import OracleSql.Schema

namespace OracleSql

/-- The zone that a timestamp column keeps: none, its own, or that of the session. -/
inductive TimestampZone where
  | absent
  | kept
  | session
  deriving DecidableEq

/-- A column type of the database. -/
inductive ColumnType where
  | number (precision : Option Nat) (scale : Option Int)
  | binaryFloat
  | binaryDouble
  | varchar (size : Nat)
  | char (size : Nat)
  | clob
  | raw (size : Nat)
  | blob
  | timestamp (zone : TimestampZone) (precision : Nat)
  | date
  | boolean
  /-- A type of the dictionary that no declared column is stored as. -/
  | other (name : String)
  deriving DecidableEq

namespace ColumnType

/-! ### Text -/

/-- The words after the precision of a timestamp. -/
def zoneSql : TimestampZone → String
  | .absent => ""
  | .kept => " WITH TIME ZONE"
  | .session => " WITH LOCAL TIME ZONE"

/-- The type as a definition writes it. A scale of zero is left out. -/
def sql : ColumnType → String
  | number none _ => "NUMBER"
  | number (some precision) none => "NUMBER(" ++ toString precision ++ ")"
  | number (some precision) (some scale) =>
    if scale = 0 then "NUMBER(" ++ toString precision ++ ")"
    else "NUMBER(" ++ toString precision ++ "," ++ toString scale ++ ")"
  | binaryFloat => "BINARY_FLOAT"
  | binaryDouble => "BINARY_DOUBLE"
  | varchar size => "VARCHAR2(" ++ toString size ++ " CHAR)"
  | char size => "CHAR(" ++ toString size ++ ")"
  | clob => "CLOB"
  | raw size => "RAW(" ++ toString size ++ ")"
  | blob => "BLOB"
  | timestamp zone precision => "TIMESTAMP(" ++ toString precision ++ ")" ++ zoneSql zone
  | date => "DATE"
  | boolean => "BOOLEAN"
  | other name => name

/-! ### From the dictionary -/

/-- What the dictionary says about the type of a column. -/
structure Reported where
  dataType : String
  precision : Option Int := none
  scale : Option Int := none
  charLength : Option Int := none
  dataLength : Option Int := none

/-- A number within bounds, as a natural. -/
def bounded? (limit : Nat) (number : Option Int) : Option Nat :=
  number.bind fun given => if 0 ≤ given ∧ given < limit then some given.toNat else none

/-- A length, zero where none of 32 bits is given. -/
def lengthOf (number : Option Int) : Nat :=
  (bounded? UInt32.size number).getD 0

/-- A natural below 256 in decimal digits, with an optional plus. -/
def byteNumber? (letters : List Char) : Option Nat :=
  let digits := if letters.head? == some '+' then letters.tail else letters
  if digits.isEmpty || !digits.all Char.isDigit then none
  else
    let number := digits.foldl (fun sum digit => 10 * sum + (digit.toNat - 48)) 0
    if number < 256 then some number else none

/-- The number in the first parentheses. -/
def inParentheses? (letters : List Char) : Option Nat :=
  let opened := letters.dropWhile (· != '(')
  if opened.contains ')' then
    byteNumber? (Text.trim (String.ofList (opened.tail.takeWhile (· != ')')))).toList
  else none

/-- The type that the dictionary reports. The precision of a timestamp is its scale where one is
given, else the number in its name, else six. -/
def ofReported (reported : Reported) : ColumnType :=
  let name := Text.foldUpper (Text.trim reported.dataType)
  if "TIMESTAMP".toList.isPrefixOf name.toList then
    let rest := name.toList.drop "TIMESTAMP".length
    let precision := ((bounded? 256 reported.scale).or (inParentheses? rest)).getD 6
    if "WITH LOCAL TIME ZONE".toList.isSuffixOf rest then timestamp .session precision
    else if "WITH TIME ZONE".toList.isSuffixOf rest then timestamp .kept precision
    else timestamp .absent precision
  else match name with
    | "NUMBER" =>
      number (bounded? 256 reported.precision)
        (reported.scale.filter fun scale => -128 ≤ scale && scale ≤ 127)
    | "BINARY_FLOAT" => binaryFloat
    | "BINARY_DOUBLE" => binaryDouble
    | "VARCHAR2" | "NVARCHAR2" => varchar (lengthOf reported.charLength)
    | "CHAR" | "NCHAR" => char (lengthOf reported.charLength)
    | "CLOB" | "NCLOB" => clob
    | "RAW" => raw (lengthOf reported.dataLength)
    | "BLOB" => blob
    | "DATE" => date
    | "BOOLEAN" => boolean
    | _ => other name

/-! ### Comparing -/

/-- How the type of a live column relates to the declared one. -/
inductive Change where
  | same
  /-- The declared type holds every value of the live one. -/
  | widen
  /-- Some value of the live type is none of the declared one. -/
  | narrow
  /-- The types are of different families. -/
  | incompatible
  deriving DecidableEq

/-- A number with a precision and no scale is one of scale zero. -/
def normalized : ColumnType → ColumnType
  | number (some precision) none => number (some precision) (some 0)
  | columnType => columnType

/-- The change between two different sizes. -/
def bySize (live declared : Nat) : Change :=
  if live < declared then .widen else .narrow

/-- The change between two different numbers: the declared one is wider if it has no fewer digits,
neither after the point nor before it. -/
def byDigits (live declared : Nat × Int) : Change :=
  if live.1 ≤ declared.1 ∧ live.2 ≤ declared.2 ∧
      (live.1 : Int) - live.2 ≤ declared.1 - declared.2 then .widen
  else .narrow

/-- How a live type relates to a declared one. -/
def compare (live declared : ColumnType) : Change :=
  if live.normalized = declared.normalized then .same
  else match live.normalized, declared.normalized with
    | varchar old, varchar new => bySize old new
    | char old, char new => bySize old new
    | raw old, raw new => bySize old new
    | char old, varchar new => if old ≤ new then .widen else .narrow
    | number _ _, number none _ => .widen
    | number none _, number (some _) _ => .narrow
    | number (some old) oldScale, number (some new) newScale =>
      byDigits (old, oldScale.getD 0) (new, newScale.getD 0)
    | timestamp oldZone old, timestamp newZone new =>
      if oldZone = newZone then bySize old new else .incompatible
    | _, _ => .incompatible

end ColumnType

/-! ### The type of a declared column -/

namespace Column

/-- Why a declared column has no type in the database, or no definition. -/
inductive Fault where
  | sizeOn (fieldType : FieldType)
  | sizeZero
  | decimalPrecision (digits : Nat)
  | secondsPrecision (digits : Nat)
  | precisionOn (fieldType : FieldType)
  | scaleAlone
  | scaleRange (scale : Int)
  | identityType
  | endlessDefault (number : Binary64)
  | identityDefault
  deriving DecidableEq

/-- The wording of a fault, without the name of its column. -/
def Fault.message : Fault → String
  | sizeOn fieldType => "size is not valid for " ++ fieldType.name
  | sizeZero => "size must be positive"
  | decimalPrecision digits =>
    "decimal precision " ++ toString digits ++ " is outside 1..=38"
  | secondsPrecision digits =>
    "fractional-second precision " ++ toString digits ++ " is outside 0..=9"
  | precisionOn fieldType => "precision is not valid for " ++ fieldType.name
  | scaleAlone => "scale requires a decimal with precision"
  | scaleRange places => "scale " ++ toString places ++ " is outside -84..=127"
  | identityType => "identity requires an integer type"
  | endlessDefault number => "default " ++ number.toText ++ " has no NUMBER literal"
  | identityDefault => "an identity column cannot declare a default"

/-- The longest raw column, in bytes. -/
def maxRawLength : Nat := 2000

/-- The fault of a precision, if the type does not take it. -/
def precisionFault? (fieldType : FieldType) (precision : Nat) : Option Fault :=
  match fieldType with
  | .decimal =>
    if precision = 0 ∨ 38 < precision then some (.decimalPrecision precision) else none
  | .instant | .localTimestamp => if 9 < precision then some (.secondsPrecision precision) else none
  | _ => some (.precisionOn fieldType)

/-- The fault of a scale, which only a decimal with a precision takes. -/
def scaleFault? (column : Column) (scale : Int) : Option Fault :=
  if column.fieldType ≠ .decimal ∨ column.precision = none then some .scaleAlone
  else if scale < -84 ∨ 127 < scale then some (.scaleRange scale)
  else none

/-- The first fault of the size, precision, scale and identity of a column, if there is one. -/
def fault? (column : Column) : Option Fault :=
  if column.size.isSome ∧ column.fieldType ≠ .string ∧ column.fieldType ≠ .bytes then
    some (.sizeOn column.fieldType)
  else if column.size = some 0 then some .sizeZero
  else (column.precision.bind (precisionFault? column.fieldType)).or
    ((column.scale.bind column.scaleFault?).or
      (if column.identity ∧ !column.fieldType.isInteger then some .identityType else none))

end Column

namespace Dialect

/-- The type of a column without faults. -/
def typeOf (dialect : Dialect) (column : Column) : ColumnType :=
  let whole := fun digits => ColumnType.number (some digits) (some 0)
  match column.fieldType with
  | .bool => if dialect.nativeBoolean then .boolean else whole 1
  | .int8 | .uint8 => whole 3
  | .int16 | .uint16 => whole 5
  | .int32 | .uint32 => whole 10
  | .int64 => whole 19
  | .uint64 => whole 20
  | .float32 => .binaryFloat
  | .float64 => .binaryDouble
  | .decimal =>
    match column.precision with
    | some precision => .number (some precision) (some (column.scale.getD 0))
    | none => .number none none
  | .string =>
    match column.size with
    | some size => if size ≤ dialect.maxVarcharLength then .varchar size else .clob
    | none => .clob
  | .bytes =>
    match column.size with
    | some size => if size ≤ Column.maxRawLength then .raw size else .blob
    | none => .blob
  | .instant => .timestamp .kept (column.precision.getD dialect.timestampPrecision)
  | .localTimestamp => .timestamp .session (column.precision.getD dialect.timestampPrecision)
  | .uuid => .char 36
  | .json => .clob

/-- The type that a declared column is stored as. -/
def columnType (dialect : Dialect) (column : Column) : Except Column.Fault ColumnType :=
  match column.fault? with
  | some fault => .error fault
  | none => .ok (dialect.typeOf column)

/-- The condition that the rows of a column must meet, over its quoted name. -/
def checkCondition? (dialect : Dialect) (column : Column) (quotedName : String) :
    Option String :=
  match column.fieldType with
  | .bool => if dialect.nativeBoolean then none else some (quotedName ++ " IN (0,1)")
  | .json => some (quotedName ++ " IS JSON")
  | _ => none

end Dialect

end OracleSql
