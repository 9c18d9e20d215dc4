/-
This file lowers values to what a column stores. A value must be of the kind that the column holds,
and must fit it: whole numbers lie in the range of their type, decimals are rounded to the scale and
have no more digits than the precision, texts and byte strings are no longer than their size. The
null fits every column. Without a column only the form of a value is lowered: a flag becomes a
number where the server has no flags, an identifier becomes its text, and times are cut to whole
microseconds.
-/

import OracleSql.Dialect
import OracleSql.Json.Reader
import OracleSql.Schema
import OracleSql.Text.Quoted
import OracleSql.Value

namespace OracleSql

/-! ### Faults -/

/-- Why a value cannot be stored in a column. -/
inductive DataFault where
  | kind (kindName : String) (fieldType : FieldType)
  | flag (number : Int64)
  | integerRange (number : Int) (fieldType : FieldType)
  | notWhole (number : Decimal)
  | floatRange (number : Binary64)
  | notDecimal (number : Binary64)
  | scale (places : Int)
  | numberRange (number : Decimal) (precision : Nat) (scale : Int)
  | characters (count limit : Nat)
  | byteCount (count limit : Nat)
  | uuid (text : String)
  | json
  | custom (text : String)
  deriving DecidableEq

/-- The wording of a fault. -/
def DataFault.message : DataFault → String
  | kind kindName fieldType =>
    "type mismatch: cannot store " ++ kindName ++ " in a " ++ fieldType.name ++ " column"
  | flag number =>
    "invalid boolean encoding " ++ toString number.toInt ++ ", expected 0 or 1"
  | integerRange number fieldType =>
    toString number ++ " is out of range for " ++ fieldType.name
  | notWhole number => number.toText ++ " is not an integer"
  | floatRange number => number.toText ++ " overflows BINARY_FLOAT"
  | notDecimal number => number.toText ++ " is not a decimal: no such coefficient and scale"
  | scale places => "scale " ++ toString places ++ " is outside the representable decimal range"
  | numberRange number precision places =>
    number.toText ++ " exceeds NUMBER(" ++ toString precision ++ "," ++ toString places ++ ")"
  | characters count limit =>
    "value of " ++ toString count ++ " characters exceeds column size " ++ toString limit
  | byteCount count limit =>
    "value of " ++ toString count ++ " bytes exceeds RAW size " ++ toString limit
  | uuid text =>
    "format error: " ++ Text.quoted text ++ " is not a hyphenated 36-character UUID"
  | json => "invalid JSON: malformed document"
  | custom text => text

/-! ### Lowering without a column -/

/-- A flag as the server stores it: itself, or one and zero. -/
def Dialect.flagValue (dialect : Dialect) (flag : Bool) : Value :=
  if dialect.nativeBoolean then .bool flag else .int (if flag then 1 else 0)

/-- The value as it is bound where no column is known. -/
def Dialect.lower (dialect : Dialect) : Value → Value
  | .bool flag => dialect.flagValue flag
  | .uuid identifier => .text identifier.toText
  | .instant time => .instant ⟨time.universal.wholeMicroseconds⟩
  | .localTimestamp time => .localTimestamp ⟨time.wall.wholeMicroseconds⟩
  | value => value

/-! ### Lowering for a column -/

namespace Column

/-- A value of a kind that the column does not hold. -/
def kindFault (column : Column) (value : Value) : DataFault :=
  .kind value.kindName column.fieldType

/-- The whole number that the column stores, if it lies in the range of the type. -/
def integer (column : Column) (number : Int) : Except DataFault Value :=
  let outside := match column.fieldType.range? with
    | some (least, greatest) => number < least || greatest < number
    | none => false
  if outside then .error (.integerRange number column.fieldType)
  else if Int64.minValue.toInt ≤ number ∧ number ≤ Int64.maxValue.toInt then
    .ok (.int (Int64.ofInt number))
  else match Decimal.ofInt? number with
    | some decimal => .ok (.decimal decimal)
    | none => .error (.integerRange number column.fieldType)

/-- Lowers a value for a column of whole numbers. -/
def encodeInteger (column : Column) : Value → Except DataFault Value
  | .int number => column.integer number.toInt
  | .decimal number =>
    if number.isWhole then column.integer number.toInt else .error (.notWhole number)
  | value => .error (column.kindFault value)

/-- The rank of the greatest finite number of 32 bits among those of 64. -/
def greatestSingle : Nat :=
  let greatest : Binary32 := .ofRank false (BinaryFormat.single.infinity - 1)
  (greatest.convert .double).magnitude

/-- Lowers a value for a column of binary numbers. -/
def encodeFloat (column : Column) (value : Value) : Except DataFault Value :=
  let fit := fun (number : Binary64) =>
    if column.fieldType = .float32 ∧ number.isFinite ∧ greatestSingle < number.magnitude then
      Except.error (DataFault.floatRange number)
    else .ok (.float number)
  match value with
  | .float number => fit number
  | .int number => fit (.ofInt number.toInt)
  | .decimal number => fit number.toBinary
  | _ => .error (column.kindFault value)

/-- The largest power of ten that is a decimal. -/
def maxPower : Nat := 28

/-- The decimal rounded to a scale, which may be negative. -/
def roundToScale (number : Decimal) (precision : Nat) (scale : Int) : Except DataFault Decimal :=
  if 0 ≤ scale then .ok (number.roundedTo scale.toNat)
  else if maxPower < scale.natAbs then .error (.scale scale)
  else match number.roundedToPower? scale.natAbs with
    | some rounded => .ok rounded
    | none => .error (.numberRange number precision scale)

/-- The decimal rounded to the scale of the column, if it has no more digits than the precision
leaves before the point. A column without a precision takes every decimal as it is. -/
def fitDecimal (column : Column) (number : Decimal) : Except DataFault Value :=
  match column.precision with
  | none => .ok (.decimal number)
  | some precision =>
    let scale := column.scale.getD 0
    match roundToScale number precision scale with
    | .error fault => .error fault
    | .ok rounded =>
      if (precision : Int) - scale < rounded.wholeDigits then
        .error (.numberRange number precision scale)
      else .ok (.decimal rounded)

/-- Lowers a value for a column of decimals. -/
def encodeDecimal (column : Column) : Value → Except DataFault Value
  | .decimal number => column.fitDecimal number
  | .int number => column.fitDecimal (.ofInt64 number)
  | .float number =>
    match Decimal.ofBinary? number with
    | some decimal => column.fitDecimal decimal
    | none => .error (.notDecimal number)
  | value => .error (column.kindFault value)

/-- Lowers a value for a column of byte strings. -/
def encodeBytes (column : Column) : Value → Except DataFault Value
  | .bytes content =>
    match column.size with
    | some limit =>
      if limit < content.length then .error (.byteCount content.length limit)
      else .ok (.bytes content)
    | none => .ok (.bytes content)
  | value => .error (column.kindFault value)

/-- Lowers a value for a column of identifiers: both forms become the canonical text. -/
def encodeUuid (column : Column) : Value → Except DataFault Value
  | .uuid identifier => .ok (.text identifier.toText)
  | .text content =>
    match Uuid.ofText? content with
    | some identifier => .ok (.text identifier.toText)
    | none => .error (.uuid content)
  | value => .error (column.kindFault value)

/-- Lowers a value for a column of JSON documents, whose text is kept as it is. -/
def encodeJson (column : Column) : Value → Except DataFault Value
  | .text content => if (Json.parse? content).isSome then .ok (.text content) else .error .json
  | value => .error (column.kindFault value)

end Column

namespace Dialect

/-- Lowers a value for a column of flags. -/
def encodeBool (dialect : Dialect) (column : Column) : Value → Except DataFault Value
  | .bool flag => .ok (dialect.flagValue flag)
  | .int number =>
    if number = 0 then .ok (dialect.flagValue false)
    else if number = 1 then .ok (dialect.flagValue true)
    else .error (.flag number)
  | value => .error (column.kindFault value)

/-- The text if it is no longer than the column; a longer one is refused or cut. -/
def fitText (dialect : Dialect) (column : Column) (content : String) : Except DataFault Value :=
  match column.size with
  | none => .ok (.text content)
  | some limit =>
    let count := content.toList.length
    if count ≤ limit then .ok (.text content)
    else match dialect.overflow with
      | .reject => .error (.characters count limit)
      | .truncate => .ok (.text (String.ofList (content.toList.take limit)))

/-- Lowers a value for a column of texts. -/
def encodeText (dialect : Dialect) (column : Column) : Value → Except DataFault Value
  | .text content => dialect.fitText column content
  | .uuid identifier => dialect.fitText column identifier.toText
  | value => .error (column.kindFault value)

/-- Lowers a value for a column. -/
def encode (dialect : Dialect) (column : Column) (value : Value) : Except DataFault Value :=
  if value.isNull then .ok .null
  else match column.fieldType with
    | .bool => dialect.encodeBool column value
    | .float32 | .float64 => column.encodeFloat value
    | .decimal => column.encodeDecimal value
    | .string => dialect.encodeText column value
    | .bytes => column.encodeBytes value
    | .instant =>
      match value with
      | .instant _ => .ok (dialect.lower value)
      | _ => .error (column.kindFault value)
    | .localTimestamp =>
      match value with
      | .localTimestamp _ => .ok (dialect.lower value)
      | _ => .error (column.kindFault value)
    | .uuid => column.encodeUuid value
    | .json => column.encodeJson value
    | _ => column.encodeInteger value

end Dialect

end OracleSql
