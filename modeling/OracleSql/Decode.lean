/-
This file reads values back as the types of a program. Nothing is coerced: a stored two is no flag,
a text is no number, and a number that does not fit the type is refused. A null is read only where
nothing may be read. The class `OfValue` names the types that can be read.
-/

import OracleSql.Json.Reader
import OracleSql.Text.Quoted
import OracleSql.Value

namespace OracleSql

/-! ### Faults -/

/-- Why a value cannot be read as a type. -/
inductive DecodeFault where
  | mismatch (expected kindName : String)
  | null (expected : String)
  | flag (held : String)
  | overflow (held typeName : String)
  | notDecimal (number : Binary64)
  | uuid (text : String)
  | json
  | noColumn
  | noIndex
  | custom (text : String)
  deriving DecidableEq

/-- The wording of a fault. -/
def DecodeFault.message : DecodeFault → String
  | mismatch expected kindName =>
    "type mismatch: expected " ++ expected ++ ", got " ++ kindName
  | null expected => "unexpected NULL for non-optional " ++ expected
  | flag held => "type mismatch: boolean column holds " ++ held ++ ", expected 0 or 1"
  | overflow held typeName => held ++ " overflows " ++ typeName
  | notDecimal number => number.toText ++ " is not a decimal: no such coefficient and scale"
  | uuid text =>
    "format error: " ++ Text.quoted text ++ " is not a hyphenated 36-character UUID"
  | json => "invalid JSON: malformed document"
  | noColumn => "no such column in row"
  | noIndex => "column index out of range"
  | custom text => text

/-- The fault of a value that is not of an expected kind; a null has a fault of its own. -/
def Value.unexpected (value : Value) (expected nullName : String) : DecodeFault :=
  if value.isNull then .null nullName else .mismatch expected value.kindName

/-! ### Reading -/

/-- The types that values are read as. -/
class OfValue (α : Type) where
  ofValue : Value → Except DecodeFault α

export OfValue (ofValue)

/-- The canonical identifier that a text writes. -/
def Uuid.parse (text : String) : Except DecodeFault Uuid :=
  match Uuid.ofText? text with
  | some identifier => .ok identifier
  | none => .error (.uuid text)

namespace Value

/-- Reads a flag: itself, or the number one or zero. -/
def readBool : Value → Except DecodeFault Bool
  | .bool flag => .ok flag
  | .int number =>
    if number = 0 then .ok false
    else if number = 1 then .ok true
    else .error (.flag (toString number.toInt))
  | .decimal number =>
    if number.isZero then .ok false
    else if number.isOne then .ok true
    else .error (.flag number.toText)
  | value => .error (value.unexpected "0 or 1" "bool")

/-- Reads a whole number between bounds; a decimal must be whole. -/
def readWhole (least greatest : Int) (typeName : String) : Value → Except DecodeFault Int
  | .int number =>
    if least ≤ number.toInt ∧ number.toInt ≤ greatest then .ok number.toInt
    else .error (.overflow (toString number.toInt) typeName)
  | .decimal number =>
    if !number.isWhole then .error (.mismatch "integer" "decimal")
    else if least ≤ number.toInt ∧ number.toInt ≤ greatest then .ok number.toInt
    else .error (.overflow number.toText typeName)
  | value => .error (value.unexpected "integer" "integer")

/-- Reads a whole number of 64 bits with a sign. -/
def readInt64 (value : Value) : Except DecodeFault Int :=
  value.readWhole Int64.minValue.toInt Int64.maxValue.toInt "i64"

/-- Reads a whole number between bounds within 64 bits with a sign, in two steps: what does not fit
64 bits is told apart from what does not fit the bounds. -/
def readNarrow (least greatest : Int) (typeName : String) (value : Value) :
    Except DecodeFault Int :=
  match value.readInt64 with
  | .error fault => .error fault
  | .ok number =>
    if least ≤ number ∧ number ≤ greatest then .ok number
    else .error (.overflow (toString number) typeName)

/-- Reads an unsigned whole number of 64 bits. -/
def readNat64 (value : Value) : Except DecodeFault Int :=
  value.readWhole 0 (UInt64.size - 1) "u64"

/-- Reads a binary number, also from a whole number and a decimal. -/
def readFloat : Value → Except DecodeFault Binary64
  | .float number => .ok number
  | .int number => .ok (.ofInt number.toInt)
  | .decimal number => .ok number.toBinary
  | value => .error (value.unexpected "float" "float")

/-- Reads a decimal, also from a whole number and a binary one. -/
def readDecimal : Value → Except DecodeFault Decimal
  | .decimal number => .ok number
  | .int number => .ok (.ofInt64 number)
  | .float number =>
    match Decimal.ofBinary? number with
    | some exact => .ok exact
    | none => .error (.notDecimal number)
  | value => .error (value.unexpected "decimal" "decimal")

/-- Reads a JSON document from its text; a null is the document of that name. -/
def readJson : Value → Except DecodeFault Json
  | .text content =>
    match Json.parse? content with
    | some document => .ok document
    | none => .error .json
  | .null => .ok .null
  | value => .error (.mismatch "json text" value.kindName)

/-- Reads an identifier, also from its canonical text. -/
def readUuid : Value → Except DecodeFault Uuid
  | .uuid identifier => .ok identifier
  | .text content => Uuid.parse content
  | value => .error (value.unexpected "uuid" "uuid")

end Value

instance : OfValue Value := ⟨.ok⟩
instance : OfValue Bool := ⟨Value.readBool⟩
instance : OfValue Int8 :=
  ⟨fun value => (value.readNarrow Int8.minValue.toInt Int8.maxValue.toInt "i8").map Int8.ofInt⟩
instance : OfValue Int16 :=
  ⟨fun value =>
    (value.readNarrow Int16.minValue.toInt Int16.maxValue.toInt "i16").map Int16.ofInt⟩
instance : OfValue Int32 :=
  ⟨fun value =>
    (value.readNarrow Int32.minValue.toInt Int32.maxValue.toInt "i32").map Int32.ofInt⟩
instance : OfValue Int64 := ⟨fun value => value.readInt64.map Int64.ofInt⟩
instance : OfValue UInt8 :=
  ⟨fun value => (value.readNarrow 0 (UInt8.size - 1) "u8").map fun number =>
    UInt8.ofNat number.toNat⟩
instance : OfValue UInt16 :=
  ⟨fun value => (value.readNarrow 0 (UInt16.size - 1) "u16").map fun number =>
    UInt16.ofNat number.toNat⟩
instance : OfValue UInt32 :=
  ⟨fun value => (value.readNarrow 0 (UInt32.size - 1) "u32").map fun number =>
    UInt32.ofNat number.toNat⟩
instance : OfValue UInt64 :=
  ⟨fun value => value.readNat64.map fun number => UInt64.ofNat number.toNat⟩
instance : OfValue Binary64 := ⟨Value.readFloat⟩
instance : OfValue Binary32 := ⟨fun value => value.readFloat.map (Binary.convert .single)⟩
instance : OfValue Decimal := ⟨Value.readDecimal⟩
instance : OfValue String where
  ofValue
    | .text content => .ok content
    | value => .error (value.unexpected "text" "string")
instance : OfValue (List UInt8) where
  ofValue
    | .bytes content => .ok content
    | value => .error (value.unexpected "bytes" "bytes")
instance : OfValue Instant where
  ofValue
    | .instant time => .ok time
    | value => .error (value.unexpected "instant timestamp" "instant timestamp")
instance : OfValue LocalTimestamp where
  ofValue
    | .localTimestamp time => .ok time
    | value => .error (value.unexpected "local timestamp" "local timestamp")
instance : OfValue Uuid := ⟨Value.readUuid⟩
instance : OfValue Json := ⟨Value.readJson⟩

/-- A null reads as nothing. -/
instance {α : Type} [OfValue α] : OfValue (Option α) where
  ofValue value := if value.isNull then .ok none else (ofValue value).map some

end OracleSql
