/-
This file holds the values that travel to and from the database. A value knows its own kind; what a
column makes of it is decided elsewhere. The class `ToValue` lifts the types of a program to values.
-/

import OracleSql.Json.Basic
import OracleSql.Moment
import OracleSql.Number.Decimal
import OracleSql.Uuid

namespace OracleSql

/-- A value bound to a statement or read from a row. -/
inductive Value where
  | null
  | bool (flag : Bool)
  | int (number : Int64)
  | float (number : Binary64)
  | decimal (number : Decimal)
  | text (content : String)
  | bytes (content : List UInt8)
  | instant (time : Instant)
  | localTimestamp (time : LocalTimestamp)
  | uuid (identifier : Uuid)
  deriving DecidableEq

namespace Value

/-- Whether the value is the null. -/
def isNull : Value → Bool
  | null => true
  | _ => false

/-- The kind of a value, as messages name it. -/
def kindName : Value → String
  | null => "null"
  | bool _ => "bool"
  | int _ => "integer"
  | float _ => "float"
  | decimal _ => "decimal"
  | text _ => "text"
  | bytes _ => "bytes"
  | instant _ => "instant timestamp"
  | localTimestamp _ => "local timestamp"
  | uuid _ => "uuid"

/-- A whole number: of 64 bits where it fits, else a decimal. -/
def ofNat64 (number : UInt64) : Value :=
  if number.toNat ≤ Int64.maxValue.toInt then int (Int64.ofNat number.toNat)
  else decimal ((Decimal.ofInt? number.toNat).getD Decimal.zero)

end Value

/-! ### Lifting -/

/-- The types whose elements are values of the database. -/
class ToValue (α : Type) where
  toValue : α → Value

export ToValue (toValue)

instance : ToValue Value := ⟨id⟩
instance : ToValue Bool := ⟨.bool⟩
instance : ToValue Int8 := ⟨fun number => .int number.toInt64⟩
instance : ToValue Int16 := ⟨fun number => .int number.toInt64⟩
instance : ToValue Int32 := ⟨fun number => .int number.toInt64⟩
instance : ToValue Int64 := ⟨.int⟩
instance : ToValue UInt8 := ⟨fun number => .int (Int64.ofNat number.toNat)⟩
instance : ToValue UInt16 := ⟨fun number => .int (Int64.ofNat number.toNat)⟩
instance : ToValue UInt32 := ⟨fun number => .int (Int64.ofNat number.toNat)⟩
instance : ToValue UInt64 := ⟨.ofNat64⟩
instance : ToValue Binary32 := ⟨fun number => .float (number.convert .double)⟩
instance : ToValue Binary64 := ⟨.float⟩
instance : ToValue Decimal := ⟨.decimal⟩
instance : ToValue String := ⟨.text⟩
instance : ToValue (List UInt8) := ⟨.bytes⟩
instance : ToValue Instant := ⟨.instant⟩
instance : ToValue LocalTimestamp := ⟨.localTimestamp⟩
instance : ToValue Uuid := ⟨.uuid⟩
instance : ToValue Json := ⟨fun document => .text document.render⟩

/-- Nothing is the null. -/
instance {α : Type} [ToValue α] : ToValue (Option α) :=
  ⟨fun content => content.elim .null toValue⟩

end OracleSql
