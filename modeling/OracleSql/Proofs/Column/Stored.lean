/-
This file says which values a column type can store, and proves that a column only ever gets such
values. The type in the definition of a column and the check of a value are two separate case
analyses over the declared type; the theorem at the end says that they agree for all of them, also
at the ends of the ranges, where rounding carries into a new digit and where sizes are beyond what a
sized type takes.
-/

import OracleSql.ColumnType
import OracleSql.Proofs.Column.Encoding

namespace OracleSql

/-! ### What a type can store -/

/-- The number that a value is exactly: a whole number or a decimal. -/
def Value.rational? : Value → Option ℚ
  | .int number => some number.toInt
  | .decimal number => some number.value
  | _ => none

/-- The greatest finite magnitude of 32 bits. -/
def maxSingle : ℚ := (2 ^ 24 - 1) * 2 ^ 104

/-- The values that a column of the type can store. -/
def ColumnType.CanStore : ColumnType → Value → Prop
  | .number none _, value => ∃ content, value.rational? = some content
  | .number (some precision) scale, value =>
    ∃ content, value.rational? = some content ∧ IsNumeral precision (scale.getD 0) content
  | .binaryFloat, .float content => content.isFinite = true → content.absValue ≤ maxSingle
  | .binaryDouble, .float _ => True
  | .varchar size, .text content => content.toList.length ≤ size
  | .char size, .text content =>
    content.toList.length = size ∧ ∀ letter ∈ content.toList, letter.toNat < 128
  | .clob, .text _ => True
  | .raw size, .bytes content => content.length ≤ size
  | .blob, .bytes _ => True
  | .timestamp .kept _, .instant _ => True
  | .timestamp .session _, .localTimestamp _ => True
  | .boolean, .bool _ => True
  | _, _ => False

/-! ### Numbers -/

/-- What writes a whole number is that number. -/
theorem Value.Writes.rational? {value : Value} {number : Int} (writes : value.Writes number) :
    value.rational? = some (number : ℚ) := by
  cases writes with
  | int number => rfl
  | decimal whole => exact congrArg some (Decimal.value_of_isWhole whole)

/-- A whole number of a range can be stored where there are digits for both ends of it. -/
theorem ColumnType.canStore_of_range {value : Value} {number least greatest : Int} {digits : Nat}
    (writes : value.Writes number) (inside : least ≤ number ∧ number ≤ greatest)
    (lower : -10 ^ digits < least) (upper : greatest < 10 ^ digits) :
    (ColumnType.number (some digits) (some 0)).CanStore value :=
  ⟨number, writes.rational?, isNumeral_intCast
    (abs_lt.mpr ⟨lower.trans_le inside.1, inside.2.trans_lt upper⟩)⟩

/-- The types of whole numbers have digits for every number of their range. -/
theorem Dialect.canStore_of_inRange {dialect : Dialect} {column : Column} {stored : Value}
    {number : Int} (integer : column.fieldType.isInteger = true) (inside : column.InRange number)
    (writes : stored.Writes number) : (dialect.typeOf column).CanStore stored := by
  obtain ⟨range, ranged⟩ := Option.isSome_iff_exists.mp integer
  have bounds := inside range ranged
  unfold Dialect.typeOf
  cases kind : column.fieldType <;> rw [kind] at ranged <;> cases ranged
  all_goals exact ColumnType.canStore_of_range writes bounds (by decide) (by decide)

/-- The numerator of the greatest 32-bit number among those of 64 bits. -/
theorem numerator_greatestSingle :
    BinaryFormat.double.numerator Column.greatestSingle =
      (2 ^ 24 - 1) * 2 ^ 104 * 2 ^ BinaryFormat.double.unit := by
  decide +kernel

/-- Numbers up to the greatest one of 32 bits can be stored in 32 bits. -/
theorem Binary.absValue_le_maxSingle {number : Binary64}
    (le : number.magnitude ≤ Column.greatestSingle) : number.absValue ≤ maxSingle := by
  refine (absValue_le le).trans_eq ?_
  rw [numerator_greatestSingle, Nat.cast_mul, Nat.cast_pow, Nat.cast_ofNat,
    mul_div_cancel_right₀ _ (by positivity), maxSingle]
  norm_num

/-! ### The type of a column and its check -/

namespace Dialect

variable {dialect : Dialect} {column : Column} {value stored : Value}

/-- The type of a column without faults is the one of its declaration. -/
theorem typeOf_of_columnType {columnType : ColumnType}
    (typed : dialect.columnType column = .ok columnType) :
    dialect.typeOf column = columnType := by
  unfold Dialect.columnType at typed
  split at typed
  · cases typed
  · exact Except.ok.inj typed

/-- A flag can be stored in a column of flags. -/
theorem canStore_flagValue (kind : column.fieldType = .bool) (flag : Bool) :
    (dialect.typeOf column).CanStore (dialect.flagValue flag) := by
  unfold typeOf flagValue
  rw [kind]
  cases dialect.nativeBoolean with
  | true => trivial
  | false =>
    cases flag <;>
      exact ColumnType.canStore_of_range (.int _) ⟨le_refl _, le_refl _⟩ (by decide) (by decide)

/-- A decimal that fits can be stored in a column of decimals. -/
theorem canStore_of_fitDecimal (kind : column.fieldType = .decimal) {number : Decimal}
    (encoded : column.fitDecimal number = .ok stored) :
    (dialect.typeOf column).CanStore stored := by
  obtain ⟨kept, rfl, fits, -⟩ := Column.fitDecimal_eq_ok encoded
  unfold typeOf
  rw [kind]
  cases digits : column.precision with
  | none => exact ⟨kept.value, rfl⟩
  | some precision => exact ⟨kept.value, rfl, fits precision digits⟩

/-- A text no longer than its column can be stored in it. -/
theorem canStore_text (kind : column.fieldType = .string) {content : String}
    (short : ∀ limit ∈ column.size, content.toList.length ≤ limit) :
    (dialect.typeOf column).CanStore (.text content) := by
  unfold typeOf
  rw [kind]
  cases sized : column.size with
  | none => trivial
  | some limit =>
    by_cases fits : limit ≤ dialect.maxVarcharLength
    · simp only [if_pos fits]
      exact short limit sized
    · simp only [if_neg fits]
      trivial

/-- A byte string no longer than its column can be stored in it. -/
theorem canStore_bytes (kind : column.fieldType = .bytes) {content : List UInt8}
    (short : ∀ limit ∈ column.size, content.length ≤ limit) :
    (dialect.typeOf column).CanStore (.bytes content) := by
  unfold typeOf
  rw [kind]
  cases sized : column.size with
  | none => trivial
  | some limit =>
    by_cases fits : limit ≤ Column.maxRawLength
    · simp only [if_pos fits]
      exact short limit sized
    · simp only [if_neg fits]
      trivial

/-- What the encoder of a column lets through can be stored in it. -/
theorem canStore_of_encode (encoded : dialect.encode column value = .ok stored)
    (given : value.isNull = false) : (dialect.typeOf column).CanStore stored := by
  cases kind : column.fieldType <;>
    simp only [encode, given, kind, Bool.false_eq_true, if_false] at encoded
  case bool =>
    obtain ⟨flag, -, rfl⟩ := encodeBool_eq_ok encoded
    exact canStore_flagValue kind flag
  case float32 =>
    obtain ⟨number, -, rfl, small⟩ := Column.encodeFloat_eq_ok encoded
    unfold typeOf
    rw [kind]
    exact fun finite => Binary.absValue_le_maxSingle (small kind finite)
  case float64 =>
    obtain ⟨number, -, rfl, -⟩ := Column.encodeFloat_eq_ok encoded
    unfold typeOf
    rw [kind]
    trivial
  case decimal =>
    obtain ⟨number, -, fits⟩ := Column.encodeDecimal_eq_ok encoded
    exact canStore_of_fitDecimal kind fits
  case string =>
    obtain ⟨content, kept, -, rfl, -, short⟩ := encodeText_eq_ok encoded
    exact canStore_text kind short
  case bytes =>
    obtain ⟨content, -, rfl, short⟩ := Column.encodeBytes_eq_ok encoded
    exact canStore_bytes kind short
  case instant =>
    unfold typeOf
    rw [kind]
    cases value with
    | instant time =>
      cases encoded
      trivial
    | _ => cases encoded
  case localTimestamp =>
    unfold typeOf
    rw [kind]
    cases value with
    | localTimestamp time =>
      cases encoded
      trivial
    | _ => cases encoded
  case uuid =>
    obtain ⟨identifier, -, rfl⟩ := Column.encodeUuid_eq_ok encoded
    unfold typeOf
    rw [kind]
    exact ⟨identifier.length_toText, identifier.isAscii_toText⟩
  case json =>
    obtain ⟨content, document, -, rfl, -⟩ := Column.encodeJson_eq_ok encoded
    unfold typeOf
    rw [kind]
    trivial
  all_goals
    obtain ⟨number, -, inside, writes⟩ := Column.encodeInteger_eq_ok encoded
    exact canStore_of_inRange (by rw [kind]; rfl) inside writes

/-- **A column only gets what its type can store.** Whatever the settings, the declaration and the
value: where the column has a type and its encoder accepts the value with a result that is not the
null, the type can store the result. -/
theorem columnType_canStore_of_encode {columnType : ColumnType}
    (typed : dialect.columnType column = .ok columnType)
    (encoded : dialect.encode column value = .ok stored) (given : stored ≠ .null) :
    columnType.CanStore stored := by
  have same := typeOf_of_columnType typed
  have some : value.isNull = false := by
    cases value with
    | null => exact absurd (Except.ok.inj encoded).symm given
    | _ => rfl
  exact same ▸ canStore_of_encode encoded some

/-- Six digits, two of them after the point, have room for the carry when 999.995 is rounded. -/
theorem columnType_canStore_of_encode_carry :
    let column : Column :=
      ⟨"PRICE", .decimal, none, some 6, some 2, true, none, false, none⟩
    ∃ stored, ({} : Dialect).encode column (.decimal ⟨false, 999995, 3, by decide, by decide⟩) =
        .ok stored ∧ (ColumnType.number (some 6) (some 2)).CanStore stored := by
  intro column
  have typed : ({} : Dialect).columnType column = .ok (.number (some 6) (some 2)) := by decide
  have encoded : ({} : Dialect).encode column
      (.decimal ⟨false, 999995, 3, by decide, by decide⟩) =
        .ok (.decimal ⟨false, 100000, 2, by decide, by decide⟩) := by
    decide +kernel
  exact ⟨_, encoded, columnType_canStore_of_encode typed encoded (by decide)⟩

end Dialect

end OracleSql
