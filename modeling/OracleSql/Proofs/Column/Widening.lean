/-
This file says what the rows of a live column may hold, and proves that a type which is found to be
wider holds all of it. Numbers are widened in two directions at once, before the point and after it,
with scales on either side of zero; a type without a precision holds every decimal fraction. Texts,
byte strings and times are widened by their size alone.
-/

import OracleSql.ColumnType
import OracleSql.Proofs.Column.Stored

namespace OracleSql

/-! ### What a type holds -/

/-- The content of a row in one column, as the database knows it. -/
inductive Datum where
  | number (content : ℚ)
  | binary (content : Binary64)
  | text (content : String)
  | bytes (content : List UInt8)
  | moment (zone : TimestampZone) (content : Timestamp)
  | flag (content : Bool)

namespace ColumnType

/-- The contents that a column of the type can have. Nothing is known of the types that no declared
column is stored as, but for dates, which have whole seconds. -/
def Holds : ColumnType → Datum → Prop
  | .number none none, .number content => ∃ precision scale, IsNumeral precision scale content
  | .number none (some scale), .number content => HasPlaces scale content
  | .number (some precision) scale, .number content =>
    IsNumeral precision (scale.getD 0) content
  | .binaryFloat, .binary content => ∃ narrow : Binary32, narrow.convert .double = content
  | .binaryDouble, .binary _ => True
  | .varchar size, .text content => content.toList.length ≤ size
  | .char size, .text content => content.toList.length ≤ size
  | .clob, .text _ => True
  | .raw size, .bytes content => content.length ≤ size
  | .blob, .bytes _ => True
  | .timestamp zone precision, .moment ofContent content =>
    ofContent = zone ∧ 10 ^ (9 - precision) ∣ content.nanoseconds
  | .date, .moment .absent content => content.nanoseconds = 0
  | .boolean, .flag _ => True
  | .other _, _ => True
  | _, _ => False

variable {live declared : ColumnType} {datum : Datum}

/-- The two ways to write a scale of zero mean the same. -/
theorem holds_normalized (columnType : ColumnType) (datum : Datum) :
    columnType.normalized.Holds datum ↔ columnType.Holds datum := by
  cases columnType with
  | number precision scale =>
    cases precision with
    | none => rfl
    | some precision => cases scale <;> cases datum <;> rfl
  | _ => rfl

/-! ### What a wider type holds -/

theorem lt_of_bySize {old new : Nat} (widens : bySize old new = .widen) : old < new := by
  unfold bySize at widens
  split at widens
  · assumption
  · cases widens

theorem of_byDigits {old new : Nat × Int} (widens : byDigits old new = .widen) :
    old.2 ≤ new.2 ∧ (old.1 : Int) - old.2 ≤ new.1 - new.2 := by
  unfold byDigits at widens
  split at widens
  next digits => exact digits.2
  next => cases widens

/-- What a number type holds are numbers. -/
theorem exists_number_of_holds {precision : Option Nat} {scale : Option Int}
    (holds : (number precision scale).Holds datum) : ∃ content, datum = .number content := by
  cases datum with
  | number content => exact ⟨content, rfl⟩
  | _ => cases precision <;> cases scale <;> exact False.elim holds

/-- A number is a decimal fraction, whatever is known of its digits. -/
theorem exists_isNumeral_of_holds {precision : Option Nat} {scale : Option Int} {content : ℚ}
    (holds : (number precision scale).Holds (.number content)) :
    ∃ precision scale, IsNumeral precision scale content := by
  cases precision with
  | some precision => exact ⟨precision, scale.getD 0, holds⟩
  | none =>
    cases scale with
    | none => exact holds
    | some scale =>
      obtain ⟨count, same⟩ := holds
      refine ⟨count.natAbs, scale, count, same, ?_⟩
      rw [Int.abs_eq_natAbs]
      exact_mod_cast Nat.lt_pow_self (by decide)

/-- Fewer fractional digits of the seconds are found among more of them. -/
theorem secondsUnit_dvd {old new nanoseconds : Nat} (le : old ≤ new)
    (divides : 10 ^ (9 - old) ∣ nanoseconds) : 10 ^ (9 - new) ∣ nanoseconds :=
  (Nat.pow_dvd_pow 10 (Nat.sub_le_sub_left le 9)).trans divides

/-- **A wider type holds what the narrower one holds.** Whatever type a live column has: if the
declared type is found to be wider, then every content of the live column is one of the declared
type. A declared number has no scale without a precision. -/
theorem holds_of_widen (plain : ∀ scale, declared ≠ .number none (some scale))
    (widens : live.compare declared = .widen) (holds : live.Holds datum) :
    declared.Holds datum := by
  have plainly : ∀ scale, declared.normalized ≠ .number none (some scale) := by
    intro scale same
    unfold normalized at same
    split at same
    · cases same
    · exact plain scale same
  rw [← holds_normalized] at holds ⊢
  unfold compare at widens
  have differs : live.normalized ≠ declared.normalized := by
    intro same
    rw [if_pos same] at widens
    cases widens
  rw [if_neg differs] at widens
  generalize live.normalized = old at widens holds
  generalize declared.normalized = new at widens plainly ⊢
  split at widens
  case h_1 size wider =>
    cases datum with
    | text content => exact Nat.le_trans holds (Nat.le_of_lt (lt_of_bySize widens))
    | _ => exact False.elim holds
  case h_2 size wider =>
    cases datum with
    | text content => exact Nat.le_trans holds (Nat.le_of_lt (lt_of_bySize widens))
    | _ => exact False.elim holds
  case h_3 size wider =>
    cases datum with
    | bytes content => exact Nat.le_trans holds (Nat.le_of_lt (lt_of_bySize widens))
    | _ => exact False.elim holds
  case h_4 size wider =>
    split at widens
    next fits =>
      cases datum with
      | text content => exact Nat.le_trans holds fits
      | _ => exact False.elim holds
    next => cases widens
  case h_5 precision scale given =>
    obtain ⟨content, rfl⟩ := exists_number_of_holds holds
    cases given with
    | some scale => exact absurd rfl (plainly scale)
    | none => exact exists_isNumeral_of_holds holds
  case h_6 => cases widens
  case h_7 oldDigits oldScale newDigits newScale =>
    obtain ⟨content, rfl⟩ := exists_number_of_holds holds
    obtain ⟨places, digits⟩ := of_byDigits widens
    exact IsNumeral.mono places digits holds
  case h_8 oldZone oldPrecision newZone newPrecision =>
    split at widens
    next same =>
      cases datum with
      | moment zone content =>
        obtain ⟨zone, divides⟩ := holds
        exact ⟨zone.trans same, secondsUnit_dvd (Nat.le_of_lt (lt_of_bySize widens)) divides⟩
      | _ => exact False.elim holds
    next => cases widens
  case h_9 => cases widens

end ColumnType

/-- A declared number has both digits and places or neither. -/
theorem Dialect.isSome_eq_of_typeOf {dialect : Dialect} {column : Column} {precision : Option Nat}
    {scale : Option Int} (typed : dialect.typeOf column = .number precision scale) :
    precision.isSome = scale.isSome := by
  cases kind : column.fieldType <;> simp only [typeOf, kind] at typed
  case bool => split at typed <;> cases typed; rfl
  case decimal => split at typed <;> cases typed <;> rfl
  case string =>
    split at typed
    · split at typed <;> cases typed
    · cases typed
  case bytes =>
    split at typed
    · split at typed <;> cases typed
    · cases typed
  all_goals cases typed
  all_goals rfl

/-- A declared number has no scale without a precision. -/
theorem Dialect.typeOf_ne_number (dialect : Dialect) (column : Column) (scale : Int) :
    dialect.typeOf column ≠ .number none (some scale) := by
  intro same
  cases isSome_eq_of_typeOf same

end OracleSql
