/-
This file says what a column of decimals does to a number that it could store. With a scale of zero
or more the number is rounded right, and then its digits before the point are counted against those
that the precision leaves for them. The count is exact as long as the precision leaves any or none.
A scale above the precision asks for zeros behind the point; it leaves a negative number of digits,
of which no count is small enough, and so the column refuses everything, zero included.

With a negative scale the number is rounded in two steps. What comes out is right for all numbers
but those just below a half, which are stored as the unit instead of zero.
-/

import OracleSql.Proofs.Column.Stored
import OracleSql.Proofs.Number.Rounding

namespace OracleSql

/-! ### Digits before the point -/

/-- A number below a power of ten has no more digits before the point. -/
theorem Decimal.wholeDigits_le {number : Decimal} {digits : Nat}
    (small : |number.value| < 10 ^ digits) : number.wholeDigits ≤ digits := by
  have coefficient : number.coefficient < 10 ^ digits * 10 ^ number.scale := by
    rw [abs_value, div_lt_iff₀ (by positivity)] at small
    exact_mod_cast small
  have whole : number.wholePart < 10 ^ digits :=
    (Nat.div_lt_iff_lt_mul (Nat.pow_pos (by decide))).mpr coefficient
  rw [wholeDigits]
  split
  · exact Nat.zero_le digits
  · next present =>
    have positive : 0 < digits := by
      rcases Nat.eq_zero_or_pos digits with rfl | positive
      · omega
      · exact positive
    exact (Nat.length_toDigits_le_iff (by decide) positive).mpr whole

theorem Decimal.value_ofInt64 (number : Int64) : (ofInt64 number).value = number.toInt := by
  rw [value, signed_of_natAbs rfl rfl]
  exact div_one _

namespace Column

variable {column : Column} {precision : Nat}

/-- With a scale of zero or more, a number is rounded to it and stored if its digits suffice. -/
theorem fitDecimal_of_nonneg (digits : column.precision = some precision)
    (places : 0 ≤ column.scale.getD 0) (number : Decimal) :
    column.fitDecimal number =
      let rounded := number.roundedTo (column.scale.getD 0).toNat
      if (precision : Int) - column.scale.getD 0 < rounded.wholeDigits then
        .error (.numberRange number precision (column.scale.getD 0))
      else .ok (.decimal rounded) := by
  rw [fitDecimal, digits]
  simp only [roundToScale, if_pos places]

/-- With a negative scale, what is stored is the number rounded before the point. -/
theorem roundedToPower?_of_fitDecimal {number stored : Decimal} {zeros : Nat}
    (digits : column.precision = some precision) (scale : column.scale = some (-(zeros : Int)))
    (positive : 0 < zeros) (encoded : column.fitDecimal number = .ok (.decimal stored)) :
    number.roundedToPower? zeros = some stored := by
  have below : ¬(0 : Int) ≤ -zeros := by omega
  rw [fitDecimal, digits, scale] at encoded
  simp only [Option.getD_some, roundToScale, if_neg below, Int.natAbs_neg, Int.natAbs_natCast]
    at encoded
  by_cases large : maxPower < zeros
  · rw [if_pos large] at encoded
    cases encoded
  · rw [if_neg large] at encoded
    cases made : number.roundedToPower? zeros with
    | none =>
      rw [made] at encoded
      cases encoded
    | some rounded =>
      rw [made] at encoded
      obtain ⟨-, kept⟩ := guarded_eq_ok.mp encoded
      cases kept
      rfl

end Column

namespace Dialect

variable {dialect : Dialect} {column : Column} {precision : Nat}

theorem encode_decimal (kind : column.fieldType = .decimal) (number : Decimal) :
    dialect.encode column (.decimal number) = column.fitDecimal number := by
  unfold encode
  rw [kind]
  rfl

/-- A column of decimals fits the number that a value is. -/
theorem encode_of_rational (dialect : Dialect) (kind : column.fieldType = .decimal) {value : Value} {given : ℚ}
    (number : value.rational? = some given) :
    ∃ decimal : Decimal, decimal.value = given ∧
      dialect.encode column value = column.fitDecimal decimal := by
  cases value with
  | int whole =>
    cases number
    refine ⟨.ofInt64 whole, Decimal.value_ofInt64 whole, ?_⟩
    unfold encode
    rw [kind]
    rfl
  | decimal decimal =>
    cases number
    exact ⟨decimal, rfl, encode_decimal kind decimal⟩
  | _ => cases number

/-! ### Scales behind the point -/

/-- **A number that the column can store is stored, rounded, just if the scale is no greater than
the precision.** The number is given as a whole number or as a decimal, and its nearest multiple of
the unit of the scale is small enough for the precision. -/
theorem encode_representable_iff (kind : column.fieldType = .decimal)
    (digits : column.precision = some precision) (places : 0 ≤ column.scale.getD 0)
    {value : Value} {given rounded : ℚ} (number : value.rational? = some given)
    (rounds : IsRounding (column.scale.getD 0) given rounded)
    (small : |rounded| < 10 ^ ((precision : Int) - column.scale.getD 0)) :
    (∃ stored : Decimal, dialect.encode column value = .ok (.decimal stored) ∧
      stored.value = rounded) ↔ column.scale.getD 0 ≤ precision := by
  obtain ⟨decimal, rfl, encoded⟩ := encode_of_rational dialect kind number
  rw [encoded, Column.fitDecimal_of_nonneg digits places]
  have exact := Decimal.roundedTo_isRounding (column.scale.getD 0).toNat decimal
  rw [Int.toNat_of_nonneg places] at exact
  have kept := exact.unique rounds
  constructor
  · rintro ⟨stored, fits, -⟩
    obtain ⟨enough, -⟩ := guarded_eq_ok.mp fits
    omega
  · intro within
    have room : ((precision : Int) - column.scale.getD 0).toNat =
        (precision : Int) - column.scale.getD 0 := Int.toNat_of_nonneg (by omega)
    have few : (decimal.roundedTo (column.scale.getD 0).toNat).wholeDigits ≤
        ((precision : Int) - column.scale.getD 0).toNat := by
      apply Decimal.wholeDigits_le
      rwa [kept, ← zpow_natCast, room]
    exact ⟨_, if_neg (by omega), kept⟩

/-- 9.994 becomes 9.99 in a column of three digits, two of them behind the point. -/
theorem encode_representable_iff_cents :
    let column : Column := ⟨"PRICE", .decimal, none, some 3, some 2, true, none, false, none⟩
    let price : Decimal := ⟨false, 9994, 3, by decide, by decide⟩
    ∃ stored : Decimal, ({} : Dialect).encode column (.decimal price) = .ok (.decimal stored) ∧
      stored.value = 999 / 100 := by
  intro column price
  have kept : (price.roundedTo 2).value = 999 / 100 := by
    have made : price.roundedTo 2 = ⟨false, 999, 2, by decide, by decide⟩ := by decide +kernel
    rw [made, Decimal.value, Decimal.signed]
    norm_num
  have rounds : IsRounding (column.scale.getD 0) price.value (999 / 100) :=
    kept ▸ Decimal.roundedTo_isRounding 2 price
  have small : |(999 / 100 : ℚ)| < 10 ^ (((3 : Nat) : Int) - column.scale.getD 0) := by
    rw [abs_of_pos (by norm_num)]
    exact (by norm_num : (999 / 100 : ℚ) < 10 ^ (1 : Int))
  exact (encode_representable_iff rfl rfl (by decide) rfl rounds small).mpr (by decide)

/-- 0.00012 has two digits and five places, and a column of two digits and five places is one that
can be made. The column refuses the number nevertheless. -/
theorem encode_refuses_fraction :
    let column : Column := ⟨"SHARE", .decimal, none, some 2, some 5, true, none, false, none⟩
    let share : Decimal := ⟨false, 12, 5, by decide, by decide⟩
    ({} : Dialect).columnType column = .ok (.number (some 2) (some 5)) ∧
      IsRounding 5 share.value share.value ∧ |share.value| < 10 ^ ((2 : Int) - 5) ∧
      ({} : Dialect).encode column (.decimal share) = .error (.numberRange share 2 5) := by
  refine ⟨rfl, ?_, ?_, rfl⟩
  · exact Decimal.roundedTo_isRounding 5 ⟨false, 12, 5, by decide, by decide⟩
  · rw [Decimal.abs_value]
    norm_num

/-! ### Scales before the point -/

/-- **What a column with a negative scale stores is the nearest multiple just if the number is not
just below a half.** Otherwise the first of two roundings comes up to the half. -/
theorem encode_nearest_iff (kind : column.fieldType = .decimal)
    (digits : column.precision = some precision) {zeros : Nat}
    (scale : column.scale = some (-(zeros : Int))) (positive : 0 < zeros) {number stored : Decimal}
    (encoded : dialect.encode column (.decimal number) = .ok (.decimal stored)) :
    IsRounding (-zeros) number.value stored.value ↔ ¬number.IsJustBelowHalf zeros := by
  rw [encode_decimal kind] at encoded
  exact Decimal.roundedToPower?_isRounding_iff positive
    (Column.roundedToPower?_of_fitDecimal digits scale positive encoded)

/-- In a column of tens, 15 becomes 20. -/
theorem encode_nearest_iff_tens :
    let column : Column := ⟨"TENS", .decimal, none, some 3, some (-1), true, none, false, none⟩
    let number : Decimal := ⟨false, 15, 0, by decide, by decide⟩
    let stored : Decimal := ⟨false, 20, 0, by decide, by decide⟩
    ({} : Dialect).encode column (.decimal number) = .ok (.decimal stored) ∧
      IsRounding (-(1 : Nat)) number.value stored.value := by
  intro column number stored
  have encoded : ({} : Dialect).encode column (.decimal number) = .ok (.decimal stored) := by
    decide +kernel
  exact ⟨encoded, (encode_nearest_iff rfl rfl rfl (by decide) encoded).mpr
    fun below => absurd below.1 (by decide)⟩

/-- The greatest number of 28 places that is less than 5 is stored as 10 in a column of tens, and
zero is nearer to it. -/
theorem encode_doubles_rounding :
    let column : Column := ⟨"TENS", .decimal, none, some 38, some (-1), true, none, false, none⟩
    let number : Decimal := ⟨false, 5 * 10 ^ 28 - 1, 28, by decide, by decide⟩
    let stored : Decimal := ⟨false, 10, 0, by decide, by decide⟩
    ({} : Dialect).encode column (.decimal number) = .ok (.decimal stored) ∧
      IsRounding (-1) number.value 0 ∧ ¬IsRounding (-1) number.value stored.value := by
  intro column number stored
  have nearest : IsRounding (-1) number.value 0 := by
    have given : number.value = (5 * 10 ^ 28 - 1) / 10 ^ 28 := by
      rw [Decimal.value, Decimal.signed]
      norm_num [number]
    refine (isRounding_iff_of_nonneg ?_ le_rfl ⟨0, by simp⟩).mpr ⟨?_, ?_⟩ <;>
      rw [given] <;> norm_num
  have ten : stored.value = 10 := by
    rw [Decimal.value, Decimal.signed]
    norm_num [stored]
  refine ⟨by decide +kernel, nearest, fun rounds => ?_⟩
  have same := nearest.unique rounds
  rw [ten] at same
  norm_num at same

end Dialect

end OracleSql
