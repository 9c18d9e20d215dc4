/-
This file gives decimals their value as a rational number, and says what rounding does to it. A
rational has so many places if it is a whole multiple of the power of ten they count; the places may
be negative, and then digits before the point are zero. Rounding to a scale always gives a number
with its places, and leaves a number that has them alone. A numeral of a precision and a scale is
such a multiple with no more digits than the precision.
-/

import Mathlib.Algebra.Order.Field.Basic
import Mathlib.Data.Nat.Digits.Defs
import Mathlib.Data.Rat.Cast.Order
import Mathlib.Tactic.FieldSimp
import Mathlib.Tactic.Positivity
import Mathlib.Tactic.Ring
import OracleSql.Number.Decimal
import OracleSql.Proofs.Number.Binary

namespace OracleSql

/-! ### Places -/

/-- The rational is a whole multiple of `10 ^ (-places)`. -/
def HasPlaces (places : Int) (number : ℚ) : Prop :=
  ∃ count : ℤ, number = count * 10 ^ (-places)

/-- The rational is a multiple of `10 ^ (-scale)` that is written in `precision` digits. -/
def IsNumeral (precision : Nat) (scale : Int) (number : ℚ) : Prop :=
  ∃ count : ℤ, number = count * 10 ^ (-scale) ∧ |count| < 10 ^ precision

theorem tenPower_pos (exponent : Int) : (0 : ℚ) < 10 ^ exponent :=
  zpow_pos (by norm_num) exponent

/-- A number keeps its places when more are allowed. -/
theorem HasPlaces.mono {fewer more : Int} {number : ℚ} (le : fewer ≤ more)
    (places : HasPlaces fewer number) : HasPlaces more number := by
  obtain ⟨count, rfl⟩ := places
  refine ⟨count * 10 ^ (more - fewer).toNat, ?_⟩
  have shift : (10 : ℚ) ^ (-fewer) = 10 ^ ((more - fewer).toNat : Int) * 10 ^ (-more) := by
    rw [← zpow_add₀ (by norm_num)]
    congr 1
    omega
  rw [shift, zpow_natCast]
  push_cast
  ring

/-- A number with the places of a scale is a numeral as soon as it is small enough. -/
theorem HasPlaces.isNumeral {scale : Int} {number : ℚ} (places : HasPlaces scale number)
    {precision : Nat} (small : |number| < 10 ^ ((precision : Int) - scale)) :
    IsNumeral precision scale number := by
  obtain ⟨count, rfl⟩ := places
  refine ⟨count, rfl, ?_⟩
  rw [abs_mul, abs_of_pos (tenPower_pos _), sub_eq_add_neg, zpow_add₀ (by norm_num),
    mul_lt_mul_iff_left₀ (tenPower_pos _), zpow_natCast] at small
  exact_mod_cast small

/-- A numeral is smaller than the power of ten of the digits it has before the point. -/
theorem IsNumeral.abs_lt {precision : Nat} {scale : Int} {number : ℚ}
    (numeral : IsNumeral precision scale number) : |number| < 10 ^ ((precision : Int) - scale) := by
  obtain ⟨count, rfl, small⟩ := numeral
  rw [abs_mul, abs_of_pos (tenPower_pos _), sub_eq_add_neg, zpow_add₀ (by norm_num),
    mul_lt_mul_iff_left₀ (tenPower_pos _), zpow_natCast]
  exact_mod_cast small

theorem IsNumeral.hasPlaces {precision : Nat} {scale : Int} {number : ℚ}
    (numeral : IsNumeral precision scale number) : HasPlaces scale number :=
  numeral.imp fun _ parts => parts.1

/-- A whole number is a numeral without places where its digits suffice. -/
theorem isNumeral_intCast {precision : Nat} {number : ℤ} (small : |number| < 10 ^ precision) :
    IsNumeral precision 0 (number : ℚ) :=
  ⟨number, by simp, small⟩

/-- More places and more digits before the point make room for every numeral. -/
theorem IsNumeral.mono {precision widerPrecision : Nat} {scale widerScale : Int} {number : ℚ}
    (places : scale ≤ widerScale)
    (digits : (precision : Int) - scale ≤ widerPrecision - widerScale)
    (numeral : IsNumeral precision scale number) :
    IsNumeral widerPrecision widerScale number :=
  (numeral.hasPlaces.mono places).isNumeral
    (numeral.abs_lt.trans_le (zpow_le_zpow_right₀ (by norm_num) digits))

namespace Decimal

/-! ### Values -/

/-- The coefficient with the sign of the number. -/
def signed (number : Decimal) : ℤ :=
  if number.negative then -(number.coefficient : ℤ) else number.coefficient

/-- The number as a rational. -/
def value (number : Decimal) : ℚ :=
  number.signed / 10 ^ number.scale

theorem natAbs_signed (number : Decimal) : number.signed.natAbs = number.coefficient := by
  unfold signed
  split <;> simp

/-- Numbers of one sign have coefficients in the relation of their signed ones. -/
theorem signed_eq_of_negative {number other : Decimal} {factor : Nat}
    (sign : number.negative = other.negative)
    (coefficient : number.coefficient * factor = other.coefficient) :
    number.signed * factor = other.signed := by
  unfold signed
  rw [sign, ← coefficient]
  split
  · push_cast
    ring
  · push_cast
    rfl

/-- The magnitude of the value. -/
theorem abs_value (number : Decimal) :
    |number.value| = (number.coefficient : ℚ) / 10 ^ number.scale := by
  rw [value, abs_div, abs_of_pos (by positivity : (0 : ℚ) < 10 ^ number.scale), ← Int.cast_abs,
    Int.abs_eq_natAbs, natAbs_signed, Int.cast_natCast]

/-- A decimal has the places of its scale. -/
theorem value_hasPlaces (number : Decimal) : HasPlaces number.scale number.value := by
  refine ⟨number.signed, ?_⟩
  rw [value, zpow_neg, zpow_natCast, div_eq_mul_inv]

/-- A decimal with fewer places than its scale has a coefficient that ends in zeros. -/
theorem exists_coefficient_eq_mul {number : Decimal} {places : Int}
    (has : HasPlaces places number.value) (few : places ≤ number.scale) :
    ∃ count : Nat, number.coefficient = count * 10 ^ (number.scale - places).toNat := by
  obtain ⟨count, same⟩ := has
  refine ⟨count.natAbs, ?_⟩
  have unit : (10 : ℚ) ^ (-places) * 10 ^ number.scale =
      10 ^ (number.scale - places).toNat := by
    rw [← zpow_natCast, ← zpow_natCast, ← zpow_add₀ (by norm_num)]
    congr 1
    omega
  have whole : number.signed = count * 10 ^ (number.scale - places).toNat := by
    rw [value, div_eq_iff (by positivity), mul_assoc, unit] at same
    exact_mod_cast same
  rw [← natAbs_signed, whole, Int.natAbs_mul, Int.natAbs_pow]
  rfl

/-! ### Whole numbers -/

theorem make?_eq_some {negative : Bool} {coefficient scale : Nat} {number : Decimal}
    (made : make? negative coefficient scale = some number) :
    number.negative = negative ∧ number.coefficient = coefficient ∧ number.scale = scale := by
  unfold make? at made
  split at made
  · cases made
    exact ⟨rfl, rfl, rfl⟩
  · cases made

theorem signed_of_natAbs {number : Decimal} {whole : Int}
    (sign : number.negative = (whole < 0 : Bool))
    (coefficient : number.coefficient = whole.natAbs) : number.signed = whole := by
  unfold signed
  rw [sign, coefficient]
  by_cases below : whole < 0
  · rw [if_pos (decide_eq_true below)]
    omega
  · rw [if_neg (by simpa using below)]
    omega

/-- A decimal made from a whole number has its value. -/
theorem value_of_ofInt? {whole : Int} {number : Decimal} (made : ofInt? whole = some number) :
    number.value = whole := by
  obtain ⟨sign, coefficient, scale⟩ := make?_eq_some made
  rw [value, signed_of_natAbs sign coefficient, scale, pow_zero, div_one]

/-- The value of a whole number is its whole part. -/
theorem value_of_isWhole {number : Decimal} (whole : number.isWhole = true) :
    number.value = number.toInt := by
  have ends : number.coefficient = number.wholePart * 10 ^ number.scale := by
    have rest : number.coefficient % 10 ^ number.scale = 0 := beq_iff_eq.mp whole
    have parts := Nat.div_add_mod' number.coefficient (10 ^ number.scale)
    rw [rest, Nat.add_zero] at parts
    exact parts.symm
  have sign : number.signed = number.toInt * 10 ^ number.scale := by
    unfold signed toInt
    rw [ends]
    split
    · push_cast
      ring
    · push_cast
      rfl
  rw [value, sign]
  push_cast
  exact mul_div_cancel_right₀ _ (by positivity)

/-- A zero has the value zero. -/
theorem value_of_isZero {number : Decimal} (vanishes : number.isZero = true) :
    number.value = 0 := by
  have coefficient := number.natAbs_signed
  rw [beq_iff_eq.mp vanishes, Int.natAbs_eq_zero] at coefficient
  rw [value, coefficient, Int.cast_zero, zero_div]

theorem value_zero : zero.value = 0 :=
  value_of_isZero rfl

/-- A number with so many digits before the point is below their power of ten. -/
theorem abs_value_lt {number : Decimal} {digits : Nat} (few : number.wholeDigits ≤ digits) :
    |number.value| < 10 ^ digits := by
  have whole : number.wholePart < 10 ^ digits := by
    by_cases vanishes : number.wholePart = 0
    · rw [vanishes]
      positivity
    · rw [wholeDigits, if_neg vanishes] at few
      have positive : 0 < digits := Nat.lt_of_lt_of_le Nat.length_toDigits_pos few
      exact (Nat.length_toDigits_le_iff (by decide) positive).mp few
  have coefficient : number.coefficient < 10 ^ digits * 10 ^ number.scale :=
    (Nat.div_lt_iff_lt_mul (by positivity)).mp whole
  rw [abs_value, div_lt_iff₀ (by positivity)]
  exact_mod_cast coefficient

/-! ### Rounding -/

/-- A number rounded to so many places has no more. -/
theorem roundedTo_hasPlaces (places : Nat) (number : Decimal) :
    HasPlaces places (number.roundedTo places).value := by
  have scale : (number.roundedTo places).scale ≤ places := by
    unfold roundedTo
    split
    · assumption
    · exact Nat.le_refl places
  exact (value_hasPlaces _).mono (by exact_mod_cast scale)

/-- Rounding halves up gives back a multiple of the unit. -/
theorem half_up_mul (count unit : Nat) (positive : 0 < unit) :
    (2 * (count * unit) + unit) / (2 * unit) = count := by
  rw [Nat.div_eq_iff (by omega)]
  constructor
  · rw [Nat.mul_left_comm]
    omega
  · rw [Nat.mul_left_comm]
    omega

/-- The digits that rounding drops from a number without them leave its sign. -/
theorem signed_roundedTo {places count : Nat} {number : Decimal} (few : ¬number.scale ≤ places)
    (ends : number.coefficient = count * 10 ^ (number.scale - places))
    (kept : (number.roundedTo places).coefficient = count) :
    (number.roundedTo places).signed * (10 ^ (number.scale - places) : Nat) = number.signed := by
  by_cases vanishes : number.coefficient = 0
  · have none : count = 0 := by
      rw [vanishes] at ends
      exact (Nat.mul_eq_zero.mp ends.symm).resolve_right (by positivity)
    have first := (number.roundedTo places).natAbs_signed
    have second := number.natAbs_signed
    rw [kept, none, Int.natAbs_eq_zero] at first
    rw [vanishes, Int.natAbs_eq_zero] at second
    rw [first, second, zero_mul]
  · refine signed_eq_of_negative ?_ (by rw [kept, ends])
    have some : count ≠ 0 := by
      rintro rfl
      exact vanishes (by rw [ends, zero_mul])
    have same : (number.roundedTo places).negative =
        (number.negative && ((number.roundedTo places).coefficient != 0 ||
          number.coefficient == 0)) := by
      rw [roundedTo, dif_neg few]
    rw [same, kept, bne_iff_ne.mpr some, Bool.true_or, Bool.and_true]

/-- A number that has no more places is not changed by rounding. -/
theorem value_roundedTo {places : Nat} {number : Decimal} (has : HasPlaces places number.value) :
    (number.roundedTo places).value = number.value := by
  by_cases few : number.scale ≤ places
  · rw [roundedTo, dif_pos few]
  · obtain ⟨count, ends⟩ := exists_coefficient_eq_mul has (by omega)
    have dropped : ((number.scale : Int) - places).toNat = number.scale - places := by omega
    rw [dropped] at ends
    have kept : (number.roundedTo places).coefficient = count := by
      rw [roundedTo, dif_neg few]
      change (2 * number.coefficient + _) / _ = count
      rw [ends]
      exact half_up_mul count _ (by positivity)
    have scale : (number.roundedTo places).scale = places := by
      rw [roundedTo, dif_neg few]
    have sign := signed_roundedTo few ends kept
    have power : (10 : ℚ) ^ number.scale = 10 ^ (number.scale - places) * 10 ^ places := by
      rw [← pow_add]
      congr 1
      omega
    rw [value, value, scale, ← sign, power]
    push_cast
    field_simp

/-! ### Rounding before the point -/

/-- A number whose coefficient is a multiple of the divisor is divided exactly. -/
theorem value_of_dividedBy? {number quotient : Decimal} {divisor count : Nat}
    (positive : 0 < divisor) (ends : number.coefficient = count * (10 ^ number.scale * divisor))
    (made : number.dividedBy? divisor = some quotient) :
    quotient.value * divisor = number.value := by
  unfold dividedBy? at made
  split at made
  case isTrue vanishes =>
    cases made
    rw [value_zero, zero_mul, value_of_isZero vanishes]
  case isFalse =>
    obtain ⟨scale, -, fits⟩ := List.exists_of_findSome?_eq_some made
    obtain ⟨sign, coefficient, sameScale⟩ := make?_eq_some fits
    have unit : 0 < 10 ^ number.scale * divisor := by positivity
    have exact : number.coefficient * Nat.pow 10 scale =
        count * 10 ^ scale * (10 ^ number.scale * divisor) := by
      rw [ends]
      exact Nat.mul_right_comm _ _ _
    rw [exact] at coefficient
    replace coefficient := coefficient.trans (divideToEven_mul _ unit)
    have signs : quotient.signed * (10 ^ number.scale * divisor : Nat) =
        number.signed * (10 ^ scale : Nat) := by
      unfold signed
      rw [sign, coefficient, ends]
      split
      · push_cast
        ring
      · push_cast
        ring
    have cast : (quotient.signed : ℚ) * (10 ^ number.scale * divisor) =
        number.signed * 10 ^ scale := by exact_mod_cast signs
    rw [value, value, sameScale, div_mul_eq_mul_div, div_eq_div_iff (by positivity) (by positivity),
      ← cast]
    ring

/-- A product has the product of the values. -/
theorem value_of_times? {number product : Decimal} {factor : Nat}
    (made : number.times? factor = some product) : product.value = number.value * factor := by
  unfold times? at made
  split at made
  case isTrue vanishes =>
    cases made
    rw [value_zero, value_of_isZero vanishes, zero_mul]
  case isFalse =>
    obtain ⟨sign, coefficient, scale⟩ := make?_eq_some made
    have signs := signed_eq_of_negative sign.symm coefficient.symm
    rw [value, value, scale, ← signs]
    push_cast
    ring

/-- A number rounded to a power of ten is its multiple. -/
theorem roundedToPower?_hasPlaces {zeros : Nat} {number rounded : Decimal}
    (made : roundedToPower? zeros number = some rounded) : HasPlaces (-zeros) rounded.value := by
  obtain ⟨quotient, -, multiplied⟩ := Option.bind_eq_some_iff.mp made
  obtain ⟨count, whole⟩ := roundedTo_hasPlaces 0 quotient
  refine ⟨count, ?_⟩
  rw [value_of_times? multiplied, whole, Nat.pow_eq]
  simp

/-- A multiple of a power of ten is not changed by rounding to it. -/
theorem value_of_roundedToPower? {zeros : Nat} {number rounded : Decimal}
    (has : HasPlaces (-zeros) number.value)
    (made : roundedToPower? zeros number = some rounded) : rounded.value = number.value := by
  obtain ⟨quotient, divided, multiplied⟩ := Option.bind_eq_some_iff.mp made
  obtain ⟨count, ends⟩ := exists_coefficient_eq_mul has (by omega)
  have dropped : ((number.scale : Int) - -zeros).toNat = number.scale + zeros := by omega
  rw [dropped, pow_add] at ends
  have exact := value_of_dividedBy? (Nat.pow_pos (by decide)) ends divided
  have whole : HasPlaces 0 quotient.value := by
    obtain ⟨units, same⟩ := has
    refine ⟨units, ?_⟩
    rw [same, neg_neg, zpow_natCast, Nat.cast_pow, Nat.cast_ofNat] at exact
    rw [mul_right_cancel₀ (by positivity) exact, neg_zero, zpow_zero, mul_one]
  rw [value_of_times? multiplied, value_roundedTo whole, Nat.pow_eq, exact]

end Decimal

end OracleSql
