/-
This file proves that binary numbers are exact where they can be. Ranks below the leading bit are
their own numerator; any other rank is a power of two and a fraction, and its numerator is the
leading bit with the fraction, times the power. A quotient that is the value of a rank has it as its
nearest one. Every 32-bit number is the value of a 64-bit one, so converting there and back gives
the number that one started with.
-/

import Mathlib.Data.Rat.Cast.Order
import Mathlib.Order.Monotone.Basic
import Mathlib.Tactic.Positivity
import OracleSql.Number.Binary

namespace OracleSql

/-- The rounded quotient of a multiple is the exact one. -/
theorem divideToEven_mul (count : Nat) {unit : Nat} (positive : 0 < unit) :
    divideToEven (count * unit) unit = count := by
  simp [divideToEven, Nat.mul_div_cancel count positive, positive]

namespace BinaryFormat

variable {format : BinaryFormat}

/-! ### Numerators -/

theorem leadingBit_eq (format : BinaryFormat) : format.leadingBit = 2 ^ format.fractionBits :=
  Nat.one_shiftLeft _

theorem leadingBit_pos (format : BinaryFormat) : 0 < format.leadingBit := by
  rw [leadingBit_eq]
  positivity

/-- The least magnitudes count the unit. -/
theorem numerator_of_lt {rank : Nat} (small : rank < format.leadingBit) :
    format.numerator rank = rank := by
  rw [numerator, mantissa, if_pos small, lift, Nat.div_eq_of_lt small]
  rfl

/-- A rank that is not among the least ones is a power of two and a fraction. -/
theorem exists_parts {rank : Nat} (large : format.leadingBit ≤ rank) :
    ∃ power fraction, fraction < format.leadingBit ∧
      rank = (power + 1) * format.leadingBit + fraction := by
  refine ⟨rank / format.leadingBit - 1, rank % format.leadingBit,
    Nat.mod_lt _ format.leadingBit_pos, ?_⟩
  have power : 1 ≤ rank / format.leadingBit := (Nat.one_le_div_iff format.leadingBit_pos).mpr large
  rw [Nat.sub_add_cancel power]
  exact (Nat.div_add_mod' _ _).symm

/-- A fraction below the leading bit leaves the powers to the quotient. -/
theorem lift_of_parts {power fraction : Nat} (small : fraction < format.leadingBit) :
    format.lift ((power + 1) * format.leadingBit + fraction) = power := by
  rw [lift, Nat.mul_comm, Nat.mul_add_div format.leadingBit_pos, Nat.div_eq_of_lt small]
  rfl

/-- The numerator of a power of two and a fraction. -/
theorem numerator_of_parts {power fraction : Nat} (small : fraction < format.leadingBit) :
    format.numerator ((power + 1) * format.leadingBit + fraction) =
      (format.leadingBit + fraction) * 2 ^ power := by
  have large : ¬(power + 1) * format.leadingBit + fraction < format.leadingBit := by
    rw [Nat.add_mul, Nat.one_mul]
    omega
  rw [numerator, lift_of_parts small, mantissa, if_neg large, Nat.mul_comm, Nat.mul_add_mod,
    Nat.mod_eq_of_lt small, Nat.shiftLeft_eq, Nat.add_comm fraction]

/-- Greater ranks stand for greater magnitudes. -/
theorem numerator_monotone (format : BinaryFormat) : Monotone format.numerator := by
  refine monotone_nat_of_le_succ fun rank => ?_
  by_cases small : rank < format.leadingBit
  · by_cases next : rank + 1 < format.leadingBit
    · rw [numerator_of_lt small, numerator_of_lt next]
      exact Nat.le_succ rank
    · have first : rank + 1 = (0 + 1) * format.leadingBit + 0 := by omega
      rw [numerator_of_lt small, first, numerator_of_parts format.leadingBit_pos]
      omega
  · obtain ⟨power, fraction, bound, rfl⟩ := exists_parts (Nat.le_of_not_lt small)
    rw [numerator_of_parts bound]
    by_cases next : fraction + 1 < format.leadingBit
    · rw [Nat.add_assoc, numerator_of_parts next]
      exact Nat.mul_le_mul_right _ (by omega)
    · have carried : (power + 1) * format.leadingBit + fraction + 1 =
          (power + 1 + 1) * format.leadingBit + 0 := by
        rw [Nat.add_mul (power + 1) 1, Nat.one_mul]
        omega
      rw [carried, numerator_of_parts format.leadingBit_pos, Nat.pow_succ', ← Nat.mul_assoc]
      exact Nat.mul_le_mul_right _ (by omega)

/-! ### Exact values -/

/-- The highest bit of a numerator is the leading bit, lifted by the power. -/
theorem log2_of_parts {power fraction : Nat} (bound : fraction < format.leadingBit) :
    Nat.log2 ((format.leadingBit + fraction) * 2 ^ power) = format.fractionBits + power := by
  have leading := format.leadingBit_pos
  have some : (format.leadingBit + fraction) * 2 ^ power ≠ 0 :=
    Nat.mul_ne_zero (by omega) (by positivity)
  rw [Nat.log2_eq_iff some, Nat.add_right_comm, Nat.pow_add, Nat.pow_add, Nat.pow_succ,
    ← leadingBit_eq]
  exact ⟨Nat.mul_le_mul_right _ (by omega),
    Nat.mul_lt_mul_of_pos_right (by omega) (by positivity)⟩

/-- The nearest rank to the value of a rank is that rank. -/
theorem nearest_of_exact {dividend divisor rank : Nat} (positive : 0 < divisor)
    (finite : rank < format.infinity)
    (exact : dividend <<< format.unit = format.numerator rank * divisor) :
    format.nearest dividend divisor = rank := by
  unfold nearest
  simp only [exact, Nat.mul_div_cancel _ positive]
  by_cases small : rank < format.leadingBit
  · -- Among the least magnitudes nothing is lifted.
    have level : Nat.log2 rank - format.fractionBits = 0 := by
      by_cases vanishes : rank = 0
      · rw [vanishes, Nat.log2_zero, Nat.zero_sub]
      · have below := (Nat.log2_lt vanishes).mpr (leadingBit_eq format ▸ small)
        omega
    rw [numerator_of_lt small, level, Nat.zero_mul, Nat.zero_add, Nat.shiftLeft_zero,
      divideToEven_mul _ positive]
    exact Nat.min_eq_left finite.le
  · obtain ⟨power, fraction, bound, rfl⟩ := exists_parts (Nat.le_of_not_lt small)
    have level : Nat.log2 ((format.leadingBit + fraction) * 2 ^ power) - format.fractionBits =
        power := by
      rw [log2_of_parts bound, Nat.add_sub_cancel_left]
    have regrouped : (format.leadingBit + fraction) * 2 ^ power * divisor =
        (format.leadingBit + fraction) * (divisor <<< power) := by
      rw [Nat.shiftLeft_eq, Nat.mul_assoc, Nat.mul_comm (2 ^ power)]
    have unit : 0 < divisor <<< power := by
      rw [Nat.shiftLeft_eq]
      positivity
    rw [numerator_of_parts bound, level, regrouped, divideToEven_mul _ unit]
    have sum : power * format.leadingBit + (format.leadingBit + fraction) =
        (power + 1) * format.leadingBit + fraction := by
      rw [Nat.add_mul, Nat.one_mul, Nat.add_assoc]
    rw [sum]
    exact Nat.min_eq_left finite.le

/-- A natural whose bits have room in a mantissa is the numerator of a rank, if it is lifted far
enough. -/
theorem exists_numerator_eq {bits power : Nat} (some : bits ≠ 0)
    (narrow : bits.log2 ≤ format.fractionBits) (lifted : format.fractionBits ≤ power) :
    ∃ rank < (power + 2) * format.leadingBit, format.numerator rank = bits * 2 ^ power := by
  have lower := Nat.log2_self_le some
  have upper := Nat.lt_log2_self (n := bits)
  -- The mantissa is the number with its highest bit moved to the leading one.
  have shift : 2 ^ bits.log2 * 2 ^ (format.fractionBits - bits.log2) = format.leadingBit := by
    rw [← Nat.pow_add, Nat.add_sub_cancel' narrow, leadingBit_eq]
  have reaches : format.leadingBit ≤ bits * 2 ^ (format.fractionBits - bits.log2) := by
    rw [← shift]
    exact Nat.mul_le_mul_right _ lower
  have within : bits * 2 ^ (format.fractionBits - bits.log2) < 2 * format.leadingBit := by
    rw [← shift, ← Nat.mul_assoc, ← Nat.pow_succ']
    exact Nat.mul_lt_mul_of_pos_right upper (by positivity)
  obtain ⟨fraction, parts⟩ := Nat.exists_eq_add_of_le reaches
  have bound : fraction < format.leadingBit := by omega
  refine ⟨(power + bits.log2 - format.fractionBits + 1) * format.leadingBit + fraction, ?_, ?_⟩
  · have room : (power + bits.log2 - format.fractionBits + 1 + 1) * format.leadingBit ≤
        (power + 2) * format.leadingBit := Nat.mul_le_mul_right _ (by omega)
    rw [Nat.add_mul _ 1, Nat.one_mul] at room
    omega
  · rw [numerator_of_parts bound, ← parts, Nat.mul_assoc, ← Nat.pow_add]
    congr 2
    omega

end BinaryFormat

/-! ### Converting to more bits and back -/

namespace BinaryFormat

/-- Every finite 32-bit magnitude is a 64-bit one. -/
theorem exists_double_of_single {rank : Nat} (finite : rank < single.infinity) :
    ∃ wide < double.infinity, double.numerator wide <<< single.unit =
      single.numerator rank <<< double.unit := by
  have units : double.unit = 925 + single.unit := by decide
  by_cases vanishes : rank = 0
  · exact ⟨0, by decide, by rw [vanishes]; decide⟩
  · obtain ⟨bits, power, some, narrow, small, same⟩ : ∃ bits power, bits ≠ 0 ∧ bits.log2 ≤ 23 ∧
        power ≤ 253 ∧ single.numerator rank = bits * 2 ^ power := by
      by_cases small : rank < single.leadingBit
      · have below := (Nat.log2_lt vanishes).mpr (leadingBit_eq single ▸ small)
        refine ⟨rank, 0, vanishes, ?_, by omega, ?_⟩
        · change rank.log2 < 23 at below
          omega
        · rw [numerator_of_lt small, Nat.pow_zero, Nat.mul_one]
      · obtain ⟨power, fraction, bound, rfl⟩ := exists_parts (Nat.le_of_not_lt small)
        refine ⟨single.leadingBit + fraction, power, ?_, ?_, ?_, numerator_of_parts bound⟩
        · have leading := single.leadingBit_pos
          omega
        · have room : single.leadingBit + fraction < 2 ^ 24 := by
            change fraction < 2 ^ 23 at bound
            change 2 ^ 23 + fraction < 2 ^ 24
            omega
          have leading := single.leadingBit_pos
          exact Nat.le_of_lt_succ ((Nat.log2_lt (by omega)).mpr room)
        · change (power + 1) * 2 ^ 23 + fraction < 255 * 2 ^ 23 at finite
          omega
    have lifted : double.fractionBits ≤ power + 925 := by
      change 52 ≤ power + 925
      omega
    obtain ⟨wide, room, exact⟩ := exists_numerator_eq some (narrow.trans (by decide)) lifted
    refine ⟨wide, room.trans_le ?_, ?_⟩
    · exact Nat.mul_le_mul_right _ (by change power + 925 + 2 ≤ 2047; omega)
    · rw [exact, same, units, Nat.shiftLeft_eq, Nat.shiftLeft_eq, Nat.pow_add, Nat.pow_add]
      simp only [Nat.mul_assoc]

end BinaryFormat

namespace Binary

theorem ofRank_of_lt {format : BinaryFormat} (negative : Bool) {rank : Nat}
    (bound : rank < format.infinity + 1) :
    (ofRank negative rank : Binary format) = ranked negative ⟨rank, bound⟩ :=
  dif_pos bound

theorem convert_of_finite {format target : BinaryFormat} (negative : Bool)
    {rank : Fin (format.infinity + 1)} (finite : rank.val < format.infinity) {result : Nat}
    (bound : result < target.infinity)
    (exact : target.numerator result <<< format.unit =
      format.numerator rank <<< target.unit) :
    (ranked negative rank).convert target =
      ranked negative ⟨result, Nat.lt_succ_of_lt bound⟩ := by
  have unit : 0 < 1 <<< format.unit := by
    rw [Nat.one_shiftLeft]
    positivity
  have nearest : target.nearest (format.numerator rank) (1 <<< format.unit) = result := by
    refine BinaryFormat.nearest_of_exact unit bound ?_
    rw [← exact, Nat.one_shiftLeft, Nat.shiftLeft_eq]
  change (if rank.val < format.infinity then
    ofQuotient negative (format.numerator rank) (1 <<< format.unit) else _) = _
  rw [if_pos finite, ofQuotient, nearest]
  exact ofRank_of_lt negative _

theorem convert_of_infinite {format target : BinaryFormat} (negative : Bool)
    {rank : Fin (format.infinity + 1)} (infinite : ¬rank.val < format.infinity) :
    (ranked negative rank).convert target =
      ranked negative ⟨target.infinity, Nat.lt_succ_self _⟩ := by
  change (if rank.val < format.infinity then _ else ofRank negative target.infinity) = _
  rw [if_neg infinite]
  exact ofRank_of_lt negative _

/-- A 32-bit number is read back from its 64 bits. -/
theorem convert_convert (number : Binary32) :
    (number.convert .double).convert .single = number := by
  cases number with
  | nan => rfl
  | ranked negative rank =>
    by_cases finite : rank.val < BinaryFormat.single.infinity
    · obtain ⟨wide, bound, exact⟩ := BinaryFormat.exists_double_of_single finite
      have room := Nat.lt_succ_of_lt bound
      have back : (ranked negative ⟨wide, room⟩ : Binary64).convert .single = _ :=
        convert_of_finite negative bound finite exact.symm
      rw [convert_of_finite negative finite bound exact, back]
    · have last : rank.val = BinaryFormat.single.infinity := by
        have bound := rank.isLt
        omega
      have back : (ranked negative ⟨_, Nat.lt_succ_self _⟩ : Binary64).convert .single = _ :=
        convert_of_infinite negative (Nat.lt_irrefl _)
      rw [convert_of_infinite negative finite, back]
      exact congrArg (ranked negative) (Fin.ext last.symm)

/-! ### Magnitudes -/

/-- The magnitude of a finite number as a rational. -/
def absValue {format : BinaryFormat} (number : Binary format) : ℚ :=
  number.numerator / 2 ^ format.unit

/-- A number is no greater than the magnitude of a rank that its own does not pass. -/
theorem absValue_le {format : BinaryFormat} {number : Binary format} {rank : Nat}
    (le : number.magnitude ≤ rank) :
    number.absValue ≤ format.numerator rank / 2 ^ format.unit := by
  have numerators : number.numerator ≤ format.numerator rank := format.numerator_monotone le
  rw [absValue, div_le_div_iff_of_pos_right (by positivity)]
  exact_mod_cast numerators

end Binary

end OracleSql
