/-
This file says when a number is rounded right: to the nearest multiple of the power of ten, and to
the one farther from zero where two are equally near. There is exactly one such multiple. Rounding
behind the point always finds it, since it drops all digits at once. Rounding before the point
divides first, and the quotient has room for 28 places: where its last digit has to go, the number
is rounded twice. That is right as well, unless the first rounding comes up to a half from below it.
-/

import Mathlib.Tactic.Linarith
import OracleSql.Proofs.Number.Decimal

namespace OracleSql

/-! ### The nearest multiple -/

/-- The multiple of `10 ^ (-places)` that is nearest to the number, and of two equally near ones the
one farther from zero. -/
structure IsRounding (places : Int) (given rounded : ℚ) : Prop where
  hasPlaces : HasPlaces places rounded
  nearest : ∀ other, HasPlaces places other → |given - rounded| ≤ |given - other|
  away : ∀ other, HasPlaces places other → |given - other| = |given - rounded| → |other| ≤ |rounded|

theorem hasPlaces_neg {places : Int} {number : ℚ} :
    HasPlaces places (-number) ↔ HasPlaces places number := by
  have negated {number : ℚ} (has : HasPlaces places number) : HasPlaces places (-number) := by
    obtain ⟨count, rfl⟩ := has
    exact ⟨-count, by push_cast; ring⟩
  exact ⟨fun has => neg_neg number ▸ negated has, negated⟩

namespace IsRounding

variable {places : Int} {given rounded : ℚ}

theorem neg (rounds : IsRounding places given rounded) :
    IsRounding places (-given) (-rounded) := by
  have distance (other : ℚ) : |-given - other| = |given - -other| := by
    rw [← abs_neg (-given - other)]
    congr 1
    ring
  refine ⟨hasPlaces_neg.mpr rounds.hasPlaces, fun other has => ?_, fun other has tie => ?_⟩
  · rw [distance, distance, neg_neg]
    exact rounds.nearest _ (hasPlaces_neg.mpr has)
  · rw [distance, distance, neg_neg] at tie
    rw [abs_neg, ← abs_neg other]
    exact rounds.away _ (hasPlaces_neg.mpr has) tie

theorem neg_iff : IsRounding places (-given) (-rounded) ↔ IsRounding places given rounded :=
  ⟨fun rounds => neg_neg given ▸ neg_neg rounded ▸ rounds.neg, neg⟩

/-- A number is rounded in one way only. -/
theorem unique {other : ℚ} (rounds : IsRounding places given rounded)
    (also : IsRounding places given other) : rounded = other := by
  have tie : |given - rounded| = |given - other| :=
    le_antisymm (rounds.nearest other also.hasPlaces) (also.nearest rounded rounds.hasPlaces)
  have size : |rounded| = |other| :=
    le_antisymm (also.away rounded rounds.hasPlaces tie)
      (rounds.away other also.hasPlaces tie.symm)
  rcases abs_eq_abs.mp size with same | opposite
  · exact same
  · -- Two opposite numbers are equally far from zero only, and zero itself is nearer to it.
    have middle : given = 0 ∨ other = 0 := by
      rw [opposite, sub_neg_eq_add] at tie
      rcases abs_eq_abs.mp tie with plus | minus
      · exact Or.inr (by linarith)
      · exact Or.inl (by linarith)
    have vanishes : other = 0 := by
      rcases middle with rfl | vanishes
      · have near := also.nearest 0 ⟨0, by simp⟩
        rw [sub_zero, abs_zero, zero_sub, abs_neg] at near
        exact abs_eq_zero.mp (le_antisymm near (abs_nonneg other))
      · exact vanishes
    rw [opposite, vanishes, neg_zero]

end IsRounding

/-- Multiples that differ are a unit apart. -/
theorem HasPlaces.eq_or_apart {places : Int} {first second : ℚ} (one : HasPlaces places first)
    (other : HasPlaces places second) :
    first = second ∨ second + 10 ^ (-places) ≤ first ∨ first ≤ second - 10 ^ (-places) := by
  obtain ⟨count, rfl⟩ := one
  obtain ⟨reference, rfl⟩ := other
  have unit : (0 : ℚ) ≤ 10 ^ (-places) := (tenPower_pos _).le
  rcases lt_trichotomy count reference with less | same | greater
  · have step : (count : ℚ) ≤ reference - 1 := by exact_mod_cast Int.le_sub_one_of_lt less
    exact Or.inr (Or.inr (by nlinarith))
  · exact Or.inl (by rw [same])
  · have step : (reference : ℚ) + 1 ≤ count := by exact_mod_cast greater
    exact Or.inr (Or.inl (by nlinarith))

/-- A multiple is the nearest one to a number that is not negative just if the number lies less than
half a unit above it, and at most half a unit below. -/
theorem isRounding_iff_of_nonneg {places : Int} {given rounded : ℚ} (positive : 0 ≤ given)
    (least : 0 ≤ rounded) (has : HasPlaces places rounded) :
    IsRounding places given rounded ↔
      2 * rounded ≤ 2 * given + 10 ^ (-places) ∧ 2 * given < 2 * rounded + 10 ^ (-places) := by
  have unit : (0 : ℚ) < 10 ^ (-places) := tenPower_pos _
  constructor
  · intro rounds
    obtain ⟨count, same⟩ := has
    have below := rounds.nearest (rounded - 10 ^ (-places))
      ⟨count - 1, by rw [same]; push_cast; ring⟩
    have greater : HasPlaces places (rounded + 10 ^ (-places)) :=
      ⟨count + 1, by rw [same]; push_cast; ring⟩
    have above := rounds.nearest _ greater
    constructor
    · by_contra! far
      rw [abs_of_neg (by linarith)] at below
      rcases le_abs.mp below with short | short <;> linarith
    · by_contra! far
      have distance : |given - rounded| = given - rounded := abs_of_pos (by linarith)
      rw [distance] at above
      have half : 2 * given = 2 * rounded + 10 ^ (-places) := by
        rcases le_abs.mp above with short | short <;> linarith
      have tie := rounds.away _ greater (by
        rw [distance, abs_of_neg] <;> linarith)
      rw [abs_of_pos (by linarith), abs_of_nonneg least] at tie
      linarith
  · rintro ⟨lower, upper⟩
    have near : |given - rounded| ≤ 10 ^ (-places) / 2 :=
      abs_le.mpr ⟨by linarith, by linarith⟩
    refine ⟨has, fun other multiple => ?_, fun other multiple tie => ?_⟩
    · rcases multiple.eq_or_apart has with rfl | above | below
      · exact le_rfl
      · exact near.trans ((by linarith : _ ≤ -(given - other)).trans (neg_le_abs _))
      · exact near.trans ((by linarith : _ ≤ given - other).trans (le_abs_self _))
    · rw [← tie, abs_le] at near
      rw [abs_of_nonneg least]
      rcases multiple.eq_or_apart has with rfl | above | below
      · exact (abs_of_nonneg least).le
      · linarith
      · exact abs_le.mpr ⟨by linarith, by linarith⟩

/-- Only the sizes matter for numbers that do not lie on two sides of zero. -/
theorem isRounding_abs_iff {places : Int} {given rounded : ℚ} (sides : 0 ≤ given * rounded) :
    IsRounding places |given| |rounded| ↔ IsRounding places given rounded := by
  rcases mul_nonneg_iff.mp sides with ⟨first, second⟩ | ⟨first, second⟩
  · rw [abs_of_nonneg first, abs_of_nonneg second]
  · rw [abs_of_nonpos first, abs_of_nonpos second, IsRounding.neg_iff]

/-- The nearest multiple counts the units, and the fraction from a half on as one more. -/
theorem isRounding_iff_half_up {places : Int} {given rounded : ℚ} {coefficient unit count : ℕ}
    (positive : 0 < unit) (sides : 0 ≤ given * rounded)
    (size : |given| = coefficient / unit * 10 ^ (-places))
    (kept : |rounded| = count * 10 ^ (-places)) :
    IsRounding places given rounded ↔ (2 * coefficient + unit) / (2 * unit) = count := by
  have step : (0 : ℚ) < 10 ^ (-places) := tenPower_pos _
  have whole : (0 : ℚ) < unit := by exact_mod_cast positive
  rw [← isRounding_abs_iff sides, isRounding_iff_of_nonneg (abs_nonneg _) (abs_nonneg _)
    ⟨count, by exact_mod_cast kept⟩, size, kept, Nat.div_eq_iff (by omega)]
  obtain ⟨fraction, share⟩ : ∃ fraction : ℚ, fraction = coefficient / unit := ⟨_, rfl⟩
  have total : (coefficient : ℚ) = fraction * unit := by rw [share, div_mul_cancel₀ _ whole.ne']
  rw [← share]
  refine and_congr ?_ ?_
  · calc 2 * (count * 10 ^ (-places)) ≤ 2 * (fraction * 10 ^ (-places)) + 10 ^ (-places)
        ↔ (2 * count) * 10 ^ (-places) ≤ (2 * fraction + 1) * 10 ^ (-places) := by ring_nf
      _ ↔ (2 * count : ℚ) ≤ 2 * fraction + 1 := mul_le_mul_iff_left₀ step
      _ ↔ (2 * count : ℚ) * unit ≤ (2 * fraction + 1) * unit := (mul_le_mul_iff_left₀ whole).symm
      _ ↔ (count * (2 * unit) : ℚ) ≤ 2 * coefficient + unit := by rw [total]; ring_nf
      _ ↔ count * (2 * unit) ≤ 2 * coefficient + unit := by exact_mod_cast Iff.rfl
  · calc 2 * (fraction * 10 ^ (-places)) < 2 * (count * 10 ^ (-places)) + 10 ^ (-places)
        ↔ (2 * fraction) * 10 ^ (-places) < (2 * count + 1) * 10 ^ (-places) := by ring_nf
      _ ↔ 2 * fraction < (2 * count + 1 : ℚ) := mul_lt_mul_iff_left₀ step
      _ ↔ 2 * fraction * unit < (2 * count + 1 : ℚ) * unit := (mul_lt_mul_iff_left₀ whole).symm
      _ ↔ (2 * coefficient : ℚ) < (2 * count + 1) * unit := by rw [total]; ring_nf
      _ ↔ 2 * coefficient < (2 * count + 1) * unit := by exact_mod_cast Iff.rfl
      _ ↔ 2 * coefficient + unit ≤ count * (2 * unit) + 2 * unit - 1 := by
        rw [Nat.add_mul, Nat.one_mul, Nat.mul_right_comm, Nat.mul_comm (2 * unit) count]
        omega

/-! ### Quotients rounded to even -/

/-- A factor of both sides does not change a rounded quotient. -/
theorem divideToEven_mul_right (dividend divisor : Nat) {factor : Nat} (positive : 0 < factor) :
    divideToEven (dividend * factor) (divisor * factor) = divideToEven dividend divisor := by
  have twice (rest : Nat) : 2 * (rest * factor) = 2 * rest * factor := (Nat.mul_assoc ..).symm
  simp only [divideToEven, Nat.mul_div_mul_right _ _ positive, Nat.mul_mod_mul_right, twice,
    Nat.mul_lt_mul_right positive]

theorem divideToEven_le (dividend divisor : Nat) :
    divideToEven dividend divisor ≤ dividend / divisor + 1 := by
  have parity : dividend / divisor % 2 < 2 := Nat.mod_lt _ (by decide)
  simp only [divideToEven]
  split
  · omega
  · split <;> omega

/-- A tenth is rounded up to a half of `10 ^ 28` from half a unit below it on, since it is even. -/
theorem half_le_tenth_iff (coefficient : Nat) :
    5 * 10 ^ 27 ≤ divideToEven coefficient 10 ↔ 5 * 10 ^ 28 ≤ coefficient + 5 := by
  simp only [divideToEven]
  split
  · omega
  · split
    · omega
    · have even : 5 * 10 ^ 27 % 2 = 0 := by decide
      omega

/-- Digits behind the 28th place are dropped before the others are rounded, or with them. Both come
to the same, unless a single digit is dropped and the others come up to a half by that. -/
theorem halves_agree_iff {coefficient dropped : Nat} (small : coefficient < Decimal.bound)
    (some : 1 ≤ dropped) :
    (2 * coefficient + 10 ^ (28 + dropped)) / (2 * 10 ^ (28 + dropped)) =
        (2 * divideToEven coefficient (10 ^ dropped) + 10 ^ 28) / (2 * 10 ^ 28) ↔
      ¬(dropped = 1 ∧ 5 * 10 ^ 28 ≤ coefficient + 5 ∧ coefficient < 5 * 10 ^ 28) := by
  have bound : coefficient < 79228162514264337593543950336 := small
  have less := divideToEven_le coefficient (10 ^ dropped)
  by_cases single : dropped = 1
  · subst single
    have tenth := half_le_tenth_iff coefficient
    rw [Nat.pow_one] at less ⊢
    have once : (2 * coefficient + 10 ^ (28 + 1)) / (2 * 10 ^ (28 + 1)) =
        if 5 * 10 ^ 28 ≤ coefficient then 1 else 0 := by split <;> omega
    have twice : (2 * divideToEven coefficient 10 + 10 ^ 28) / (2 * 10 ^ 28) =
        if 5 * 10 ^ 27 ≤ divideToEven coefficient 10 then 1 else 0 := by split <;> omega
    rw [once, twice]
    split <;> split <;> omega
  · -- With two digits dropped, what is left is too small for a half.
    have hundred : 10 ^ 2 ≤ 10 ^ dropped := Nat.pow_le_pow_right (by decide) (by omega)
    have quotient : coefficient / 10 ^ dropped ≤ coefficient / 10 ^ 2 :=
      Nat.div_le_div_left hundred (by decide)
    have unit : 10 ^ 28 * 10 ^ 2 ≤ 10 ^ (28 + dropped) := by
      rw [Nat.pow_add]
      exact Nat.mul_le_mul_left _ hundred
    rw [Nat.div_eq_of_lt (by omega), Nat.div_eq_of_lt (by omega)]
    simp [single]

namespace Decimal

/-! ### Rounding behind the point -/

/-- Numbers of one sign, of which one may be zero, do not lie on two sides of zero. -/
theorem mul_value_nonneg {number other : Decimal}
    (sign : other.coefficient ≠ 0 → other.negative = number.negative) :
    0 ≤ number.value * other.value := by
  by_cases vanishes : other.coefficient = 0
  · have none : other.isZero = true := beq_iff_eq.mpr vanishes
    rw [value_of_isZero none, mul_zero]
  · have signs : (0 : ℚ) ≤ number.signed * other.signed := by
      unfold signed
      rw [sign vanishes]
      split
      · push_cast
        rw [neg_mul_neg]
        positivity
      · positivity
    rw [value, value, div_mul_div_comm]
    positivity

/-- The parts of a number of which digits are dropped. -/
theorem parts_of_roundedTo {places : Nat} {number : Decimal} (many : ¬number.scale ≤ places) :
    (number.roundedTo places).scale = places ∧
      (number.roundedTo places).coefficient =
        (2 * number.coefficient + 10 ^ (number.scale - places)) /
          (2 * 10 ^ (number.scale - places)) ∧
      ((number.roundedTo places).coefficient ≠ 0 →
        (number.roundedTo places).negative = number.negative) := by
  rw [roundedTo, dif_neg many]
  refine ⟨rfl, rfl, fun some => ?_⟩
  show (number.negative && (_ || _)) = number.negative
  rw [bne_iff_ne.mpr some, Bool.true_or, Bool.and_true]

/-- A number is rounded right to places behind the point. -/
theorem roundedTo_isRounding (places : Nat) (number : Decimal) :
    IsRounding places number.value (number.roundedTo places).value := by
  by_cases few : number.scale ≤ places
  · rw [roundedTo, dif_pos few]
    have has : HasPlaces places number.value :=
      (value_hasPlaces number).mono (by exact_mod_cast few)
    refine ⟨has, fun other _ => ?_, fun other _ same => ?_⟩
    · rw [sub_self, abs_zero]
      exact abs_nonneg _
    · rw [sub_self, abs_zero, abs_eq_zero, sub_eq_zero] at same
      rw [same]
  · obtain ⟨scale, coefficient, sign⟩ := parts_of_roundedTo few
    have power : (10 : ℚ) ^ number.scale = 10 ^ (number.scale - places) * 10 ^ places := by
      rw [← pow_add]
      congr 1
      omega
    refine (isRounding_iff_half_up (Nat.pow_pos (by decide : 0 < 10)) (mul_value_nonneg sign)
      ?_ ?_).mpr coefficient.symm
    · rw [abs_value, power, zpow_neg, zpow_natCast, div_mul_eq_div_div,
        div_eq_mul_inv _ (10 ^ places)]
      push_cast
      rfl
    · rw [abs_value, scale, zpow_neg, zpow_natCast, div_eq_mul_inv]

/-! ### Quotients -/

/-- A scale that is found from the largest down is at least one at which there is a result. -/
theorem exists_scale {α : Type} {pick : Nat → Option α} {result : α} {least : Nat}
    (within : least ≤ 28) (fits : (pick least).isSome)
    (found : scalesDown.findSome? pick = some result) :
    ∃ scale, least ≤ scale ∧ scale ≤ 28 ∧ pick scale = some result := by
  obtain ⟨larger, scale, smaller, whole, picked, none⟩ := List.findSome?_eq_some_iff.mp found
  have falling : scalesDown.Pairwise (· > ·) := by decide
  have bounded : ∀ other ∈ scalesDown, other ≤ 28 := by decide
  have listed : least ∈ scalesDown := by
    rw [scalesDown, List.mem_reverse, List.mem_range]
    omega
  rw [whole] at falling bounded listed
  refine ⟨scale, ?_, bounded scale (by simp), picked⟩
  rcases List.mem_append.mp listed with before | behind
  · rw [none least before] at fits
    cases fits
  · rcases List.mem_cons.mp behind with rfl | after
    · exact Nat.le_refl least
    · have tail := (List.pairwise_append.mp falling).2.1
      exact (List.rel_of_pairwise_cons tail after).le

theorem make?_isSome (negative : Bool) {coefficient scale : Nat} (small : coefficient < bound)
    (few : scale ≤ 28) : (make? negative coefficient scale).isSome := by
  rw [make?, dif_pos ⟨small, few⟩]
  rfl

theorem divideToEven_lt_bound {coefficient dropped : Nat} (small : coefficient < bound)
    (some : 1 ≤ dropped) : divideToEven coefficient (10 ^ dropped) < bound := by
  have tenth : 10 ^ 1 ≤ 10 ^ dropped := Nat.pow_le_pow_right (by decide) some
  have less := divideToEven_le coefficient (10 ^ dropped)
  have quotient : coefficient / 10 ^ dropped ≤ coefficient / 10 ^ 1 :=
    Nat.div_le_div_left tenth (by decide)
  have value : bound = 79228162514264337593543950336 := rfl
  omega

/-- The quotient by a power of ten is exact if it has room for the places, and else rounded to 28 of
them. -/
theorem parts_of_dividedBy? {number quotient : Decimal} {zeros : Nat}
    (present : number.isZero = false)
    (made : number.dividedBy? (10 ^ zeros) = some quotient) :
    quotient.negative = number.negative ∧
      (number.scale + zeros ≤ 28 ∧ (∃ extra, quotient.scale = number.scale + zeros + extra ∧
          quotient.coefficient = number.coefficient * 10 ^ extra) ∨
        28 < number.scale + zeros ∧ quotient.scale = 28 ∧ quotient.coefficient =
          divideToEven number.coefficient (10 ^ (number.scale + zeros - 28))) := by
  rw [dividedBy?, present, if_neg Bool.false_ne_true] at made
  simp only [Nat.pow_eq, ← Nat.pow_add] at made
  by_cases room : number.scale + zeros ≤ 28
  · have exact (extra : Nat) : divideToEven (number.coefficient *
        10 ^ (number.scale + zeros + extra)) (10 ^ (number.scale + zeros)) =
          number.coefficient * 10 ^ extra := by
      rw [Nat.pow_add, Nat.mul_left_comm, Nat.mul_comm (10 ^ _)]
      exact divideToEven_mul _ (by positivity)
    have fits := make?_isSome number.negative number.coefficient_lt room
    obtain ⟨scale, least, _, picked⟩ := exists_scale room (by
      have same := exact 0
      rw [Nat.add_zero, Nat.pow_zero, Nat.mul_one] at same
      rwa [same]) made
    obtain ⟨sign, coefficient, places⟩ := make?_eq_some picked
    obtain ⟨extra, rfl⟩ := Nat.exists_eq_add_of_le least
    exact ⟨sign, Or.inl ⟨room, extra, places, coefficient.trans (exact extra)⟩⟩
  · have beyond : 28 < number.scale + zeros := Nat.lt_of_not_le room
    have rounded : divideToEven (number.coefficient * 10 ^ 28) (10 ^ (number.scale + zeros)) =
        divideToEven number.coefficient (10 ^ (number.scale + zeros - 28)) := by
      have split : 10 ^ (number.scale + zeros) = 10 ^ (number.scale + zeros - 28) * 10 ^ 28 := by
        rw [← Nat.pow_add]
        congr 1
        omega
      rw [split, divideToEven_mul_right _ _ (by positivity)]
    have small := divideToEven_lt_bound number.coefficient_lt
      (by omega : 1 ≤ number.scale + zeros - 28)
    obtain ⟨scale, least, most, picked⟩ := exists_scale (Nat.le_refl 28) (by
      rw [rounded]
      exact make?_isSome _ small (Nat.le_refl 28)) made
    obtain rfl : scale = 28 := Nat.le_antisymm most least
    obtain ⟨sign, coefficient, places⟩ := make?_eq_some picked
    exact ⟨sign, Or.inr ⟨beyond, places, coefficient.trans rounded⟩⟩

/-! ### Rounding before the point -/

/-- The number lies below half of `10 ^ zeros`, and its quotient by that is rounded up to a half
when it is cut to 28 places. -/
def IsJustBelowHalf (zeros : Nat) (number : Decimal) : Prop :=
  number.scale + zeros = 29 ∧ 5 * 10 ^ 28 ≤ number.coefficient + 5 ∧
    number.coefficient < 5 * 10 ^ 28

/-- The digits that a rounded quotient counts are those of the exact quotient, unless that is just
below a half. -/
theorem half_up_quotient_iff {number quotient : Decimal} {zeros : Nat}
    (present : number.isZero = false)
    (made : number.dividedBy? (10 ^ zeros) = some quotient) :
    (2 * number.coefficient + 10 ^ (number.scale + zeros)) / (2 * 10 ^ (number.scale + zeros)) =
        (2 * quotient.coefficient + 10 ^ quotient.scale) / (2 * 10 ^ quotient.scale) ↔
      ¬number.IsJustBelowHalf zeros := by
  obtain ⟨-, ⟨room, extra, scale, coefficient⟩ | ⟨beyond, scale, coefficient⟩⟩ :=
    parts_of_dividedBy? present made
  · have power : 10 ^ quotient.scale = 10 ^ (number.scale + zeros) * 10 ^ extra := by
      rw [scale, Nat.pow_add]
    have other : ¬number.IsJustBelowHalf zeros := fun below => by
      have length := below.1
      omega
    refine iff_of_true ?_ other
    rw [coefficient, power, ← Nat.mul_assoc, ← Nat.mul_assoc, ← Nat.add_mul,
      Nat.mul_div_mul_right _ _ (by positivity)]
  · have length : number.scale + zeros = 28 + (number.scale + zeros - 28) := by omega
    have agree := halves_agree_iff number.coefficient_lt
      (by omega : 1 ≤ number.scale + zeros - 28)
    rw [← length] at agree
    rw [coefficient, scale, agree, IsJustBelowHalf]
    refine not_congr (and_congr_left fun _ => ?_)
    omega

/-- Zero stays zero. -/
theorem roundedToPower?_of_isZero {number rounded : Decimal} {zeros : Nat}
    (vanishes : number.isZero = true) (made : roundedToPower? zeros number = some rounded) :
    rounded.value = 0 := by
  obtain ⟨quotient, divided, multiplied⟩ := Option.bind_eq_some_iff.mp made
  have none : quotient = zero := by
    rw [dividedBy?, vanishes, if_pos rfl] at divided
    exact (Option.some.inj divided).symm
  have whole : zero.scale ≤ 0 := Nat.le_refl 0
  rw [value_of_times? multiplied, none, roundedTo, dif_pos whole, value_zero, zero_mul]

/-- Rounding before the point is right, unless the number is just below a half. -/
theorem roundedToPower?_isRounding_iff {number rounded : Decimal} {zeros : Nat}
    (positive : 0 < zeros) (made : roundedToPower? zeros number = some rounded) :
    IsRounding (-zeros) number.value rounded.value ↔ ¬number.IsJustBelowHalf zeros := by
  cases vanishes : number.isZero with
  | true =>
    have unit := tenPower_pos (-(-(zeros : Int)))
    rw [roundedToPower?_of_isZero vanishes made, value_of_isZero vanishes]
    refine iff_of_true ?_ fun below => ?_
    · refine (isRounding_iff_of_nonneg le_rfl le_rfl ⟨0, by simp⟩).mpr ⟨?_, ?_⟩ <;> linarith
    · have least := below.2.1
      rw [beq_iff_eq.mp vanishes] at least
      exact absurd least (by decide)
  | false =>
    obtain ⟨quotient, divided, multiplied⟩ := Option.bind_eq_some_iff.mp made
    have product := value_of_times? multiplied
    rw [Nat.pow_eq] at divided product
    have many : ¬quotient.scale ≤ 0 := by
      obtain ⟨-, ⟨_, extra, scale, _⟩ | ⟨_, scale, _⟩⟩ := parts_of_dividedBy? vanishes divided
      · omega
      · omega
    obtain ⟨scale, coefficient, sign⟩ := parts_of_roundedTo many
    have sides : 0 ≤ number.value * (quotient.roundedTo 0).value :=
      mul_value_nonneg fun some => (sign some).trans (parts_of_dividedBy? vanishes divided).1
    have factor : (0 : ℚ) < (10 ^ zeros : Nat) := by positivity
    rw [← half_up_quotient_iff vanishes divided]
    rw [Nat.sub_zero] at coefficient
    rw [← coefficient]
    refine isRounding_iff_half_up (by positivity) ?_ ?_ ?_
    · rw [product, ← mul_assoc]
      exact mul_nonneg sides factor.le
    · rw [abs_value, neg_neg, zpow_natCast, div_mul_eq_mul_div, div_eq_div_iff (by positivity)
        (by positivity), Nat.pow_add]
      push_cast
      ring
    · rw [product, abs_mul, abs_of_pos factor, abs_value, scale, pow_zero, div_one, neg_neg,
        zpow_natCast]
      push_cast
      rfl

end Decimal

end OracleSql
