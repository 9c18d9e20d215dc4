/-
This file holds exact decimal numbers: a sign, a coefficient below `2 ^ 96` and a scale of at most
28 places. Numbers with different scales may have the same value and still differ in text: `1.50`
keeps its last zero. Rounding goes to the nearest number of the wanted scale and takes a half away
from zero; a quotient that does not fit is rounded to the even neighbour at the largest scale that
leaves room for it.
-/

import OracleSql.Number.Binary
import OracleSql.Text.Layout

namespace OracleSql

/-- The bound of the coefficients, which have 96 bits. -/
def Decimal.bound : Nat := 1 <<< 96

/-- A decimal number: `± coefficient / 10 ^ scale`. -/
structure Decimal where
  negative : Bool
  coefficient : Nat
  scale : Nat
  coefficient_lt : coefficient < Decimal.bound
  scale_le : scale ≤ 28
  deriving DecidableEq

namespace Decimal

/-! ### Building -/

/-- The number with these parts, if the coefficient and the scale are in range. -/
def make? (negative : Bool) (coefficient scale : Nat) : Option Decimal :=
  if bounds : coefficient < bound ∧ scale ≤ 28 then
    some ⟨negative, coefficient, scale, bounds.1, bounds.2⟩
  else none

/-- The number zero, with no sign and no places. -/
def zero : Decimal := ⟨false, 0, 0, by decide, by decide⟩

/-- The whole number, if its magnitude is below `2 ^ 96`. -/
def ofInt? (number : Int) : Option Decimal :=
  make? (number < 0) number.natAbs 0

/-- The whole number of 64 bits. -/
def ofInt64 (number : Int64) : Decimal where
  negative := number.toInt < 0
  coefficient := number.toInt.natAbs
  scale := 0
  coefficient_lt := by
    have lower := Int64.le_toInt number
    have upper := Int64.toInt_lt number
    simp only [bound]
    omega
  scale_le := by decide

/-! ### Reading off -/

/-- Whether the value is zero, of either sign. -/
def isZero (number : Decimal) : Bool :=
  number.coefficient == 0

/-- Whether the value is one. -/
def isOne (number : Decimal) : Bool :=
  !number.negative && number.coefficient == Nat.pow 10 number.scale

/-- Whether the value is a whole number. -/
def isWhole (number : Decimal) : Bool :=
  number.coefficient % Nat.pow 10 number.scale == 0

/-- The whole part of the magnitude. -/
def wholePart (number : Decimal) : Nat :=
  number.coefficient / Nat.pow 10 number.scale

/-- The whole part with its sign. -/
def toInt (number : Decimal) : Int :=
  if number.negative then -(number.wholePart : Int) else number.wholePart

/-- The count of digits before the point, none for a magnitude below one. -/
def wholeDigits (number : Decimal) : Nat :=
  if number.wholePart = 0 then 0 else (Nat.toDigits 10 number.wholePart).length

/-- The number with exactly `scale` digits after the point. -/
def toText (number : Decimal) : String :=
  let sign := if number.negative then "-" else ""
  let whole := toString number.wholePart
  if number.scale = 0 then sign ++ whole
  else sign ++ whole ++ "." ++
    Text.padded number.scale (number.coefficient % Nat.pow 10 number.scale)

/-- Reads digits with at most one point among them and a sign before them; the digits after the
point are the scale. A zero is read without its sign. -/
def ofText? (text : String) : Option Decimal :=
  let letters := text.toList
  let negative := letters.head? == some '-'
  let body := if negative then letters.tail else letters
  let whole := body.takeWhile (· != '.')
  let fraction := (body.dropWhile (· != '.')).tail
  if whole.isEmpty && fraction.isEmpty then none
  else (Text.decimalNumber? (whole ++ fraction)).bind fun coefficient =>
    make? (negative && coefficient != 0) coefficient fraction.length

/-! ### Rounding and scaling -/

theorem half_up_le (coefficient unit : Nat) (positive : 0 < unit) :
    (2 * coefficient + unit) / (2 * unit) ≤ coefficient := by
  have grows : coefficient ≤ unit * coefficient := Nat.le_mul_of_pos_left coefficient positive
  have below : 2 * coefficient + unit < 2 * unit * (coefficient + 1) := by
    rw [Nat.mul_add, Nat.mul_assoc]
    omega
  exact Nat.lt_succ_iff.mp (Nat.div_lt_of_lt_mul below)

/-- The number rounded to at most `places` digits after the point, a half away from zero. A number
that has no more places is kept as it is, and one that becomes zero loses its sign. -/
def roundedTo (places : Nat) (number : Decimal) : Decimal :=
  if few : number.scale ≤ places then number
  else
    let unit := Nat.pow 10 (number.scale - places)
    let coefficient := (2 * number.coefficient + unit) / (2 * unit)
    { negative := number.negative && (coefficient != 0 || number.coefficient == 0)
      coefficient := coefficient
      scale := places
      coefficient_lt :=
        Nat.lt_of_le_of_lt (half_up_le _ _ (Nat.pow_pos (by decide))) number.coefficient_lt
      scale_le := Nat.le_trans (Nat.le_of_lt (Nat.lt_of_not_le few)) number.scale_le }

/-- The scales from the largest down. -/
def scalesDown : List Nat := (List.range 29).reverse

/-- The quotient by a positive natural, at the largest scale at which it fits, the last digit
rounded to even. Zero divided is the plain zero. -/
def dividedBy? (number : Decimal) (divisor : Nat) : Option Decimal :=
  if number.isZero then some zero
  else scalesDown.findSome? fun scale =>
    make? number.negative
      (divideToEven (number.coefficient * Nat.pow 10 scale) (Nat.pow 10 number.scale * divisor))
      scale

/-- The product with a natural, if it fits at the same scale. Zero multiplied is the plain zero. -/
def times? (number : Decimal) (factor : Nat) : Option Decimal :=
  if number.isZero then some zero
  else make? number.negative (number.coefficient * factor) number.scale

/-- The number rounded to a multiple of `10 ^ zeros`: divided, rounded to a whole number and
multiplied again. -/
def roundedToPower? (zeros : Nat) (number : Decimal) : Option Decimal := do
  let quotient ← number.dividedBy? (Nat.pow 10 zeros)
  (quotient.roundedTo 0).times? (Nat.pow 10 zeros)

/-! ### From and to binary numbers -/

/-- A coefficient on the way to a decimal, times a power of ten. -/
structure Scaled where
  coefficient : Nat
  exponent : Int

/-- Divides by two once for every step: an even coefficient is halved, an odd one multiplied by
five over ten, and one for which that leaves no room loses its last bit. -/
def Scaled.halved : (steps : Nat) → Scaled → Scaled
  | 0, scaled => scaled
  | steps + 1, ⟨coefficient, exponent⟩ =>
    if coefficient % 2 = 0 then halved steps ⟨coefficient / 2, exponent + 1⟩
    else if 5 * coefficient < bound then halved steps ⟨5 * coefficient, exponent⟩
    else halved steps ⟨coefficient / 2, exponent + 1⟩

/-- Divides by five once for every step: the coefficient is doubled over ten while there is room,
and else divided, which fails while too many steps remain. -/
def Scaled.fifthed? : (steps : Nat) → Scaled → Option Scaled
  | 0, scaled => some scaled
  | steps + 1, ⟨coefficient, exponent⟩ =>
    if 2 * coefficient < bound then fifthed? steps ⟨2 * coefficient, exponent - 1⟩
    else if (steps : Int) + 1 < 2 * exponent then none
    else fifthed? steps ⟨coefficient / 5, exponent⟩

/-- A tenth of the coefficient, its last digit rounded up from five on. -/
def tenthRounded (coefficient : Nat) : Nat :=
  coefficient / 10 + (if 5 ≤ coefficient % 10 then 1 else 0)

/-- Drops digits until the exponent is at least -28; a coefficient that vanishes is zero. -/
def Scaled.shallow : (steps : Nat) → Scaled → Scaled
  | 0, scaled => scaled
  | steps + 1, ⟨coefficient, exponent⟩ =>
    if -28 ≤ exponent then ⟨coefficient, exponent⟩
    else if coefficient / 10 = 0 then ⟨0, 0⟩
    else shallow steps ⟨tenthRounded coefficient, exponent + 1⟩

/-- Drops digits after the point while the coefficient has more than 52 bits. -/
def Scaled.brief : (steps : Nat) → Scaled → Scaled
  | 0, scaled => scaled
  | steps + 1, ⟨coefficient, exponent⟩ =>
    if exponent < 0 ∧ 1 <<< 52 ≤ coefficient then
      brief steps ⟨tenthRounded coefficient, exponent + 1⟩
    else ⟨coefficient, exponent⟩

/-- Drops zeros after the point. -/
def Scaled.stripped : (steps : Nat) → Scaled → Scaled
  | 0, scaled => scaled
  | steps + 1, ⟨coefficient, exponent⟩ =>
    if exponent < 0 ∧ coefficient % 10 = 0 then stripped steps ⟨coefficient / 10, exponent + 1⟩
    else ⟨coefficient, exponent⟩

/-- The decimal nearest to a binary number in the digits that the binary number is good for. There
is none for what is not finite or too large. -/
def ofBinary? : Binary64 → Option Decimal
  | .nan => none
  | .ranked negative rank => do
    let format := BinaryFormat.double
    if format.infinity ≤ rank then none
    else if rank.val = 0 then make? negative 0 0
    else
      let exponent : Int := (format.lift rank : Int) - format.unit
      let start : Scaled := ⟨format.mantissa rank, exponent⟩
      let tens ← if exponent < 0 then some (start.halved exponent.natAbs)
        else start.fifthed? exponent.natAbs
      let whole : Scaled := if 0 < tens.exponent
        then ⟨tens.coefficient * Nat.pow 10 tens.exponent.toNat, 0⟩ else tens
      if bound ≤ whole.coefficient then none
      else
        let brief := ((whole.shallow whole.exponent.natAbs).brief 28).stripped 28
        make? (negative && brief.coefficient != 0) brief.coefficient brief.exponent.natAbs

/-- The binary number for a decimal: the nearest one to a whole number; else the whole part plus
the fraction, each rounded, then rounded again to as many places as the decimal has. Only a
decimal with places passes on the sign of a zero. -/
def toBinary (number : Decimal) : Binary64 :=
  let unit := Nat.pow 10 number.scale
  let fraction := number.coefficient % unit
  let whole := rankOfNat number.wholePart
  let rank :=
    if number.scale = 0 then rankOfNat number.coefficient
    else if fraction = 0 then whole
    else
      let exact := rankSum whole (rankQuotient (rankOfNat fraction) (rankOfNat unit))
      let power := rankPower (rankOfNat 10) number.scale
      rankQuotient (rankRounded (rankProduct exact power)) power
  .ofRank (number.negative && (number.scale != 0 || !number.isZero)) rank

end Decimal

end OracleSql
