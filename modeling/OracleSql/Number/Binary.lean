/-
This file holds binary floating-point numbers in exact arithmetic. A format is given by the width
of its fraction and of its exponent. The magnitudes of a format, zero first and infinity last, are
numbered in increasing order, and a number is a sign with such a rank, or the one value that is no
number. The rank of a magnitude is also its bit pattern without the sign.

A rank stands for `mantissa · 2 ^ lift / 2 ^ unit`, and the nearest rank to a quotient of naturals
is found by one rounding division, ties to even.
-/

namespace OracleSql

/-! ### Formats -/

/-- The widths that fix a binary format. -/
structure BinaryFormat where
  fractionBits : Nat
  exponentBits : Nat

namespace BinaryFormat

/-- The format of 32 bits. -/
def single : BinaryFormat := ⟨23, 8⟩

/-- The format of 64 bits. -/
def double : BinaryFormat := ⟨52, 11⟩

/-- The bit above the fraction, which is also the number of magnitudes from one power of two up to
the next. -/
def leadingBit (format : BinaryFormat) : Nat :=
  1 <<< format.fractionBits

/-- The rank of infinity, which is the number of finite magnitudes. -/
def infinity (format : BinaryFormat) : Nat :=
  (1 <<< format.exponentBits - 1) * format.leadingBit

/-- The bit of the sign, above all others. -/
def signBit (format : BinaryFormat) : Nat :=
  1 <<< (format.fractionBits + format.exponentBits)

/-- The least positive magnitude is `2 ^ (-unit)`. -/
def unit (format : BinaryFormat) : Nat :=
  1 <<< (format.exponentBits - 1) - 2 + format.fractionBits

/-- The whole-number part of a finite magnitude: below the leading bit for the least ones. -/
def mantissa (format : BinaryFormat) (rank : Nat) : Nat :=
  if rank < format.leadingBit then rank else rank % format.leadingBit + format.leadingBit

/-- How many powers of two above the least unit the mantissa counts. -/
def lift (format : BinaryFormat) (rank : Nat) : Nat :=
  rank / format.leadingBit - 1

/-- The numerator of a finite magnitude over the denominator `2 ^ unit`. -/
def numerator (format : BinaryFormat) (rank : Nat) : Nat :=
  format.mantissa rank <<< format.lift rank

end BinaryFormat

/-! ### Rounding to a format -/

/-- The quotient rounded to the nearest whole number, a tie going to the even one. -/
def divideToEven (dividend divisor : Nat) : Nat :=
  let quotient := dividend / divisor
  let twice := 2 * (dividend % divisor)
  if twice < divisor then quotient
  else if divisor < twice then quotient + 1
  else quotient + quotient % 2

/-- The rank of the magnitude nearest to the quotient, a tie going to the even rank. Quotients
beyond the finite magnitudes go to infinity. -/
def BinaryFormat.nearest (format : BinaryFormat) (dividend divisor : Nat) : Nat :=
  let scaled := dividend <<< format.unit
  let lift := Nat.log2 (scaled / divisor) - format.fractionBits
  let rank := lift * format.leadingBit + divideToEven scaled (divisor <<< lift)
  min rank format.infinity

/-! ### Numbers -/

/-- A number of a binary format: a sign and the rank of a magnitude, or no number at all. -/
inductive Binary (format : BinaryFormat) where
  | nan
  | ranked (negative : Bool) (rank : Fin (format.infinity + 1))
  deriving DecidableEq

/-- The 32-bit numbers. -/
abbrev Binary32 := Binary .single

/-- The 64-bit numbers. -/
abbrev Binary64 := Binary .double

namespace Binary

variable {format : BinaryFormat}

/-- The number with this sign and rank, a rank past infinity being no number. -/
def ofRank (negative : Bool) (rank : Nat) : Binary format :=
  if bound : rank < format.infinity + 1 then ranked negative ⟨rank, bound⟩ else nan

/-- The number with this bit pattern. -/
def ofBits (bits : Nat) : Binary format :=
  ofRank (bits / format.signBit % 2 == 1) (bits % format.signBit)

/-- The bit pattern of a number; that of no number has the highest fraction bit set. -/
def toBits : Binary format → Nat
  | nan => format.infinity + format.leadingBit / 2
  | ranked negative rank => (if negative then format.signBit else 0) + rank

/-- The nearest number to a signed quotient. -/
def ofQuotient (negative : Bool) (dividend divisor : Nat) : Binary format :=
  ofRank negative (format.nearest dividend divisor)

/-- The nearest number to a whole number. -/
def ofInt (number : Int) : Binary format :=
  ofQuotient (number < 0) number.natAbs 1

/-- Whether the number is neither infinite nor no number. -/
def isFinite : Binary format → Bool
  | nan => false
  | ranked _ rank => rank < format.infinity

/-- The rank of the magnitude, that of infinity for no number. -/
def magnitude : Binary format → Nat
  | nan => format.infinity
  | ranked _ rank => rank

/-- The number in another format: the nearest one there, infinities and no number kept. -/
def convert (target : BinaryFormat) : Binary format → Binary target
  | nan => nan
  | ranked negative rank =>
    if rank < format.infinity then
      ofQuotient negative (format.numerator rank) (1 <<< format.unit)
    else ofRank negative target.infinity

/-- The numerator of the magnitude over `2 ^ unit`. -/
def numerator (number : Binary format) : Nat :=
  format.numerator number.magnitude

end Binary

/-! ### Arithmetic on finite magnitudes

A finite magnitude is written as a fraction of naturals, and the result of an operation is the
nearest magnitude to the exact one. -/

/-- A nonnegative fraction. -/
structure Fraction where
  dividend : Nat
  divisor : Nat

/-- The exact value of a finite magnitude of 64 bits. -/
def Fraction.ofRank (rank : Nat) : Fraction :=
  ⟨BinaryFormat.double.numerator rank, 1 <<< BinaryFormat.double.unit⟩

/-- The rank of the 64-bit magnitude nearest to the fraction. -/
def Fraction.toRank (fraction : Fraction) : Nat :=
  BinaryFormat.double.nearest fraction.dividend fraction.divisor

/-- The nearest 64-bit magnitude to a natural. -/
def rankOfNat (number : Nat) : Nat :=
  BinaryFormat.double.nearest number 1

/-- The sum of two finite magnitudes, rounded. -/
def rankSum (left right : Nat) : Nat :=
  let first := Fraction.ofRank left
  let second := Fraction.ofRank right
  Fraction.toRank ⟨first.dividend + second.dividend, first.divisor⟩

/-- The product of two finite magnitudes, rounded. -/
def rankProduct (left right : Nat) : Nat :=
  let first := Fraction.ofRank left
  let second := Fraction.ofRank right
  Fraction.toRank ⟨first.dividend * second.dividend, first.divisor * second.divisor⟩

/-- The quotient of two finite magnitudes, rounded; the second is not zero. -/
def rankQuotient (left right : Nat) : Nat :=
  let first := Fraction.ofRank left
  let second := Fraction.ofRank right
  Fraction.toRank ⟨first.dividend, second.dividend⟩

/-- A finite magnitude rounded to a whole one, halves up. -/
def rankRounded (rank : Nat) : Nat :=
  let exact := Fraction.ofRank rank
  rankOfNat ((2 * exact.dividend + exact.divisor) / (2 * exact.divisor))

/-- The power of a finite magnitude by repeated squaring, every product rounded. -/
def rankPower (base : Nat) : Nat → Nat
  | 0 => rankOfNat 1
  | exponent + 1 => powerFrom (exponent + 1) base (rankOfNat 1) (exponent + 1)
where
  /-- The result so far times the square to the remaining exponent; the fuel is the exponent. -/
  powerFrom : (fuel square result exponent : Nat) → Nat
    | 0, _, result, _ => result
    | fuel + 1, square, result, exponent =>
      let result := if exponent % 2 = 1 then rankProduct result square else result
      if exponent / 2 = 0 then result
      else powerFrom fuel (rankProduct square square) result (exponent / 2)

end OracleSql
