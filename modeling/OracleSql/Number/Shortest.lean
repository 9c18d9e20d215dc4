/-
This file finds the fewest decimal digits that read back as a given binary magnitude. On the grid
of decimals with `count` digits a magnitude has two neighbours, the one below and the one above;
the first grid on which a neighbour reads back wins, and of two such neighbours the nearer one. If
they are equally near, a rule says which one is taken. Seventeen digits always suffice for 64 bits.

A digit string is laid out with its point by `positional`, which writes every digit and never an
exponent, and by `scientific`, which turns to an exponent for very large and very small numbers.
-/

import OracleSql.Number.Binary

namespace OracleSql

/-! ### The shortest digits -/

/-- Which of two neighbours is taken that are equally near. -/
inductive TieRule where
  | upper
  /-- The one whose last digit is even. -/
  | even
  deriving DecidableEq

/-- Decimal digits before which the point stands, moved right by `point` places:
`0.d₁d₂d₃… · 10 ^ point`. -/
structure DecimalDigits where
  digits : List Char
  point : Int

/-- The fraction `number · 10 ^ exponent`. -/
def Fraction.scaled (number : Nat) (exponent : Int) : Fraction :=
  if 0 ≤ exponent then ⟨number * Nat.pow 10 exponent.toNat, 1⟩
  else ⟨number, Nat.pow 10 exponent.natAbs⟩

/-- The place of the point: the fraction lies from `10 ^ (point - 1)` up to `10 ^ point`. -/
def Fraction.point (fraction : Fraction) : Int :=
  if fraction.divisor ≤ fraction.dividend then
    (Nat.toDigits 10 (fraction.dividend / fraction.divisor)).length
  else
    let places := (Nat.toDigits 10 (fraction.divisor / fraction.dividend)).length
    if fraction.divisor ≤ fraction.dividend * Nat.pow 10 (places - 1) then 2 - places
    else 1 - places

/-- The neighbours of the fraction among the multiples of `10 ^ exponent`, the preferred one first,
counted in that unit. -/
def Fraction.neighbours (ties : TieRule) (fraction : Fraction) (exponent : Int) : List Nat :=
  let unit := Fraction.scaled 1 exponent
  let dividend := fraction.dividend * unit.divisor
  let divisor := fraction.divisor * unit.dividend
  let below := dividend / divisor
  let rest := 2 * (dividend % divisor)
  let isEvenTie := rest == divisor && ties == .even && below % 2 == 0
  if rest < divisor || isEvenTie then [below, below + 1] else [below + 1, below]

/-- The digits without the zeros at their end. -/
def stripZeros (digits : List Char) : List Char :=
  (digits.reverse.dropWhile (· == '0')).reverse

/-- The first of the digit counts from `count` on that has a multiple reading back as `rank`. -/
def shortestFrom (ties : TieRule) (format : BinaryFormat) (rank : Nat) (exact : Fraction)
    (point : Int) : (fuel count : Nat) → DecimalDigits
  | 0, _ => ⟨[], 0⟩
  | fuel + 1, count =>
    let exponent := point - count
    let readsBack := fun number =>
      let candidate := Fraction.scaled number exponent
      format.nearest candidate.dividend candidate.divisor == rank
    match (exact.neighbours ties exponent).find? readsBack with
    | some number =>
      let digits := Nat.toDigits 10 number
      ⟨stripZeros digits, exponent + digits.length⟩
    | none => shortestFrom ties format rank exact point fuel (count + 1)

/-- The fewest digits that read back as a positive finite magnitude. -/
def shortestDigits (ties : TieRule) (format : BinaryFormat) (rank : Nat) : DecimalDigits :=
  let exact : Fraction := ⟨format.numerator rank, 1 <<< format.unit⟩
  shortestFrom ties format rank exact exact.point 17 1

/-! ### Layouts -/

/-- All digits around the point, without an exponent: `0.00012`, `12.5`, `1200`. -/
def DecimalDigits.positional (number : DecimalDigits) : String :=
  let zeros := fun count => List.replicate count '0'
  if number.point ≤ 0 then
    String.ofList ('0' :: '.' :: zeros number.point.natAbs ++ number.digits)
  else
    let places := number.point.toNat
    let whole := number.digits.take places ++ zeros (places - number.digits.length)
    match number.digits.drop places with
    | [] => String.ofList whole
    | fraction => String.ofList (whole ++ '.' :: fraction)

/-- Digits around the point for a number from `10 ^ (-5)` up to `10 ^ 16`, a whole one with `.0`;
else one digit before the point and a signed exponent. -/
def DecimalDigits.scientific (number : DecimalDigits) : String :=
  if -5 < number.point ∧ number.point ≤ 16 then
    if (number.digits.length : Int) ≤ number.point then number.positional ++ ".0"
    else number.positional
  else
    let exponent := number.point - 1
    let sign := if exponent < 0 then "-" else "+"
    let mantissa := match number.digits with
      | [] => ""
      | [digit] => String.ofList [digit]
      | digit :: fraction => String.ofList (digit :: '.' :: fraction)
    mantissa ++ "e" ++ sign ++ toString exponent.natAbs

namespace Binary

/-- The sign as it is written before the digits. -/
def signText (negative : Bool) : String := if negative then "-" else ""

/-- The number with all its digits: `0.1`, `100`, `-0`, `NaN`, `inf`. Of two neighbours that are
equally near the upper one is written. -/
def toText : Binary64 → String
  | nan => "NaN"
  | ranked negative rank =>
    signText negative ++
      (if rank.val = 0 then "0"
       else if rank.val < BinaryFormat.double.infinity then
         (shortestDigits .upper .double rank).positional
       else "inf")

end Binary

end OracleSql
