/-
This file reads the words of a document that are not in quotes: flags, numbers, dates and times.
Digits may have single underscores between them. A number that is too large for every type of
numbers is told apart, and a date or a time must be one of the calendar and of the clock.
-/

import OracleSql.Number.Shortest
import OracleSql.Text.Layout
import OracleSql.Toml.Basic

namespace OracleSql.Toml

/-! ### Digits -/

/-- Digits of a system with single underscores between them. -/
def digitsIn? (base : Nat) (letters : List Char) : Option Nat :=
  let groups := letters.splitOn '_'
  if groups.any List.isEmpty then none
  else groups.flatten.foldlM (fun number digit =>
    ((Text.hexValue? digit).filter (· < base)).map (base * number + ·)) 0

/-- Whether decimal digits have a zero in front that says nothing. -/
def hasLeadingZero (letters : List Char) : Bool :=
  letters.head? == some '0' && 1 < letters.length

/-- The sign of a number, and its digits. -/
def splitSign : List Char → Option Bool × List Char
  | '+' :: rest => (some false, rest)
  | '-' :: rest => (some true, rest)
  | letters => (none, letters)

/-! ### Whole numbers -/

/-- The whole number that a word writes. -/
def integer? (word : List Char) : Option Int :=
  let (sign, digits) := splitSign word
  match digits, sign with
  | '0' :: 'x' :: rest, none => (digitsIn? 16 rest).map Int.ofNat
  | '0' :: 'o' :: rest, none => (digitsIn? 8 rest).map Int.ofNat
  | '0' :: 'b' :: rest, none => (digitsIn? 2 rest).map Int.ofNat
  | _, _ =>
    if hasLeadingZero digits then none
    else (digitsIn? 10 digits).map fun number =>
      if sign = some true then -(number : Int) else number

/-- A whole number as a value: one that has no 128 bits, with a sign or without, is in excess. -/
def ofInteger (number : Int) : Toml :=
  let bound := (1 : Nat) <<< 127
  if -(bound : Int) ≤ number ∧ number < 2 * bound then .integer number else .excess

/-! ### Decimal fractions -/

/-- The number without its sign that a word with a point or an exponent writes: whole digits times
a power of ten. -/
def decimal? (word : List Char) : Option (Nat × Int) :=
  let isMark := fun (letter : Char) => letter = 'e' || letter = 'E'
  let body := (splitSign word).2
  let mantissa := body.takeWhile fun letter => !isMark letter
  let exponent := body.dropWhile fun letter => !isMark letter
  let whole := mantissa.takeWhile (· != '.')
  let fraction := mantissa.dropWhile (· != '.')
  if hasLeadingZero whole || (fraction.isEmpty && exponent.isEmpty) then none
  else do
    let wholeNumber ← digitsIn? 10 whole
    let fractionNumber ← if fraction.isEmpty then some 0 else digitsIn? 10 (fraction.drop 1)
    let (sign, digits) := splitSign (exponent.drop 1)
    let power ← if exponent.isEmpty then some 0 else digitsIn? 10 digits
    let places := fraction.countP Char.isDigit
    some (wholeNumber * Nat.pow 10 places + fractionNumber,
      (if sign = some true then -(power : Int) else power) - places)

/-- Whether `number · 10 ^ exponent` is nearer to infinity than to the finite magnitudes of 64 bits,
which lie below `10 ^ 309`. -/
def isInfinite (number : Nat) (exponent : Int) : Bool :=
  let point := (Nat.toDigits 10 number).length + exponent
  number != 0 && 308 < point &&
    (310 < point ||
      (Fraction.scaled number exponent).toRank == BinaryFormat.double.infinity)

/-- The value of a word that writes a number which is not whole by its form. -/
def float? (word : List Char) : Option Toml :=
  if [['i', 'n', 'f'], ['n', 'a', 'n']].contains (splitSign word).2 then some .float
  else (decimal? word).map fun (number, exponent) =>
    if isInfinite number exponent then .excess else .float

/-! ### Dates and times -/

/-- Whether characters have the form of a pattern, in which a `0` stands for any digit. -/
def hasForm (pattern : String) (letters : List Char) : Bool :=
  letters.length == pattern.toList.length &&
    (letters.zip pattern.toList).all fun (letter, wanted) =>
      if wanted = '0' then letter.isDigit else letter == wanted

/-- The number that the digits from one place up to another write. -/
def numberAt (first past : Nat) (letters : List Char) : Nat :=
  (Text.decimalNumber? ((letters.take past).drop first)).getD 0

/-- The count of days of a month. -/
def monthLength (year month : Nat) : Nat :=
  let isLeap := year % 4 = 0 && (year % 100 != 0 || year % 400 = 0)
  if month = 2 then if isLeap then 29 else 28
  else if [4, 6, 9, 11].contains month then 30
  else 31

/-- Whether characters write a day of the calendar. -/
def isDate (letters : List Char) : Bool :=
  let month := numberAt 5 7 letters
  let day := numberAt 8 10 letters
  hasForm "0000-00-00" letters && 1 ≤ month && month ≤ 12 && 1 ≤ day &&
    day ≤ monthLength (numberAt 0 4 letters) month

/-- Whether characters write hours and minutes of a day. -/
def isHourMinute (letters : List Char) : Bool :=
  hasForm "00:00" letters && numberAt 0 2 letters ≤ 23 && numberAt 3 5 letters ≤ 59

/-- Whether characters write a time of day, with seconds and a fraction of them left out or not. A
minute may end with a leap second. -/
def isClock (letters : List Char) : Bool :=
  let seconds := letters.drop 5
  let fraction := letters.drop 8
  isHourMinute (letters.take 5) &&
    (seconds.isEmpty ||
      (hasForm ":00" (seconds.take 3) && numberAt 1 3 seconds ≤ 60 &&
        (fraction.isEmpty || (fraction.head? == some '.' && 1 < fraction.length &&
          (fraction.drop 1).all Char.isDigit))))

/-- Whether characters write the offset of a zone. -/
def isOffset : List Char → Bool
  | ['Z'] => true
  | ['z'] => true
  | '+' :: rest => isHourMinute rest
  | '-' :: rest => isHourMinute rest
  | _ => false

/-- Whether characters write a time of day with the offset of a zone, or without one. -/
def isZonedClock (letters : List Char) : Bool :=
  let startsOffset := fun (letter : Char) => ['Z', 'z', '+', '-'].contains letter
  let clock := letters.takeWhile fun letter => !startsOffset letter
  let offset := letters.drop clock.length
  isClock clock && (offset.isEmpty || isOffset offset)

/-- Whether a word writes a date, a time of day, or both. -/
def isTime (word : List Char) : Bool :=
  let rest := word.drop 10
  isClock word ||
    (isDate (word.take 10) &&
      (rest.isEmpty ||
        ((rest.head?.any fun letter => ['T', 't', ' '].contains letter) &&
          isZonedClock (rest.drop 1))))

/-! ### Words -/

/-- The characters of a word. -/
def isWordChar (letter : Char) : Bool :=
  letter.isAlphanum || ['_', '+', '-', '.', ':'].contains letter

/-- A word at the start; a date and a time of day with a blank between them are one. -/
def readWord (letters : List Char) : List Char × List Char :=
  let word := letters.takeWhile isWordChar
  let rest := letters.drop word.length
  let clockFollows := rest.head? == some ' ' && (rest.drop 1).head?.any Char.isDigit
  if hasForm "0000-00-00" word && clockFollows then
    let clock := (rest.drop 1).takeWhile isWordChar
    (word ++ ' ' :: clock, rest.drop (clock.length + 1))
  else (word, rest)

/-- The value of a word. -/
def ofWord? (word : List Char) : Option Toml :=
  if word = "true".toList then some (.flag true)
  else if word = "false".toList then some (.flag false)
  else match integer? word with
    | some number => some (ofInteger number)
    | none =>
      match float? word with
      | some value => some value
      | none => if isTime word then some .time else none

end OracleSql.Toml
