/-
This file reads JSON documents. Blanks may stand around every token; a string holds no bare control
and no lone half of a surrogate pair; a number has no leading zeros, and digits on both sides of its
point. Nesting is limited to 127 levels, and a number beyond the binary range is refused.

A number that is not a whole one of 64 bits is read in two steps: as many leading digits as a
64-bit word holds make a significand, which is then multiplied or divided by a power of ten, each
step rounded.
-/

import OracleSql.Json.Basic

namespace OracleSql.Json

/-! ### Blanks and strings -/

/-- The characters that may stand between tokens. -/
def isSpace (letter : Char) : Bool :=
  letter = ' ' || letter = '\n' || letter = '\r' || letter = '\t'

/-- The characters from the next token on. -/
def skipSpace (letters : List Char) : List Char :=
  letters.dropWhile isSpace

/-- The code unit that four hexadecimal digits write, if that many stand at the start. -/
def unit? (letters : List Char) : Option Nat :=
  if letters.length < 4 then none else Text.hexNumber? (letters.take 4)

/-- The character that an escape stands for, and how many characters after the backslash write
it. Two code units of a surrogate pair write one character. -/
def escape? (letters : List Char) : Option (Char × Nat) :=
  match letters with
  | '"' :: _ => some ('"', 1)
  | '\\' :: _ => some ('\\', 1)
  | '/' :: _ => some ('/', 1)
  | 'b' :: _ => some ('\x08', 1)
  | 'f' :: _ => some ('\x0c', 1)
  | 'n' :: _ => some ('\n', 1)
  | 'r' :: _ => some ('\r', 1)
  | 't' :: _ => some ('\t', 1)
  | 'u' :: rest => do
    let high ← unit? rest
    if high < 0xD800 ∨ 0xE000 ≤ high then some (Char.ofNat high, 5)
    else if 0xDC00 ≤ high then none
    else if (rest.drop 4).take 2 = ['\\', 'u'] then
      let low ← unit? (rest.drop 6)
      if 0xDC00 ≤ low ∧ low < 0xE000 then
        some (Char.ofNat (0x10000 + (high - 0xD800) * 0x400 + (low - 0xDC00)), 11)
      else none
    else none
  | _ => none

/-- The content of a string up to its closing quote, and what follows the quote. -/
def readString : List Char → Option (List Char × List Char)
  | [] => none
  | '"' :: rest => some ([], rest)
  | '\\' :: rest => do
    let (letter, length) ← escape? rest
    let (content, after) ← readString (rest.drop length)
    some (letter :: content, after)
  | letter :: rest => do
    if letter.toNat < 0x20 then none
    else
      let (content, after) ← readString rest
      some (letter :: content, after)
  termination_by letters => letters.length
  decreasing_by all_goals simp only [List.length_cons, List.length_drop]; omega

/-! ### Numbers -/

/-- Appends decimal digits to a significand while it stays in 64 bits; the digits left over are
counted. -/
def accumulate (significand : Nat) : List Char → Nat × Nat
  | [] => (significand, 0)
  | digit :: rest =>
    let longer := 10 * significand + (digit.toNat - 48)
    if longer < UInt64.size then accumulate longer rest else (significand, rest.length + 1)

/-- Multiplies a magnitude by a power of ten, or divides it, in steps of at most 308 places. There
is no result beyond the finite magnitudes. -/
def scaleByTen : (fuel rank : Nat) → (exponent : Int) → Option Nat
  | 0, rank, _ => some rank
  | fuel + 1, rank, exponent =>
    if exponent.natAbs ≤ 308 then
      let power := rankOfNat (Nat.pow 10 exponent.natAbs)
      if exponent < 0 then some (rankQuotient rank power)
      else
        let product := rankProduct rank power
        if product < BinaryFormat.double.infinity then some product else none
    else if rank = 0 then some rank
    else if 0 ≤ exponent then none
    else scaleByTen fuel (rankQuotient rank (rankOfNat (Nat.pow 10 308))) (exponent + 308)

/-- The binary number for a significand and a power of ten. -/
def float? (negative : Bool) (significand : Nat) (exponent : Int) : Option Json :=
  (scaleByTen 4 (rankOfNat significand) exponent).map fun rank => .float (.ofRank negative rank)

/-- The number without a point and an exponent: whole if it has 64 bits. The negative zero is a
binary number. -/
def whole? (negative : Bool) (digits : List Char) : Option Json :=
  match accumulate 0 digits with
  | (significand, 0) =>
    if !negative then some (.integer significand)
    else if 0 < significand ∧ Int64.minValue.toInt ≤ -(significand : Int) then
      some (.integer (-(significand : Int)))
    else float? negative significand 0
  | (significand, leftOver) => float? negative significand leftOver

/-- The exponent after an `e`: an optional sign and digits. -/
def readExponent (letters : List Char) : Option (Int × List Char) :=
  let negative := letters.head? == some '-'
  let body := if negative || letters.head? == some '+' then letters.tail else letters
  let digits := body.takeWhile Char.isDigit
  if digits.isEmpty then none
  else (Text.decimalNumber? digits).map fun number =>
    (if negative then -(number : Int) else number, body.dropWhile Char.isDigit)

/-- Whether the characters go on with an exponent. -/
def startsExponent (letters : List Char) : Bool :=
  letters.head? == some 'e' || letters.head? == some 'E'

/-- A number at the start of the characters. -/
def readNumber (letters : List Char) : Option (Json × List Char) :=
  let negative := letters.head? == some '-'
  let body := if negative then letters.tail else letters
  let digits := body.takeWhile Char.isDigit
  let afterWhole := body.dropWhile Char.isDigit
  if digits.isEmpty || (digits.head? == some '0' && 1 < digits.length) then none
  else
    let fraction := if afterWhole.head? == some '.'
      then some (afterWhole.tail.takeWhile Char.isDigit) else none
    let afterFraction := if fraction.isSome
      then afterWhole.tail.dropWhile Char.isDigit else afterWhole
    if fraction == some [] then none
    else if fraction.isNone && !startsExponent afterFraction then
      (whole? negative digits).map (·, afterFraction)
    else do
      let (leading, leftOver) := accumulate 0 digits
      let places := fraction.getD []
      let (significand, unread) := accumulate leading places
      let point : Int := (leftOver : Int) - ((places.length : Int) - unread)
      let (exponent, rest) ← if startsExponent afterFraction
        then readExponent afterFraction.tail else some (0, afterFraction)
      let number ← float? negative significand (point + exponent)
      some (number, rest)

/-! ### Documents -/

/-- A document without parts of its own: a word, a string or a number. -/
def readScalar (letters : List Char) : Option (Json × List Char) :=
  match letters with
  | 'n' :: 'u' :: 'l' :: 'l' :: rest => some (.null, rest)
  | 't' :: 'r' :: 'u' :: 'e' :: rest => some (.bool true, rest)
  | 'f' :: 'a' :: 'l' :: 's' :: 'e' :: rest => some (.bool false, rest)
  | '"' :: rest => (readString rest).map fun (content, after) =>
      (.text (String.ofList content), after)
  | _ => readNumber letters

/-- The items of an array after its bracket, read by `inner`, through the closing bracket. -/
def readItems (inner : List Char → Option (Json × List Char)) :
    (fuel : Nat) → List Char → Option (List Json × List Char)
  | 0, _ => none
  | fuel + 1, letters => do
    let (item, rest) ← inner letters
    match skipSpace rest with
    | ',' :: more =>
      let (items, after) ← readItems inner fuel more
      some (item :: items, after)
    | ']' :: after => some ([item], after)
    | _ => none

/-- One member of an object: its name, a colon and its value. -/
def readMember (inner : List Char → Option (Json × List Char)) (letters : List Char) :
    Option ((String × Json) × List Char) :=
  match skipSpace letters with
  | '"' :: rest => do
    let (name, afterName) ← readString rest
    match skipSpace afterName with
    | ':' :: more =>
      let (value, after) ← inner more
      some ((String.ofList name, value), after)
    | _ => none
  | _ => none

/-- The members of an object after its brace, through the closing brace. -/
def readMembers (inner : List Char → Option (Json × List Char)) :
    (fuel : Nat) → List Char → Option (List (String × Json) × List Char)
  | 0, _ => none
  | fuel + 1, letters => do
    let (member, rest) ← readMember inner letters
    match skipSpace rest with
    | ',' :: more =>
      let (members, after) ← readMembers inner fuel more
      some (member :: members, after)
    | '\x7d' :: after => some ([member], after)
    | _ => none

/-- A document at the start of the characters, with at most `depth` levels of nesting. -/
def readValue : (depth : Nat) → List Char → Option (Json × List Char)
  | 0, letters => readScalar (skipSpace letters)
  | depth + 1, letters =>
    match skipSpace letters with
    | '[' :: rest =>
      match skipSpace rest with
      | ']' :: after => some (.array [], after)
      | _ => (readItems (readValue depth) rest.length rest).map fun (items, after) =>
        (.array items, after)
    | '\x7b' :: rest =>
      match skipSpace rest with
      | '\x7d' :: after => some (.object [], after)
      | _ => (readMembers (readValue depth) rest.length rest).map fun (members, after) =>
        (ofMembers members, after)
    | scalar => readScalar scalar

/-- The deepest nesting that is read. -/
def maxDepth : Nat := 127

/-- The document that a whole text writes. -/
def parse? (text : String) : Option Json := do
  let (document, rest) ← readValue maxDepth text.toList
  if (skipSpace rest).isEmpty then some document else none

end OracleSql.Json
