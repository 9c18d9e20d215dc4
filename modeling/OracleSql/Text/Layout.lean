/-
This file holds small layouts of text: a number padded to a width, bytes in hexadecimal, and
texts joined by a separator.
-/

namespace OracleSql.Text

/-- The digits of a number, with zeros in front up to the given width. -/
def padded (width number : Nat) : String :=
  let digits := Nat.toDigits 10 number
  String.ofList (List.replicate (width - digits.length) '0' ++ digits)

/-- A signed number of at least the given width, zeros in front and the sign counted. -/
def paddedInt (width : Nat) (number : Int) : String :=
  if number < 0 then "-" ++ padded (width - 1) number.natAbs else padded width number.natAbs

/-- Exactly `count` hexadecimal digits of a number in lower case, the high ones first. -/
def hexDigits : (count number : Nat) → List Char
  | 0, _ => []
  | count + 1, number => Nat.digitChar (number >>> (4 * count) % 16) :: hexDigits count number

/-- The value of a hexadecimal digit of either case. -/
def hexValue? (digit : Char) : Option Nat :=
  if '0' ≤ digit ∧ digit ≤ '9' then some (digit.toNat - '0'.toNat)
  else if 'a' ≤ digit ∧ digit ≤ 'f' then some (digit.toNat - 'a'.toNat + 10)
  else if 'A' ≤ digit ∧ digit ≤ 'F' then some (digit.toNat - 'A'.toNat + 10)
  else none

/-- The number that hexadecimal digits write, if all of them are such digits. -/
def hexNumber? (digits : List Char) : Option Nat :=
  digits.foldlM (fun number digit => (hexValue? digit).map (16 * number + ·)) 0

/-- Bytes in lower-case hexadecimal, two digits each. -/
def hexOfBytes (bytes : List UInt8) : List Char :=
  bytes.flatMap fun byte => hexDigits 2 byte.toNat

/-- The bytes that pairs of hexadecimal digits write, if all of the text is such pairs. -/
def bytesOfHex? : List Char → Option (List UInt8)
  | [] => some []
  | [_] => none
  | high :: low :: rest => do
    let number ← hexNumber? [high, low]
    let others ← bytesOfHex? rest
    some (UInt8.ofNat number :: others)

/-- The number that decimal digits write, if all of them are digits. -/
def decimalNumber? (digits : List Char) : Option Nat :=
  digits.foldlM
    (fun number digit => if digit.isDigit then some (10 * number + (digit.toNat - 48)) else none) 0

/-- Texts in a row with a separator between neighbours. -/
def join (separator : String) (texts : List String) : String :=
  String.intercalate separator texts

end OracleSql.Text
