/-
This file holds percent-encoding: a byte is written as a percent sign and two hexadecimal digits.
Encoding writes a chosen set of ASCII characters and every other character this way. Decoding takes
bytes back, and bytes that are no character become the replacement character.
-/

import OracleSql.Text.Layout

namespace OracleSql.Text

/-! ### Encoding -/

/-- A byte in percent-encoding, its digits in upper case. -/
def percentByte (byte : UInt8) : List Char :=
  '%' :: (hexDigits 2 byte.toNat).map Char.toUpper

/-- Whether a character is a control or not in ASCII. -/
def isControlOrWide (letter : Char) : Bool :=
  letter.toNat < 0x20 || 0x7E < letter.toNat

/-- The text with the reserved characters, controls and characters outside ASCII encoded. -/
def percentEncode (reserved : List Char) (letters : List Char) : List Char :=
  letters.flatMap fun letter =>
    if isControlOrWide letter || reserved.contains letter then
      (String.singleton letter).toUTF8.data.toList.flatMap percentByte
    else [letter]

/-! ### Decoding -/

/-- The bytes of a text, where a percent sign with two hexadecimal digits stands for its byte. -/
def percentDecode : List Char → List UInt8
  | [] => []
  | '%' :: high :: low :: rest =>
    match hexNumber? [high, low] with
    | some number => UInt8.ofNat number :: percentDecode rest
    | none => 0x25 :: percentDecode (high :: low :: rest)
  | letter :: rest => (String.singleton letter).toUTF8.data.toList ++ percentDecode rest

/-- How many bytes follow a first byte, and the range of the byte after it. A byte that cannot be
the first one has no such shape. -/
def utf8Shape? (first : Nat) : Option (Nat × Nat × Nat) :=
  if first < 0x80 then some (0, 0x80, 0xBF)
  else if 0xC2 ≤ first ∧ first ≤ 0xDF then some (1, 0x80, 0xBF)
  else if first = 0xE0 then some (2, 0xA0, 0xBF)
  else if first = 0xED then some (2, 0x80, 0x9F)
  else if 0xE1 ≤ first ∧ first ≤ 0xEF then some (2, 0x80, 0xBF)
  else if first = 0xF0 then some (3, 0x90, 0xBF)
  else if 0xF1 ≤ first ∧ first ≤ 0xF3 then some (3, 0x80, 0xBF)
  else if first = 0xF4 then some (3, 0x80, 0x8F)
  else none

/-- How many of the next bytes, at most `count`, go on with a character, where the first of them
lies in the given range. -/
def utf8Following : (count low high : Nat) → List UInt8 → Nat
  | 0, _, _, _ => 0
  | _ + 1, _, _, [] => 0
  | count + 1, low, high, byte :: rest =>
    if low ≤ byte.toNat ∧ byte.toNat ≤ high then utf8Following count 0x80 0xBF rest + 1 else 0

/-- The value of the bytes of a character. -/
def utf8Value (first : Nat) (others : List UInt8) : Nat :=
  let lead := match others.length with
    | 0 => first
    | 1 => first % 0x20
    | 2 => first % 0x10
    | _ => first % 0x08
  others.foldl (fun value byte => value * 0x40 + byte.toNat % 0x40) lead

/-- The characters of bytes. The longest start of a character that is broken off, and every byte
that cannot start one, becomes one replacement character. -/
def decodeUtf8 : List UInt8 → List Char
  | [] => []
  | first :: rest =>
    match utf8Shape? first.toNat with
    | none => '\uFFFD' :: decodeUtf8 rest
    | some (count, low, high) =>
      let found := utf8Following count low high rest
      let letter :=
        if found = count then Char.ofNat (utf8Value first.toNat (rest.take count)) else '\uFFFD'
      letter :: decodeUtf8 (rest.drop found)
  termination_by bytes => bytes.length
  decreasing_by all_goals simp only [List.length_drop, List.length_cons]; omega

end OracleSql.Text
