/-
This file holds universally unique identifiers and their text. The canonical text has 36
characters: 32 hexadecimal digits in lower case, in groups of 8, 4, 4, 4 and 12 with hyphens between
them. Reading takes digits of either case but no other shape.
-/

import OracleSql.Text.Layout

namespace OracleSql

/-- An identifier of 128 bits. -/
structure Uuid where
  value : BitVec 128
  deriving DecidableEq

namespace Uuid

/-- The canonical text of an identifier. -/
def toText (uuid : Uuid) : String :=
  let digits := Text.hexDigits 32 uuid.value.toNat
  String.ofList (digits.take 8 ++ '-' :: (digits.drop 8).take 4 ++ '-' :: (digits.drop 12).take 4
    ++ '-' :: (digits.drop 16).take 4 ++ '-' :: digits.drop 20)

/-- The places of the hyphens. -/
def hyphenPlaces : List Nat := [8, 13, 18, 23]

/-- Whether the characters have the canonical shape: a hyphen at each of its places and a
hexadecimal digit at every other one. -/
def wellFormed (letters : List Char) : Bool :=
  letters.length == 36 && letters.zipIdx.all fun (letter, place) =>
    if place ∈ hyphenPlaces then letter == '-' else (Text.hexValue? letter).isSome

/-- The identifier that a text of canonical shape writes. -/
def ofText? (text : String) : Option Uuid :=
  if wellFormed text.toList then
    (Text.hexNumber? (text.toList.filter (· != '-'))).map fun number => ⟨.ofNat 128 number⟩
  else none

end Uuid

end OracleSql
