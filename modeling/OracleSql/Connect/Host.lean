/-
This file reads the host of a location. An address of version six stands in brackets and is written
in its shortest form: groups without leading zeros, the longest run of zero groups left out. Any
other host is kept as it is written, with what is not plain ASCII percent-encoded; some characters
it may not hold.
-/

import OracleSql.Text.Percent

namespace OracleSql.Host

/-! ### Addresses of version six -/

/-- The items between separators. -/
def splitAt (separator : Char) (letters : List Char) : List (List Char) :=
  letters.splitOn separator

/-- A group of up to four hexadecimal digits. -/
def group? (letters : List Char) : Option Nat :=
  if letters.isEmpty || 4 < letters.length then none else Text.hexNumber? letters

/-- A number below 256 without leading zeros. -/
def octet? (letters : List Char) : Option Nat :=
  if letters.isEmpty || 3 < letters.length || (1 < letters.length && letters.head? == some '0') then
    none
  else (Text.decimalNumber? letters).filter (· < 256)

/-- The last group, or an address of version four, which takes the place of two groups. -/
def lastGroups? (letters : List Char) : Option (List Nat) :=
  if letters.contains '.' then
    match (splitAt '.' letters).mapM octet? with
    | some [first, second, third, fourth] => some [first * 256 + second, third * 256 + fourth]
    | _ => none
  else (group? letters).map fun number => [number]

/-- Groups with colons between them; no groups where nothing is written. -/
def groups? (letters : List Char) : Option (List Nat) :=
  if letters.isEmpty then some []
  else
    let items := splitAt ':' letters
    do
      let first ← items.dropLast.mapM group?
      let last ← lastGroups? (items.getLastD [])
      some (first ++ last)

/-- What stands before and after the first two colons in a row. -/
def splitGap : List Char → Option (List Char × List Char)
  | ':' :: ':' :: rest => some ([], rest)
  | letter :: rest => (splitGap rest).map fun (before, after) => (letter :: before, after)
  | [] => none

/-- The eight groups of an address; two colons in a row stand for as many zeros as are missing. -/
def address? (letters : List Char) : Option (List Nat) :=
  match splitGap letters with
  | none => (groups? letters).filter fun groups => groups.length == 8
  | some (before, after) => do
    let first ← groups? before
    let last ← groups? after
    if before.contains '.' || 7 < first.length + last.length then none
    else some (first ++ List.replicate (8 - first.length - last.length) 0 ++ last)

/-- The length of the run of zeros at the start. -/
def zeroRun (groups : List Nat) : Nat :=
  (groups.takeWhile (· == 0)).length

/-- The longest run of zeros, the first one of the longest: its place and its length. -/
def longestZeros (groups : List Nat) : Nat × Nat :=
  (List.range groups.length).foldl (fun best place =>
    let length := zeroRun (groups.drop place)
    if best.2 < length then (place, length) else best) (0, 0)

/-- A group in hexadecimal digits. -/
def groupText (group : Nat) : String :=
  String.ofList (Nat.toDigits 16 group)

/-- The text of an address. -/
def addressText (groups : List Nat) : String :=
  let texts := fun (some : List Nat) => Text.join ":" (some.map groupText)
  let (place, length) := longestZeros groups
  if length < 2 then "[" ++ texts groups ++ "]"
  else "[" ++ texts (groups.take place) ++ "::" ++ texts (groups.drop (place + length)) ++ "]"

/-! ### Hosts -/

/-- The characters that a host may not hold. -/
def forbidden : List Char :=
  ['\x00', '\t', '\n', '\r', ' ', '#', '/', ':', '<', '>', '?', '@', '[', '\\', ']', '^', '|']

/-- The host that characters write, if they write one. -/
def read? (letters : List Char) : Option String :=
  if letters.head? == some '[' then
    if letters.getLast? == some ']' then
      (address? (letters.drop 1).dropLast).map addressText
    else none
  else if letters.any forbidden.contains then none
  else some (String.ofList (Text.percentEncode [] letters))

end OracleSql.Host
