/-
This file holds JSON documents and their compact text. Whole numbers of 64 bits, signed or
unsigned, are kept as such, and all other numbers are binary ones of 64 bits. The members of an
object stand in the order of their names, each name once. The text has no blanks; a number that is
not whole by type shows it by a point or an exponent.
-/

import OracleSql.Members
import OracleSql.Number.Shortest
import OracleSql.Text.Layout

namespace OracleSql

/-- A JSON document. -/
inductive Json where
  | null
  | bool (value : Bool)
  | integer (number : Int)
  | float (number : Binary64)
  | text (content : String)
  | array (items : List Json)
  | object (members : List (String × Json))
  deriving Inhabited

namespace Json

/-! ### Members -/

/-- The object with these members; of two members of one name the later one counts. -/
def ofMembers (members : List (String × Json)) : Json :=
  .object (orderedMembers members)

/-! ### Text -/

/-- One character inside a JSON string. -/
def escaped (letter : Char) : List Char :=
  if letter = '"' then ['\\', '"']
  else if letter = '\\' then ['\\', '\\']
  else if letter = '\n' then ['\\', 'n']
  else if letter = '\r' then ['\\', 'r']
  else if letter = '\t' then ['\\', 't']
  else if letter.toNat = 0x08 then ['\\', 'b']
  else if letter.toNat = 0x0C then ['\\', 'f']
  else if letter.toNat < 0x20 then ['\\', 'u'] ++ Text.hexDigits 4 letter.toNat
  else [letter]

/-- A text as a JSON string. -/
def stringText (content : String) : String :=
  String.ofList ('"' :: content.toList.flatMap escaped ++ ['"'])

/-- A binary number in JSON, where what is not finite has no number. Of two neighbours that are
equally near the even one is written. -/
def floatText : Binary64 → String
  | .nan => "null"
  | .ranked negative rank =>
    if rank.val = 0 then Binary.signText negative ++ "0.0"
    else if rank.val < BinaryFormat.double.infinity then
      Binary.signText negative ++ (shortestDigits .even .double rank).scientific
    else "null"

mutual

/-- The compact text of a document. -/
def render : Json → String
  | .null => "null"
  | .bool value => if value then "true" else "false"
  | .integer number => toString number
  | .float number => floatText number
  | .text content => stringText content
  | .array items => "[" ++ renderItems items ++ "]"
  | .object members => "\x7b" ++ renderMembers members ++ "\x7d"

/-- The texts of documents, with commas between them. -/
def renderItems : List Json → String
  | [] => ""
  | [item] => render item
  | item :: rest => render item ++ "," ++ renderItems rest

/-- The texts of members, with commas between them. -/
def renderMembers : List (String × Json) → String
  | [] => ""
  | [(name, value)] => stringText name ++ ":" ++ render value
  | (name, value) :: rest => stringText name ++ ":" ++ render value ++ "," ++ renderMembers rest

end

end Json

end OracleSql
