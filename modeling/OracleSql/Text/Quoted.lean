/-
This file writes a text in double quotes for a message. A quote and a backslash take a backslash
before them, four controls have a letter of their own, and every other character of which nothing
would be seen, or which would join the character before it, is shown by its code point.
-/

import OracleSql.Text.Visibility

namespace OracleSql.Text

/-- The code point of a character between braces, in hexadecimal digits without leading zeros. -/
def codePoint (letter : Char) : List Char :=
  ['\\', 'u', '\x7b'] ++ Nat.toDigits 16 letter.toNat ++ ['\x7d']

/-- One character as a quoted text shows it. -/
def quotedChar (letter : Char) : List Char :=
  if letter = '"' then ['\\', '"']
  else if letter = '\\' then ['\\', '\\']
  else if letter = '\n' then ['\\', 'n']
  else if letter = '\r' then ['\\', 'r']
  else if letter = '\t' then ['\\', 't']
  else if letter.toNat = 0 then ['\\', '0']
  else if isCombining letter || isHidden letter then codePoint letter
  else [letter]

/-- The text in double quotes. -/
def quoted (text : String) : String :=
  String.ofList ('"' :: text.toList.flatMap quotedChar ++ ['"'])

end OracleSql.Text
