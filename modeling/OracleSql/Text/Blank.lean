/-
This file says which characters are blank, and how a text is trimmed and split at them. Blank is
the white space of Unicode: the tab and its neighbours, the space, the next-line control, the
no-break space and the spaces and separators of general punctuation.
-/

import OracleSql.Text.Visibility

namespace OracleSql.Text

/-- The ranges of the blank characters. -/
def blankRanges : List (Nat × Nat) := [
  (0x09, 0x0D), (0x20, 0x20), (0x85, 0x85), (0xA0, 0xA0), (0x1680, 0x1680), (0x2000, 0x200A),
  (0x2028, 0x2029), (0x202F, 0x202F), (0x205F, 0x205F), (0x3000, 0x3000)]

/-- Whether the character is white space. -/
def isBlank (letter : Char) : Bool :=
  inRanges blankRanges letter.toNat

/-- The characters without the blank ones at their end. -/
def trimEnd (letters : List Char) : List Char :=
  (letters.reverse.dropWhile isBlank).reverse

/-- The text without blanks at either end. -/
def trim (text : String) : String :=
  String.ofList (trimEnd (text.toList.dropWhile isBlank))

end OracleSql.Text
