/-
This file compares texts without regard to the case of their ASCII letters. Column look-ups, bind
names and keywords are compared this way; letters outside ASCII are compared as they are.
-/

namespace OracleSql.Text

/-- The text with its ASCII letters in upper case. -/
def foldUpper (text : String) : String :=
  String.ofList (text.toList.map Char.toUpper)

/-- The text with its ASCII letters in lower case. -/
def foldLower (text : String) : String :=
  String.ofList (text.toList.map Char.toLower)

/-- Whether two texts differ at most in the case of their ASCII letters. -/
def sameFolded (left right : String) : Bool :=
  foldUpper left == foldUpper right

/-- Whether one of the texts is the given one up to the case of ASCII letters. -/
def memFolded (text : String) (texts : List String) : Bool :=
  texts.any (sameFolded text)

end OracleSql.Text
