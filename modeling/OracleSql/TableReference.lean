/-
This file holds references to tables: a name, or a name with an alias. The words of a reference are
set apart by blanks outside double quotes. The word `as` may stand between the name and the alias,
in any case, and is left out of the statement.
-/

import OracleSql.Piece

namespace OracleSql

namespace TableReference

/-- The words from a place of a text on, where `word` has been read of the current one and `quoted`
says whether a quote is open. A quote that stays open is a fault. -/
def wordsFrom : (quoted : Bool) → (word : List Char) → List Char → Option (List (List Char))
  | quoted, word, [] =>
    if quoted then none else some (if word.isEmpty then [] else [word])
  | quoted, word, letter :: rest =>
    if letter = '"' then wordsFrom (!quoted) (word ++ [letter]) rest
    else if !quoted && Text.isBlank letter then
      (wordsFrom false [] rest).map fun words => if word.isEmpty then words else word :: words
    else wordsFrom quoted (word ++ [letter]) rest

/-- The words of a text. -/
def words? (text : String) : Option (List String) :=
  (wordsFrom false [] text.toList).map (·.map String.ofList)

/-- The pieces of a name with an alias. -/
def aliasedPieces (dialect : Dialect) (name shortName : String) : Draft := do
  let first ← dialect.namePiece name
  let second ← dialect.namePiece shortName
  .ok (first ++ (.text " " :: second))

/-- The pieces of a reference. -/
def pieces (dialect : Dialect) (text : String) : Draft :=
  match words? text with
  | none => .error (.validation (.unclosedQuote text))
  | some [name] => dialect.namePiece name
  | some [name, shortName] => aliasedPieces dialect name shortName
  | some [name, keyword, shortName] =>
    if Text.sameFolded keyword "as" then aliasedPieces dialect name shortName
    else .error (.validation (.tableReference text))
  | some _ => .error (.validation (.tableReference text))

end TableReference

end OracleSql
