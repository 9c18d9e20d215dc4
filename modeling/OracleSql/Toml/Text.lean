/-
This file reads the smallest parts of a document: blanks, line ends, comments and texts in quotes.
A line ends with a line feed, or with a carriage return and a line feed; a carriage return alone
stands nowhere. Texts keep the line ends within them as they are written.
-/

import OracleSql.Text.Layout

namespace OracleSql.Toml

/-! ### Blanks and comments -/

/-- Whether a character is a blank within a line. -/
def isBlank (letter : Char) : Bool :=
  letter = ' ' || letter = '\t'

/-- The characters after the blanks of a line. -/
def skipBlank (letters : List Char) : List Char :=
  letters.dropWhile isBlank

/-- Whether a character is a control that may stand on no line. -/
def isControl (letter : Char) : Bool :=
  (letter.toNat < 0x20 && letter != '\t') || letter.toNat = 0x7F

/-- The next line, if nothing but a comment is left on this one. -/
def nextLine? (letters : List Char) : Option (List Char) :=
  let rest := skipBlank letters
  let after :=
    if rest.head? == some '#' then rest.dropWhile fun letter => !isControl letter else rest
  match after with
  | [] => some []
  | '\n' :: more => some more
  | '\r' :: '\n' :: more => some more
  | _ => none

/-- The characters after blanks, line ends and comments. -/
def skipLines? : (inComment : Bool) → List Char → Option (List Char)
  | _, [] => some []
  | inComment, letter :: rest =>
    if letter = '\n' then skipLines? false rest
    else if letter = '\r' then
      if rest.head? = some '\n' then skipLines? inComment rest else none
    else if inComment then
      if isControl letter then none else skipLines? true rest
    else if letter = '#' then skipLines? true rest
    else if isBlank letter then skipLines? false rest
    else some (letter :: rest)

/-! ### Escapes -/

/-- The character of a number, if there is one. -/
def scalar? (number : Nat) : Option Char :=
  if number.isValidChar then some (Char.ofNat number) else none

/-- The character of so many hexadecimal digits, and how many characters write the escape. -/
def hexEscape? (count : Nat) (letters : List Char) : Option (Char × Nat) :=
  if letters.length < count then none
  else do
    let number ← Text.hexNumber? (letters.take count)
    let letter ← scalar? number
    some (letter, count + 1)

/-- The character that an escape stands for, and how many characters after the backslash write
it. -/
def escape? : List Char → Option (Char × Nat)
  | '"' :: _ => some ('"', 1)
  | '\\' :: _ => some ('\\', 1)
  | 'b' :: _ => some ('\x08', 1)
  | 'e' :: _ => some ('\x1b', 1)
  | 'f' :: _ => some ('\x0c', 1)
  | 'n' :: _ => some ('\n', 1)
  | 'r' :: _ => some ('\r', 1)
  | 't' :: _ => some ('\t', 1)
  | 'x' :: rest => hexEscape? 2 rest
  | 'u' :: rest => hexEscape? 4 rest
  | 'U' :: rest => hexEscape? 8 rest
  | _ => none

/-- Whether a carriage return stands without a line feed after it. -/
def hasLoneReturn : List Char → Bool
  | [] => false
  | letter :: rest => (letter = '\r' && rest.head? != some '\n') || hasLoneReturn rest

/-- How many blanks and line ends follow a backslash at the end of a line; none if it stands
elsewhere. -/
def foldedLength (letters : List Char) : Nat :=
  let isReturn := fun (letter : Char) => letter = '\n' || letter = '\r'
  let folded := letters.takeWhile fun letter => isBlank letter || isReturn letter
  if (skipBlank letters).head?.any isReturn && !hasLoneReturn folded then folded.length else 0

/-! ### Texts -/

/-- A text on one line up to its closing quote, and what follows the quote. -/
def readLineText (quote : Char) : List Char → Option (List Char × List Char)
  | [] => none
  | letter :: rest =>
    if letter = quote then some ([], rest)
    else if isControl letter then none
    else if letter = '\\' ∧ quote = '"' then do
      let (found, length) ← escape? rest
      let (content, after) ← readLineText quote (rest.drop length)
      some (found :: content, after)
    else do
      let (content, after) ← readLineText quote rest
      some (letter :: content, after)
  termination_by letters => letters.length
  decreasing_by all_goals simp only [List.length_cons, List.length_drop]; omega

/-- Whether a long text may hold the character, given the character after it. -/
def isLongTextChar (letter : Char) (next : Option Char) : Bool :=
  !isControl letter || letter = '\n' || (letter = '\r' && next == some '\n')

/-- A text on several lines up to its three closing quotes, and what follows them. Up to two quotes
more belong to the text. -/
def readLongText (quote : Char) : List Char → Option (List Char × List Char)
  | [] => none
  | letter :: rest =>
    let quotes := ((letter :: rest).takeWhile (· == quote)).length
    if 3 ≤ quotes then
      if quotes ≤ 5 then some (List.replicate (quotes - 3) quote, rest.drop (quotes - 1)) else none
    else if !isLongTextChar letter rest.head? then none
    else if letter = '\\' ∧ quote = '"' then
      let folded := foldedLength rest
      if 0 < folded then readLongText quote (rest.drop folded)
      else do
        let (found, length) ← escape? rest
        let (content, after) ← readLongText quote (rest.drop length)
        some (found :: content, after)
    else do
      let (content, after) ← readLongText quote rest
      some (letter :: content, after)
  termination_by letters => letters.length
  decreasing_by all_goals simp only [List.length_cons, List.length_drop]; omega

/-- The characters of a long text without a line end at its start. -/
def afterOpening : List Char → List Char
  | '\n' :: rest => rest
  | '\r' :: '\n' :: rest => rest
  | letters => letters

/-- A text in any kind of quotes, and what follows it. -/
def readText (letters : List Char) : Option (List Char × List Char) :=
  match letters with
  | '"' :: '"' :: '"' :: rest => readLongText '"' (afterOpening rest)
  | '\'' :: '\'' :: '\'' :: rest => readLongText '\'' (afterOpening rest)
  | '"' :: rest => readLineText '"' rest
  | '\'' :: rest => readLineText '\'' rest
  | _ => none

end OracleSql.Toml
