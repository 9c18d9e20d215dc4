/-
This file holds names of tables, columns and other objects. A name is written as segments with dots
between them: a bare segment is cased by the dialect, a segment in double quotes keeps its spelling,
and a star may stand last. Inside a statement every segment is written in double quotes, so the two
characters that a quoted name cannot hold, the quote and the null character, are refused.

A name that is too long is cut, and the first digits of its digest are put after the cut, so that
two long names with a common start stay apart.
-/

import OracleSql.Dialect
import OracleSql.Digest.Sha256
import OracleSql.Text.Layout
import OracleSql.Text.Quoted
import OracleSql.Text.Upper

namespace OracleSql

/-- One segment of a name. -/
inductive IdentifierPart where
  /-- Cased by the dialect. -/
  | bare (name : String)
  /-- Spelled exactly as it stands. -/
  | quoted (name : String)
  /-- All columns of what stands before. -/
  | star
  deriving DecidableEq

/-- A name: its segments from the owner to the column. -/
structure Identifier where
  parts : List IdentifierPart
  deriving DecidableEq

namespace Identifier

/-! ### Faults -/

/-- Why a text is no name. -/
inductive Fault where
  | empty
  | nullCharacter
  | doubleQuote (text : String)
  | trailingDot
  | emptySegment
  | unclosedQuote
  | emptyQuoted
  | afterQuote (text : String)
  | starNotLast
  | notAName (text : String)
  deriving DecidableEq

/-- The wording of a fault. -/
def Fault.message : Fault → String
  | empty => "Identifier cannot be empty"
  | nullCharacter => "Identifier cannot contain NUL character"
  | doubleQuote text => "Identifier cannot contain a double quote: " ++ Text.quoted text
  | trailingDot => "Trailing '.' in identifier"
  | emptySegment => "Empty identifier segment"
  | unclosedQuote => "Unclosed quoted identifier"
  | emptyQuoted => "Empty quoted identifier"
  | afterQuote text => "Unexpected characters after quoted identifier in " ++ Text.quoted text
  | starNotLast => "'*' is only allowed as the last part"
  | notAName text => "'" ++ text ++ "' is not a name"

/-! ### Reading -/

/-- A segment without quotes: the star, or a bare name. -/
def bareOrStar (name : List Char) : IdentifierPart :=
  if name = ['*'] then .star else .bare (String.ofList name)

/-- The characters of a bare segment. -/
def isNameChar (letter : Char) : Bool :=
  letter != '.' && letter != '"'

theorem length_dropWhile_le (keep : Char → Bool) (letters : List Char) :
    (letters.dropWhile keep).length ≤ letters.length :=
  (List.dropWhile_sublist keep).length_le

/-- Reads the segments from left to right; `text` is the whole name, for the faults. -/
def readParts (text : String) : List Char → Except Fault (List IdentifierPart)
  | '"' :: letters =>
    let name := letters.takeWhile (· != '"')
    let rest := letters.dropWhile (· != '"')
    if rest.isEmpty then .error .unclosedQuote
    else if name.isEmpty then .error .emptyQuoted
    else match rest.tail.head? with
      | none => .ok [.quoted (String.ofList name)]
      | some '.' =>
        if rest.tail.tail = [] then .error .trailingDot
        else (readParts text rest.tail.tail).map (.quoted (String.ofList name) :: ·)
      | some _ => .error (.afterQuote text)
  | letters =>
    let name := letters.takeWhile isNameChar
    let rest := letters.dropWhile isNameChar
    match rest.head? with
    | none => if name.isEmpty then .error .emptySegment else .ok [bareOrStar name]
    | some '.' =>
      if name.isEmpty then .error .emptySegment
      else if _more : rest.tail = [] then .error .trailingDot
      else (readParts text rest.tail).map (bareOrStar name :: ·)
    | some _ => .error (.doubleQuote text)
  termination_by letters => letters.length
  decreasing_by
    · have bound := length_dropWhile_le (· != '"') letters
      simp only [List.length_tail, List.length_cons]
      omega
    · have bound := length_dropWhile_le isNameChar letters
      have nonempty : 0 < (letters.dropWhile isNameChar).tail.length :=
        List.length_pos_iff.mpr _more
      simp only [List.length_tail] at nonempty ⊢
      omega

/-- Whether a star stands before the last segment. -/
def hasInnerStar (parts : List IdentifierPart) : Bool :=
  parts.dropLast.contains .star

/-- The name that a text writes. -/
def parse (text : String) : Except Fault Identifier :=
  if text.isEmpty then .error .empty
  else if text.toList.contains '\x00' then .error .nullCharacter
  else match readParts text text.toList with
    | .error fault => .error fault
    | .ok parts => if hasInnerStar parts then .error .starNotLast else .ok ⟨parts⟩

/-- The name of one segment that is spelled exactly as the text. -/
def exactly (text : String) : Except Fault Identifier :=
  if text.isEmpty then .error .emptyQuoted
  else if text.toList.contains '\x00' then .error .nullCharacter
  else if text.toList.contains '"' then .error (.doubleQuote text)
  else .ok ⟨[.quoted text]⟩

/-! ### Stored spelling -/

/-- The longest start of the characters whose bytes are no more than `limit`. -/
def takeBytes : (limit : Nat) → List Char → List Char
  | _, [] => []
  | limit, letter :: rest =>
    if letter.utf8Size ≤ limit then letter :: takeBytes (limit - letter.utf8Size) rest else []

/-- The first eight hexadecimal digits of the digest of a text, in upper case. -/
def digestMark (text : String) : String :=
  let bytes := (Sha256.digest text.toUTF8.data.toList).take 4
  String.ofList ((Text.hexOfBytes bytes).map Char.toUpper)

/-- The text itself if it has at most `limit` bytes; else a start of it, an underscore and the mark
of its digest. -/
def shorten (limit : Nat) (text : String) : String :=
  if text.utf8ByteSize ≤ limit then text
  else String.ofList (takeBytes (limit - 9) text.toList) ++ "_" ++ digestMark text

end Identifier

/-- A bare name in the case of the dialect. -/
def Dialect.cased (dialect : Dialect) (name : String) : String :=
  match dialect.identifierCase with
  | .upper => Text.upper name
  | .preserve => name

/-- The spelling under which the database keeps a segment; a star has none. -/
def Dialect.stored? (dialect : Dialect) : IdentifierPart → Option String
  | .bare name => some (Identifier.shorten dialect.maxIdentifierLength (dialect.cased name))
  | .quoted name => some (Identifier.shorten dialect.maxIdentifierLength name)
  | .star => none

namespace Identifier

/-- A stored name in double quotes. -/
def inQuotes (stored : String) : String := "\"" ++ stored ++ "\""

/-- A segment as a statement writes it. -/
def partText (dialect : Dialect) (part : IdentifierPart) : String :=
  match dialect.stored? part with
  | some stored => inQuotes stored
  | none => "*"

/-- The name as a statement writes it. -/
def render (dialect : Dialect) (identifier : Identifier) : String :=
  Text.join "." (identifier.parts.map (partText dialect))

/-- The stored spelling of the last segment. -/
def storedName? (dialect : Dialect) (identifier : Identifier) : Option String :=
  identifier.parts.getLast?.bind dialect.stored?

end Identifier

/-- The text of a name as a statement writes it. -/
def Dialect.quote (dialect : Dialect) (name : String) : Except Identifier.Fault String :=
  (Identifier.parse name).map (Identifier.render dialect)

/-- The spelling under which the database keeps the object with this name. -/
def Dialect.storedName (dialect : Dialect) (name : String) : Except Identifier.Fault String :=
  match Identifier.parse name with
  | .error fault => .error fault
  | .ok identifier =>
    match identifier.storedName? dialect with
    | some stored => .ok stored
    | none => .error (.notAName name)

end OracleSql
