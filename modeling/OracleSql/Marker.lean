/-
This file reads the markers of a statement template. A template is a row of lexemes: a string
literal, a quoted identifier, a literal with alternative quotes, a comment, a `?` marker, an `@name`
marker, a native `:name` marker, or one other character. Nothing inside a literal, an identifier or
a comment is a marker. An `@` right after an identifier is a database link, and a colon right after
an identifier or another colon belongs to the text before it.

A lexeme is found by its length: `extent` says of which kind the lexeme is that starts with a given
character, and how many characters follow that belong to it. The lexemes of a template put together
are the template.
-/

namespace OracleSql.Marker

/-! ### Characters -/

/-- The characters that can stand in an identifier without quotes. -/
def isIdentifierChar (letter : Char) : Bool :=
  letter.isAlphanum || letter = '_' || letter = '$' || letter = '#' || 0x80 ≤ letter.toNat

/-- The characters that can start the name of a portable marker. -/
def isNameStart (letter : Char) : Bool :=
  letter.isAlpha || letter = '_'

/-- The characters of a marker's name. -/
def isNameChar (letter : Char) : Bool :=
  letter.isAlphanum || letter = '_'

/-! ### What stands before a lexeme -/

/-- The last two characters before a place of the template, where there are so many. -/
structure Before where
  last : Option Char := none
  earlier : Option Char := none

namespace Before

/-- What stands before the place after one more character. -/
def push (before : Before) (letter : Char) : Before :=
  ⟨some letter, before.last⟩

/-- Whether an identifier ends right here. -/
def endsIdentifier (before : Before) : Bool :=
  before.last.any isIdentifierChar

/-- Whether a `q` here starts a literal: no identifier ends before it, or only the letter of a
national literal stands there by itself. -/
def allowsAlternative (before : Before) : Bool :=
  !before.endsIdentifier ||
    (before.last.any (fun letter => letter = 'n' || letter = 'N') &&
      !before.earlier.any isIdentifierChar)

/-- Whether an `@` here starts a marker. -/
def allowsNamed (before : Before) : Bool :=
  !(before.endsIdentifier || before.last == some '"')

/-- Whether a colon here starts a marker. -/
def allowsNative (before : Before) : Bool :=
  !(before.endsIdentifier || before.last == some ':')

end Before

/-! ### Lengths of the long lexemes -/

/-- How many characters follow an opening quote, through the closing one; a quote written twice
does not close. -/
def quotedLength (quote : Char) : List Char → Option Nat
  | [] => none
  | [letter] => if letter = quote then some 1 else none
  | letter :: next :: rest =>
    if letter = quote then
      if next = quote then (quotedLength quote rest).map (· + 2) else some 1
    else (quotedLength quote (next :: rest)).map (· + 1)

/-- How many characters are left up to the end of the line, the newline counted. -/
def lineLength : List Char → Nat
  | [] => 0
  | letter :: rest => if letter = '\n' then 1 else lineLength rest + 1

/-- How many characters are left through the first place where the two characters stand in a
row. -/
def lengthThrough (first second : Char) : List Char → Option Nat
  | letter :: next :: rest =>
    if letter = first ∧ next = second then some 2
    else (lengthThrough first second (next :: rest)).map (· + 1)
  | _ => none

/-- The bracket that closes a literal with alternative quotes: the mate of a bracket, and any other
character itself. -/
def closingMate (opening : Char) : Char :=
  if opening = '[' then ']'
  else if opening = '\x7b' then '\x7d'
  else if opening = '(' then ')'
  else if opening = '<' then '>'
  else opening

/-- How many characters follow the quote of a literal with alternative quotes. -/
def alternativeLength : List Char → Option Nat
  | [] => none
  | opening :: rest => (lengthThrough (closingMate opening) '\'' rest).map (· + 1)

/-- How many characters at the start belong to a name. -/
def nameLength (letters : List Char) : Nat :=
  (letters.takeWhile isNameChar).length

/-! ### Lexemes -/

/-- What a template can leave open at its end. -/
inductive Unterminated where
  | stringLiteral
  | quotedIdentifier
  | alternativeLiteral
  | blockComment
  deriving DecidableEq

/-- The name of what is left open. -/
def Unterminated.name : Unterminated → String
  | stringLiteral => "string literal"
  | quotedIdentifier => "quoted identifier"
  | alternativeLiteral => "q-quoted literal"
  | blockComment => "block comment"

/-- The kinds of lexemes. -/
inductive Kind where
  | text
  | positional
  | named
  | native
  deriving DecidableEq

/-- The kind of the lexeme that starts with `letter`, and how many of the characters after it
belong to it. -/
def extent (before : Before) (letter : Char) (rest : List Char) :
    Except Unterminated (Kind × Nat) :=
  let closing := fun (length : Option Nat) (opened : Unterminated) =>
    match length with
    | some count => Except.ok (Kind.text, count)
    | none => Except.error opened
  if letter = '\'' then closing (quotedLength '\'' rest) .stringLiteral
  else if letter = '"' then closing (quotedLength '"' rest) .quotedIdentifier
  else if letter = '-' ∧ rest.head? = some '-' then .ok (.text, lineLength rest)
  else if letter = '/' ∧ rest.head? = some '*' then
    closing ((lengthThrough '*' '/' rest.tail).map (· + 1)) .blockComment
  else if (letter = 'q' ∨ letter = 'Q') ∧ rest.head? = some '\'' ∧ before.allowsAlternative then
    closing ((alternativeLength rest.tail).map (· + 1)) .alternativeLiteral
  else if letter = '?' then .ok (.positional, 0)
  else if letter = '@' ∧ rest.head?.any isNameStart ∧ before.allowsNamed then
    .ok (.named, nameLength rest)
  else if letter = ':' ∧ rest.head?.any isNameChar ∧ before.allowsNative then
    .ok (.native, nameLength rest)
  else .ok (.text, 0)

/-- A lexeme: text to be copied, or a marker. -/
inductive Lexeme where
  | text (written : List Char)
  | positional
  | named (name : List Char)
  | native (name : List Char)
  deriving DecidableEq

/-- The lexeme of a kind that is written with these characters. -/
def Lexeme.ofKind (letter : Char) (more : List Char) : Kind → Lexeme
  | .text => text (letter :: more)
  | .positional => positional
  | .named => named more
  | .native => native more

/-- A lexeme as the template writes it. -/
def Lexeme.written : Lexeme → List Char
  | text written => written
  | positional => ['?']
  | named name => '@' :: name
  | native name => ':' :: name

/-- The lexemes from a place of a template on. -/
def lexemesFrom (before : Before) : List Char → Except Unterminated (List Lexeme)
  | [] => .ok []
  | letter :: rest =>
    match extent before letter rest with
    | .error opened => .error opened
    | .ok (kind, length) =>
      let more := rest.take length
      (lexemesFrom (more.foldl Before.push (before.push letter)) (rest.drop length)).map
        (Lexeme.ofKind letter more kind :: ·)
  termination_by letters => letters.length
  decreasing_by simp only [List.length_drop, List.length_cons]; omega

/-- The lexemes of a template. -/
def lexemes (template : String) : Except Unterminated (List Lexeme) :=
  lexemesFrom {} template.toList

/-- The name of a native marker, without its colon. -/
def Lexeme.nativeName? : Lexeme → Option String
  | native name => some (String.ofList name)
  | _ => none

/-- Whether the lexeme is a `?` or an `@name` marker. -/
def Lexeme.isPortable : Lexeme → Bool
  | positional => true
  | named _ => true
  | _ => false

/-- The native markers of a statement in order, without their colons. -/
def nativeNames (sql : String) : Except Unterminated (List String) :=
  (lexemes sql).map (·.filterMap Lexeme.nativeName?)

end OracleSql.Marker
