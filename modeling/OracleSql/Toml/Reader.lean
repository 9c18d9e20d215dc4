/-
This file reads documents. A document is a row of lines: entries `key = value`, headers `[table]`
and repeated headers `[[table]]`, blank lines and comments. Keys are bare words or quoted texts with
dots between them. Nothing may be defined twice.
-/

import OracleSql.Toml.Basic
import OracleSql.Toml.Text
import OracleSql.Toml.Word

namespace OracleSql.Toml

/-- The deepest nesting that is read, in values and in keys. -/
def maxDepth : Nat := 80

/-! ### Keys -/

/-- The characters of a bare key. -/
def isKeyChar (letter : Char) : Bool :=
  letter.isAlphanum || letter = '_' || letter = '-'

/-- One part of a key, and what follows it. -/
def readKeyPart (letters : List Char) : Option (String × List Char) :=
  match letters with
  | '"' :: rest => (readLineText '"' rest).map fun (name, after) => (String.ofList name, after)
  | '\'' :: rest => (readLineText '\'' rest).map fun (name, after) => (String.ofList name, after)
  | _ =>
    let name := letters.takeWhile isKeyChar
    if name.isEmpty then none else some (String.ofList name, letters.drop name.length)

/-- The parts of a key with dots between them, at most `count`, and what follows the key with its
blanks. -/
def readKey : (count : Nat) → List Char → Option (List String × List Char)
  | 0, _ => none
  | count + 1, letters => do
    let (part, after) ← readKeyPart (skipBlank letters)
    match skipBlank after with
    | '.' :: rest => (readKey count rest).map fun (parts, left) => (part :: parts, left)
    | rest => some ([part], rest)

/-! ### Values -/

/-- A text or a word at the start of the characters. -/
def readScalar (letters : List Char) : Option (Toml × List Char) :=
  if letters.head? = some '"' ∨ letters.head? = some '\'' then
    (readText letters).map fun (content, after) => (.text (String.ofList content), after)
  else
    let (word, after) := readWord letters
    (ofWord? word).map (·, after)

/-- The items of an array after its bracket, read by `inner`, through the closing bracket. -/
def readItems (inner : List Char → Option (Toml × List Char)) :
    (fuel : Nat) → List Char → Option (List Toml × List Char)
  | 0, _ => none
  | fuel + 1, letters => do
    match ← skipLines? false letters with
    | ']' :: after => some ([], after)
    | start =>
      let (item, rest) ← inner start
      match ← skipLines? false rest with
      | ',' :: more =>
        let (items, after) ← readItems inner fuel more
        some (item :: items, after)
      | ']' :: after => some ([item], after)
      | _ => none

/-- The entries of a table in braces after its brace, through the closing brace. -/
def readInline (inner : List Char → Option (Toml × List Char)) :
    (fuel : Nat) → (entries : Entries) → List Char → Option (Entries × List Char)
  | 0, _, _ => none
  | fuel + 1, entries, letters => do
    match ← skipLines? false letters with
    | '\x7d' :: after => some (entries, after)
    | start =>
      let (path, rest) ← readKey maxDepth start
      match ← skipLines? false rest with
      | '=' :: more =>
        let (value, left) ← inner (← skipLines? false more)
        let changed ← putDotted value path entries
        match ← skipLines? false left with
        | ',' :: others => readInline inner fuel changed others
        | '\x7d' :: after => some (changed, after)
        | _ => none
      | _ => none

/-- A value at the start of the characters, in which no more than `depth` brackets and braces are
open at once. -/
def readValue : (depth : Nat) → List Char → Option (Toml × List Char)
  | 0, letters => readScalar letters
  | depth + 1, letters =>
    match letters with
    | '[' :: rest =>
      (readItems (readValue depth) (rest.length + 1) rest).map fun (items, after) =>
        (.array items, after)
    | '\x7b' :: rest =>
      (readInline (readValue depth) (rest.length + 1) [] rest).map fun (entries, after) =>
        (.table (entriesToToml entries), after)
    | _ => readScalar letters

/-! ### Lines -/

/-- A document as far as it has been read: its entries, and the table that entries go into. -/
structure Progress where
  entries : Entries := []
  header : List String := []

/-- Reads a header after its brackets, through the closing ones. -/
def readHeader (isRepeated : Bool) (progress : Progress) (letters : List Char) :
    Option (Progress × List Char) := do
  let (path, rest) ← readKey maxDepth letters
  let entries ← openHeader isRepeated path progress.entries
  match isRepeated, rest with
  | false, ']' :: after => some ({ entries, header := path }, after)
  | true, ']' :: ']' :: after => some ({ entries, header := path }, after)
  | _, _ => none

/-- Reads an entry. -/
def readEntry (progress : Progress) (letters : List Char) : Option (Progress × List Char) := do
  let (path, rest) ← readKey maxDepth letters
  match rest with
  | '=' :: more =>
    let (value, after) ← readValue maxDepth (skipBlank more)
    let entries ← putUnder progress.header path value progress.entries
    some ({ progress with entries }, after)
  | _ => none

/-- Reads what is on a line, before a comment. -/
def readLine (progress : Progress) (letters : List Char) : Option (Progress × List Char) :=
  match skipBlank letters with
  | '[' :: '[' :: rest => readHeader true progress rest
  | '[' :: rest => readHeader false progress rest
  | rest =>
    if rest.isEmpty || (rest.head?.any fun letter => ['#', '\n', '\r'].contains letter) then
      some (progress, rest)
    else readEntry progress rest

/-- Reads the lines from a place on. -/
def readLines : (fuel : Nat) → Progress → List Char → Option Entries
  | _, progress, [] => some progress.entries
  | 0, _, _ => none
  | fuel + 1, progress, letters => do
    let (changed, rest) ← readLine progress letters
    let next ← nextLine? rest
    readLines fuel changed next

/-- The entries of the document that a text writes. A mark of the byte order before it says
nothing. -/
def parse? (text : String) : Option (List (String × Toml)) :=
  let letters := match text.toList with
    | '\ufeff' :: rest => rest
    | letters => letters
  (readLines letters.length {} letters).map entriesToToml

end OracleSql.Toml
