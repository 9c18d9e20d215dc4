/-
This file reads locations written as URLs: a scheme, then two slashes with an authority, a path and
a query. Of the authority, the last `@` ends the user with the password, and a colon in front of it
separates the two. In all parts what is not allowed there is percent-encoded, and what is encoded
stays so. Segments of a path that are one or two dots are resolved. Tabs and line ends are skipped
wherever they stand.

For most schemes the host is free text. For the schemes of the web the slashes may be written
backwards or left out, and a host must be there and must be the name or the number of a machine.
-/

import OracleSql.Connect.Host
import OracleSql.Text.Fold

namespace OracleSql

/-- A location. A part that is not written is absent; an empty password counts as not written. -/
structure Url where
  scheme : String
  user : String := ""
  password : Option String := none
  host : Option String := none
  port : Option Nat := none
  path : String := ""
  query : Option String := none
  deriving DecidableEq

namespace Url

/-! ### Characters -/

/-- The characters that are encoded in a path. -/
def pathReserved : List Char :=
  [' ', '"', '<', '>', '`', '#', '?', '\x7b', '\x7d']

/-- The characters that are encoded in a user and a password. -/
def userReserved : List Char :=
  pathReserved ++ ['/', ':', ';', '=', '@', '[', '\\', ']', '^', '|']

/-- The characters that are encoded in a query. -/
def queryReserved : List Char := [' ', '"', '#', '<', '>']

/-- A text without the controls and blanks at its ends and without tabs and line ends in it. -/
def cleaned (text : String) : List Char :=
  let isEdge := fun (letter : Char) => letter.toNat ≤ 0x20
  let inner := (text.toList.dropWhile isEdge).reverse.dropWhile isEdge
  inner.reverse.filter fun letter => letter ∉ ['\t', '\n', '\r']

/-! ### Scheme -/

/-- How the rest of a location is read. -/
inductive SchemeKind where
  | file
  | web
  | free
  deriving DecidableEq

/-- The kind of a scheme. -/
def SchemeKind.of (scheme : String) : SchemeKind :=
  if scheme = "file" then .file
  else if ["http", "https", "ws", "wss", "ftp"].contains scheme then .web
  else .free

/-- The characters of a scheme after its first letter. -/
def isSchemeChar (letter : Char) : Bool :=
  letter.isAlphanum || ['+', '-', '.'].contains letter

/-- The scheme in lower case, and what follows its colon. -/
def readScheme (letters : List Char) : Option (String × List Char) :=
  let name := letters.takeWhile isSchemeChar
  match letters.dropWhile isSchemeChar with
  | ':' :: rest =>
    if name.head?.any Char.isAlpha then some (Text.foldLower (String.ofList name), rest) else none
  | _ => none

/-! ### Authority -/

/-- The characters that end an authority. -/
def endsAuthority (kind : SchemeKind) (letter : Char) : Bool :=
  ['/', '?', '#'].contains letter || (kind != .free && letter = '\\')

/-- A part of the user or the password, encoded. -/
def userText (letters : List Char) : String :=
  String.ofList (Text.percentEncode userReserved letters)

/-- What stands before the last `@`, if there is one, and what stands after it. -/
def splitUser (letters : List Char) : Option (List Char) × List Char :=
  if letters.contains '@' then
    let after := (letters.reverse.takeWhile (· != '@')).reverse
    (some (letters.take (letters.length - after.length - 1)), after)
  else (none, letters)

/-- The user and the password that characters write. -/
def credentials (letters : List Char) : String × Option String :=
  let user := letters.takeWhile (· != ':')
  let password := (letters.dropWhile (· != ':')).drop 1
  (userText user, if password.isEmpty then none else some (userText password))

/-- How many characters of an authority belong to the host: up to a colon outside brackets. -/
def hostLength : (inBrackets : Bool) → List Char → Nat
  | _, [] => 0
  | inBrackets, letter :: rest =>
    if letter = ':' ∧ !inBrackets then 0
    else if letter = '[' then hostLength true rest + 1
    else if letter = ']' then hostLength false rest + 1
    else hostLength inBrackets rest + 1

/-- The port that characters write; none where nothing is written. -/
def readPort (letters : List Char) : Option (Option Nat) :=
  if letters.isEmpty then some none
  else ((Text.decimalNumber? letters).filter (· < UInt16.size)).map some

/-- The host and the port of free text. An empty host is none, and goes with nothing else. -/
def readFreeHost (host : List Char) (port : Option (List Char)) (hasUser : Bool) :
    Option (Option String × Option Nat) :=
  if host.isEmpty then
    if port.isSome || hasUser then none else some (none, none)
  else do
    let name ← Host.read? host
    let number ← port.elim (some none) readPort
    some (some name, number)

/-- The number that digits of a system write. -/
def numberIn? (base : Nat) (digits : List Char) : Option Nat :=
  digits.foldlM (fun number digit =>
    ((Text.hexValue? digit).filter (· < base)).map (base * number + ·)) 0

/-- A part of the number of a machine, in the system of sixteen, eight or ten. -/
def machineNumber? : List Char → Option Nat
  | [] => none
  | '0' :: 'x' :: rest => numberIn? 16 rest
  | '0' :: 'X' :: rest => numberIn? 16 rest
  | '0' :: rest => numberIn? 8 rest
  | digits => numberIn? 10 digits

/-- Whether labels are the number of a machine: up to four parts below 256, of which the last one
may take the place of those that are missing. -/
def isMachineNumber (labels : List (List Char)) : Bool :=
  match labels.mapM machineNumber? with
  | some parts =>
    parts.length ≤ 4 && parts.dropLast.all (· < 256) &&
      parts.getLastD 0 < 1 <<< (8 * (5 - parts.length))
  | none => false

/-- Whether a name of a machine is one: it holds none of the forbidden characters, and if its last
label is a number then the whole is one. -/
def isMachineName (name : List Char) : Bool :=
  let forbidden := fun (letter : Char) =>
    Host.forbidden.contains letter || ['%', '\uFFFD'].contains letter || letter.toNat < 0x20 ||
      letter.toNat = 0x7F
  let labels := name.splitOn '.'
  let written := if labels.getLast? == some [] then labels.dropLast else labels
  let last := written.getLastD []
  let endsInNumber := !last.isEmpty && (last.all Char.isDigit || (machineNumber? last).isSome)
  !name.isEmpty && !name.any forbidden && (!endsInNumber || isMachineNumber written)

/-- Whether characters write the host of a machine. -/
def isMachineHost (letters : List Char) : Bool :=
  if letters.head? == some '[' then (Host.read? letters).isSome
  else isMachineName (Text.decodeUtf8 (Text.percentDecode letters))

/-- The host and the port of a machine, which must be there. -/
def readMachine (host : List Char) (port : Option (List Char)) :
    Option (Option String × Option Nat) :=
  if isMachineHost host then
    (port.elim (some none) readPort).map (some (String.ofList host), ·)
  else none

/-- The parts of an authority, and what is left of it: in free text a backslash ends the port.
`isLast` says whether nothing follows the authority. -/
def readAuthority (kind : SchemeKind) (scheme : String) (letters : List Char) (isLast : Bool) :
    Option (Url × List Char) := do
  let (before, after) := splitUser letters
  if before = some [] ∧ after.isEmpty ∧ !isLast then none
  let (user, password) := credentials (before.getD [])
  let (hostLetters, rest) := after.splitAt (hostLength false after)
  let written := rest.takeWhile (· != '\\')
  let port := if written.isEmpty then none else some (written.drop 1)
  let (host, number) ←
    if kind = .free then readFreeHost hostLetters port (!user.isEmpty || password.isSome)
    else readMachine hostLetters port
  some ({ scheme, user, password, host, port := number }, rest.drop written.length)

/-! ### Path -/

/-- The spellings of one dot in a path. -/
def isDot (segment : List Char) : Bool :=
  [".", "%2e"].contains (Text.foldLower (String.ofList segment))

/-- The spellings of two dots in a path. -/
def isTwoDots (segment : List Char) : Bool :=
  ["..", "%2e.", ".%2e", "%2e%2e"].contains (Text.foldLower (String.ofList segment))

/-- Whether a segment is the name of a drive, which no dots lead out of. -/
def isDrive : List Char → Bool
  | letter :: mark :: rest =>
    letter.isAlpha && [':', '|'].contains mark && (rest.isEmpty || rest.head? == some '\\')
  | _ => false

/-- The segments of a path with those of dots resolved; `kept` are the segments before, the last one
first. A dot at the end leaves an empty segment. -/
def resolveDots : (kept : List (List Char)) → List (List Char) → List (List Char)
  | kept, [] => kept.reverse
  | kept, segment :: rest =>
    let atEnd := if rest.isEmpty then [[]] else []
    if isTwoDots segment && !kept.head?.any isDrive then resolveDots (atEnd ++ kept.drop 1) rest
    else if isTwoDots segment || isDot segment then resolveDots (atEnd ++ kept) rest
    else resolveDots (segment :: kept) rest

/-- The path that characters write, with a slash in front; no characters write no path. -/
def readPath (letters : List Char) : String :=
  if letters.isEmpty then ""
  else
    let body := if letters.head? == some '/' then letters.drop 1 else letters
    let encoded := Text.percentEncode pathReserved body
    String.ofList ('/' :: ['/'].intercalate (resolveDots [] (encoded.splitOn '/')))

/-- The location with its path and its query; what follows a hash sign is left out. -/
def withRest (url : Url) (letters : List Char) : Url :=
  let body := letters.takeWhile (· != '#')
  let path := body.takeWhile (· != '?')
  let query := (body.dropWhile (· != '?')).tail?
  { url with
    path := readPath path
    query := query.map fun written => String.ofList (Text.percentEncode queryReserved written) }

/-! ### The whole -/

/-- What follows the slashes in front of an authority; nothing where there are none. -/
def afterSlashes? (kind : SchemeKind) (letters : List Char) : Option (List Char) :=
  match kind with
  | .free =>
    match letters with
    | '/' :: '/' :: rest => some rest
    | _ => none
  | _ => some (letters.dropWhile fun letter => letter = '/' || letter = '\\')

/-- The location of a file, whose authority is a host alone, or nothing. -/
def readFile? (scheme : String) (letters : List Char) : Option Url :=
  let isSlash := fun (letter : Char) => letter = '/' || letter = '\\'
  match letters with
  | first :: second :: rest =>
    if isSlash first && isSlash second then
      let host := rest.takeWhile fun letter => !endsAuthority .file letter
      let isDriveName := host.length = 2 && isDrive host
      if host.isEmpty || isDriveName || isMachineHost host then some { scheme } else none
    else some { scheme }
  | _ => some { scheme }

/-- The location that a text writes. -/
def parse? (text : String) : Option Url := do
  let (scheme, letters) ← readScheme (cleaned text)
  let kind := SchemeKind.of scheme
  if kind = .file then readFile? scheme letters
  else match afterSlashes? kind letters with
    | none => some { scheme }
    | some rest =>
      let authority := rest.takeWhile fun letter => !endsAuthority kind letter
      let others := rest.drop authority.length
      let (url, left) ← readAuthority kind scheme authority others.isEmpty
      some (url.withRest (left ++ others))

/-! ### Query -/

/-- A name or a value of a query: a plus is a blank, and what is encoded is taken back. -/
def decodedField (letters : List Char) : String :=
  let blanks := letters.map fun letter => if letter = '+' then ' ' else letter
  String.ofList (Text.decodeUtf8 (Text.percentDecode blanks))

/-- The pair that a part of a query writes. -/
def queryPair (letters : List Char) : String × String :=
  (decodedField (letters.takeWhile (· != '=')),
    decodedField ((letters.dropWhile (· != '=')).drop 1))

/-- The pairs of the query in order. -/
def queryPairs (url : Url) : List (String × String) :=
  let parts := (url.query.getD "").toList.splitOn '&'
  (parts.filter fun part => !part.isEmpty).map queryPair

end Url

end OracleSql
