/-
This file reads written pieces as tokens, the way a server does. A word, a quoted name, a literal
and a marker are one token each, and so are a parenthesis and any other sign; blanks and comments
are none. A quote written twice in a literal or a name makes two tokens of it that stand side by
side, which no later rule tells from one.

The scanner goes over the letters one by one. What it does with texts in a row comes from what it
does with each, as long as they are kept apart: a text that ends between two tokens does not change
the next one, and a blank, a comma or a parenthesis ends whatever token can end there.
-/

import OracleSql.Template
import Mathlib.Data.List.Forall2

namespace OracleSql

/-! ### Tokens -/

/-- A sign of a written text: a letter, or the marker of a piece that is not text. -/
inductive Glyph where
  | letter (letter : Char)
  | marker (piece : Piece)

/-- The signs of a text. -/
def letters (text : String) : List Glyph :=
  text.toList.map .letter

/-- The signs of a piece. -/
def Piece.glyphs : Piece → List Glyph
  | .text sql => letters sql
  | piece => [.marker piece]

/-- A token of a statement. -/
inductive Token where
  | word (letters : List Char)
  | name (letters : List Char)
  | literal (letters : List Char)
  | marker (piece : Piece)
  | opening
  | closing
  /-- Any other letter that is not blank. -/
  | sign (letter : Char)
  deriving DecidableEq

/-- Whether the token is the keyword, in upper or lower case. -/
def Token.isKeyword (keyword : String) : Token → Bool
  | word letters => Text.sameFolded (String.ofList letters) keyword
  | _ => false

/-! ### Scanning -/

/-- Where a scanner stands in a text, and the letters of an unfinished token. -/
inductive Scanner where
  /-- Between two tokens. -/
  | between
  | afterMarker
  /-- Inside letters that would change the name of the marker before them. -/
  | runOn
  | inWord (letters : List Char)
  | inName (letters : List Char)
  | inLiteral (letters : List Char)
  /-- At the bracket of a literal with alternative quotes. -/
  | atBracket
  | inAlternative (bracket : Char) (letters : List Char)
  /-- After a closing bracket inside a literal with alternative quotes. -/
  | afterBracket (bracket : Char) (letters : List Char)
  | afterMinus
  | inLineComment
  | afterSlash
  | inBlockComment
  /-- After a star inside a comment. -/
  | afterStar

namespace Scanner

/-- The token that the text makes if it stops here. It cannot stop inside a literal, a quoted name
or a comment. -/
def stop : Scanner → Option (List Token)
  | between => some []
  | afterMarker => some []
  | inWord letters => some [.word letters]
  | afterMinus => some [.sign '-']
  | afterSlash => some [.sign '/']
  | _ => none

/-- Whether a quote after the word starts a literal with alternative quotes. -/
def opensAlternative (letters : List Char) : Bool :=
  Text.memFolded (String.ofList letters) ["q", "nq"]

/-- What a letter does that goes on with the token before it, if it does. -/
def proceed : Scanner → Char → Option (List Token × Scanner)
  | between, _ => none
  | afterMarker, letter => if Marker.isIdentifierChar letter then some ([], runOn) else none
  | runOn, _ => some ([], runOn)
  | inWord letters, letter =>
    if Marker.isIdentifierChar letter then some ([], inWord (letters ++ [letter]))
    else if letter = '\'' ∧ opensAlternative letters then some ([], atBracket)
    else none
  | inName letters, letter =>
    some (if letter = '"' then ([.name letters], between) else ([], inName (letters ++ [letter])))
  | inLiteral letters, letter =>
    some (if letter = '\'' then ([.literal letters], between)
      else ([], inLiteral (letters ++ [letter])))
  | atBracket, letter => some ([], inAlternative (Marker.closingMate letter) [])
  | inAlternative bracket letters, letter =>
    some ([], if letter = bracket then afterBracket bracket letters
      else inAlternative bracket (letters ++ [letter]))
  | afterBracket bracket letters, letter =>
    some (if letter = '\'' then ([.literal letters], between)
      else if letter = bracket then ([], afterBracket bracket (letters ++ [bracket]))
      else ([], inAlternative bracket (letters ++ [bracket, letter])))
  | afterMinus, letter => if letter = '-' then some ([], inLineComment) else none
  | inLineComment, letter => some ([], if letter = '\n' then between else inLineComment)
  | afterSlash, letter => if letter = '*' then some ([], inBlockComment) else none
  | inBlockComment, letter => some ([], if letter = '*' then afterStar else inBlockComment)
  | afterStar, letter =>
    some ([], if letter = '/' then between
      else if letter = '*' then afterStar else inBlockComment)

/-- What a letter does between two tokens. -/
def start (letter : Char) : List Token × Scanner :=
  if letter.isWhitespace then ([], between)
  else if letter = '(' then ([.opening], between)
  else if letter = ')' then ([.closing], between)
  else if letter = '"' then ([], inName [])
  else if letter = '\'' then ([], inLiteral [])
  else if letter = '-' then ([], afterMinus)
  else if letter = '/' then ([], afterSlash)
  else if Marker.isIdentifierChar letter then ([], inWord [letter])
  else ([.sign letter], between)

/-- The tokens that one more sign completes, and where the scanner stands after it. -/
def step (scanner : Scanner) : Glyph → Option (List Token × Scanner)
  | .letter letter =>
    match scanner.proceed letter with
    | some moved => some moved
    | none => scanner.stop.map fun last => (last ++ (start letter).1, (start letter).2)
  | .marker piece => scanner.stop.map fun last => (last ++ [.marker piece], afterMarker)

/-- The tokens that signs complete, and where the scanner stands after them. -/
def scan (scanner : Scanner) : List Glyph → Option (List Token × Scanner)
  | [] => some ([], scanner)
  | glyph :: rest => do
    let (made, next) ← scanner.step glyph
    let (others, final) ← next.scan rest
    some (made ++ others, final)

end Scanner

/-- The tokens of signs, unless they stop inside one. -/
def tokens? (glyphs : List Glyph) : Option (List Token) := do
  let (made, final) ← Scanner.between.scan glyphs
  let last ← final.stop
  some (made ++ last)

/-! ### Texts in a row -/

namespace Scanner

variable {scanner next final : Scanner} {first second : List Glyph} {made others : List Token}

theorem scan_append (one : scanner.scan first = some (made, next))
    (two : next.scan second = some (others, final)) :
    scanner.scan (first ++ second) = some (made ++ others, final) := by
  induction first generalizing scanner made with
  | nil =>
    cases one
    exact two
  | cons glyph rest inductionHypothesis =>
    simp only [scan, Option.bind_eq_bind, Option.bind_eq_some_iff] at one
    obtain ⟨⟨head, moved⟩, stepped, ⟨tail, ended⟩, scanned, same⟩ := one
    cases same
    rw [List.cons_append, scan, stepped]
    simp only [Option.bind_eq_bind, Option.bind_some, inductionHypothesis scanned,
      List.append_assoc]

/-- The letters that end whatever token can end before them. -/
def separators : List Char := [' ', ',', ')']

theorem step_separator {letter : Char} (separates : letter ∈ separators) {last : List Token}
    (stops : scanner.stop = some last) :
    scanner.step (.letter letter) = some (last ++ (start letter).1, (start letter).2) := by
  have ended : scanner.proceed letter = none := by
    simp only [separators, List.mem_cons, List.not_mem_nil, or_false] at separates
    cases scanner with
    | between => rfl
    | afterMarker => rcases separates with rfl | rfl | rfl <;> rfl
    | inWord letters => rcases separates with rfl | rfl | rfl <;> rfl
    | afterMinus => rcases separates with rfl | rfl | rfl <;> rfl
    | afterSlash => rcases separates with rfl | rfl | rfl <;> rfl
    | _ => cases stops
  rw [step, ended, stops]
  rfl

end Scanner

theorem tokens?_eq_some {glyphs : List Glyph} {tokens : List Token} :
    tokens? glyphs = some tokens ↔
      ∃ made final last, Scanner.between.scan glyphs = some (made, final) ∧
        final.stop = some last ∧ made ++ last = tokens := by
  simp only [tokens?, Option.bind_eq_bind, Option.bind_eq_some_iff, Option.some.injEq, Prod.exists]
  constructor
  · rintro ⟨made, final, scanned, last, stopped, same⟩
    exact ⟨made, final, last, scanned, stopped, same⟩
  · rintro ⟨made, final, last, scanned, stopped, same⟩
    exact ⟨made, final, scanned, last, stopped, same⟩

section Rows

variable {first second : List Glyph} {made others : List Token}

/-- A text that ends between two tokens makes its tokens. -/
theorem tokens?_of_scan (scanned : Scanner.between.scan first = some (made, .between)) :
    tokens? first = some made :=
  tokens?_eq_some.mpr ⟨made, .between, [], scanned, rfl, List.append_nil made⟩

/-- A text that ends between two tokens leaves those of the next text as they are. -/
theorem tokens?_append (one : Scanner.between.scan first = some (made, .between))
    (two : tokens? second = some others) : tokens? (first ++ second) = some (made ++ others) := by
  obtain ⟨more, final, last, scanned, stopped, rfl⟩ := tokens?_eq_some.mp two
  exact tokens?_eq_some.mpr ⟨made ++ more, final, last, Scanner.scan_append one scanned, stopped,
    List.append_assoc made more last⟩

/-- A text that starts with a separator leaves the tokens of the text before it as they are. -/
theorem scan_separated {letter : Char} {final : Scanner} (one : tokens? first = some made)
    (separates : letter ∈ Scanner.separators)
    (two : Scanner.between.scan (.letter letter :: second) = some (others, final)) :
    Scanner.between.scan (first ++ .letter letter :: second) = some (made ++ others, final) := by
  obtain ⟨more, stopping, last, scanned, stopped, rfl⟩ := tokens?_eq_some.mp one
  rw [List.append_assoc]
  refine Scanner.scan_append scanned ?_
  rw [Scanner.scan, Scanner.step_separator separates rfl] at two
  rw [Scanner.scan, Scanner.step_separator separates stopped]
  simp only [Option.bind_eq_bind, Option.bind_some, Option.bind_eq_some_iff, Option.some.injEq,
    Prod.mk.injEq, Prod.exists, List.nil_append] at two ⊢
  obtain ⟨tail, ended, tailScanned, rfl, rfl⟩ := two
  exact ⟨tail, ended, tailScanned, List.append_assoc _ _ _, rfl⟩

end Rows

/-! ### Pieces in a row -/

/-- Pieces between an opening text and a closing parenthesis make their own tokens. -/
theorem scan_enclosed {opening : String} {pieces : List Piece} {made tokens : List Token}
    (opened : Scanner.between.scan (letters opening) = some (made, .between))
    (inner : tokens? (pieces.flatMap Piece.glyphs) = some tokens) :
    Scanner.between.scan ((Piece.enclosed opening ")" pieces).flatMap Piece.glyphs) =
      some (made ++ (tokens ++ [.closing]), .between) := by
  rw [Piece.enclosed, List.flatMap_cons, List.flatMap_append, List.flatMap_singleton]
  exact Scanner.scan_append opened (scan_separated inner (by decide) rfl)

/-- Pieces in a row make their own tokens, if a text stands between them that keeps them apart. -/
theorem tokens?_join {separator : String} {letter : Char} {more : List Glyph} {made : List Token}
    (spelled : letters separator = .letter letter :: more)
    (separates : letter ∈ Scanner.separators)
    (scanned : Scanner.between.scan (letters separator) = some (made, .between))
    {lists : List (List Piece)} {tokens : List (List Token)}
    (each : List.Forall₂
      (fun pieces own => tokens? (pieces.flatMap Piece.glyphs) = some own) lists tokens) :
    tokens? ((Piece.join separator lists).flatMap Piece.glyphs) =
      some (List.intercalate made tokens) := by
  induction each with
  | nil => rfl
  | @cons pieces own rest others head tail inductionHypothesis =>
    cases tail with
    | nil =>
      rw [List.intercalate_singleton]
      exact head
    | cons next further =>
      rw [Piece.join, List.flatMap_append, List.flatMap_cons, Piece.glyphs,
        List.intercalate_cons_cons, ← List.append_assoc]
      · refine tokens?_append ?_ inductionHypothesis
        rw [spelled] at scanned ⊢
        exact scan_separated head separates scanned
      · exact List.cons_ne_nil _ _

end OracleSql
