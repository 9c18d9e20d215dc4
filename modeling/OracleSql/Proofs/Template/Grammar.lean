/-
This file says what a template is made of, without its reader. From left to right a template is a
row of constructs: a literal or a quoted identifier, in which a quote is written twice; a literal
with alternative quotes; a comment; a marker; or one other character. What a character means
depends on what stands before it: a `q` inside an identifier opens no literal, an `@` after an
identifier is a database link, and a colon after a colon is no marker. A construct reaches to its
first closing, and a name as far as it goes; where nothing closes, the template leaves it open.
-/

import OracleSql.Marker
import Mathlib.Data.List.TakeWhile

namespace OracleSql.Marker

/-! ### Constructs -/

/-- What a template is made of. -/
inductive Construct where
  | literal (body : List Char)
  | identifier (body : List Char)
  /-- A literal such as `q'[…]'`, with the letter it starts with and the opening bracket. -/
  | alternative (letter opening : Char) (body : List Char)
  /-- A comment up to the end of its line, or to the end of the template. -/
  | lineComment (body : List Char) (ended : Bool)
  | blockComment (body : List Char)
  | positional
  | named (name : List Char)
  | native (name : List Char)
  | other (letter : Char)
  deriving DecidableEq

namespace Construct

/-- A construct as the template writes it. -/
def written : Construct → List Char
  | literal body => '\'' :: (body ++ ['\''])
  | identifier body => '"' :: (body ++ ['"'])
  | alternative letter opening body =>
    letter :: '\'' :: opening :: (body ++ [closingMate opening, '\''])
  | lineComment body true => '-' :: '-' :: (body ++ ['\n'])
  | lineComment body false => '-' :: '-' :: body
  | blockComment body => '/' :: '*' :: (body ++ ['*', '/'])
  | positional => ['?']
  | named name => '@' :: name
  | native name => ':' :: name
  | other letter => [letter]

/-- What is to be read of a construct: a marker of its kind, or its text. -/
def lexeme : Construct → Lexeme
  | positional => .positional
  | named name => .named name
  | native name => .native name
  | construct => .text construct.written

/-- The kind of the lexeme of a construct. -/
def kind : Construct → Kind
  | positional => .positional
  | named _ => .named
  | native _ => .native
  | _ => .text

theorem lexeme_written (construct : Construct) : construct.lexeme.written = construct.written := by
  cases construct <;> rfl

theorem written_eq_cons (construct : Construct) :
    ∃ letter more, construct.written = letter :: more ∧
      Lexeme.ofKind letter more construct.kind = construct.lexeme := by
  cases construct with
  | lineComment body ended => cases ended <;> exact ⟨_, _, rfl, rfl⟩
  | _ => exact ⟨_, _, rfl, rfl⟩

end Construct

/-! ### Where constructs begin -/

/-- No identifier ends right after these characters. -/
def Unattached (preceding : List Char) : Prop :=
  ∀ letter ∈ preceding.getLast?, isIdentifierChar letter = false

/-- A literal with alternative quotes can start after these characters: outside an identifier, or
after the letter of a national literal that stands by itself. -/
def AdmitsAlternative (preceding : List Char) : Prop :=
  Unattached preceding ∨
    ∃ front letter, preceding = front ++ [letter] ∧ (letter = 'n' ∨ letter = 'N') ∧ Unattached front

/-- A portable name can start after these characters. -/
def AdmitsNamed (preceding : List Char) : Prop :=
  Unattached preceding ∧ preceding.getLast? ≠ some '"'

/-- A native marker can start after these characters. -/
def AdmitsNative (preceding : List Char) : Prop :=
  Unattached preceding ∧ preceding.getLast? ≠ some ':'

/-- More than a single character begins with these letters, after what precedes. -/
inductive Opens (preceding : List Char) : List Char → Prop
  | literal (rest : List Char) : Opens preceding ('\'' :: rest)
  | identifier (rest : List Char) : Opens preceding ('"' :: rest)
  | alternative {letter : Char} (rest : List Char) (starts : letter = 'q' ∨ letter = 'Q')
      (admits : AdmitsAlternative preceding) : Opens preceding (letter :: '\'' :: rest)
  | lineComment (rest : List Char) : Opens preceding ('-' :: '-' :: rest)
  | blockComment (rest : List Char) : Opens preceding ('/' :: '*' :: rest)
  | positional (rest : List Char) : Opens preceding ('?' :: rest)
  | named {first : Char} (rest : List Char) (starts : isNameStart first = true)
      (admits : AdmitsNamed preceding) : Opens preceding ('@' :: first :: rest)
  | native {first : Char} (rest : List Char) (starts : isNameChar first = true)
      (admits : AdmitsNative preceding) : Opens preceding (':' :: first :: rest)

theorem isNameChar_of_isNameStart {letter : Char} (starts : isNameStart letter = true) :
    isNameChar letter = true := by
  rw [isNameStart, Bool.or_eq_true] at starts
  rcases starts with alpha | underscore
  · simp [isNameChar, Char.isAlphanum, alpha]
  · simp [isNameChar, underscore]

/-! ### How far constructs reach -/

/-- The texts in which every quote is written twice. -/
inductive Escaped (quote : Char) : List Char → Prop
  | nil : Escaped quote []
  | letter {letter : Char} {body : List Char} (differs : letter ≠ quote)
      (more : Escaped quote body) : Escaped quote (letter :: body)
  | doubled {body : List Char} (more : Escaped quote body) : Escaped quote (quote :: quote :: body)

/-- The characters make up a whole name before what follows. -/
def IsName (name following : List Char) : Prop :=
  (∀ letter ∈ name, isNameChar letter = true) ∧
    ∀ letter ∈ following.head?, isNameChar letter = false

/-- The construct is what stands between the preceding and the following characters. -/
def Construct.Fits (preceding : List Char) (construct : Construct) (following : List Char) : Prop :=
  match construct with
  | literal body => Escaped '\'' body ∧ following.head? ≠ some '\''
  | identifier body => Escaped '"' body ∧ following.head? ≠ some '"'
  | alternative letter opening body =>
    (letter = 'q' ∨ letter = 'Q') ∧ AdmitsAlternative preceding ∧
      ¬ [closingMate opening, '\''] <:+: body ++ [closingMate opening]
  | lineComment body ended => '\n' ∉ body ∧ (ended = false → following = [])
  | blockComment body => ¬ ['*', '/'] <:+: body ++ ['*']
  | positional => True
  | named name =>
    (∃ first more, name = first :: more ∧ isNameStart first = true) ∧ IsName name following ∧
      AdmitsNamed preceding
  | native name => name ≠ [] ∧ IsName name following ∧ AdmitsNative preceding
  | other letter => ¬ Opens preceding (letter :: following)

/-- The letters begin a construct of this sort, and it is closed nowhere. -/
def LeftOpen (preceding letters : List Char) : Unterminated → Prop
  | .stringLiteral => ∃ body, letters = '\'' :: body ∧ Escaped '\'' body
  | .quotedIdentifier => ∃ body, letters = '"' :: body ∧ Escaped '"' body
  | .alternativeLiteral =>
    ∃ letter body, letters = letter :: '\'' :: body ∧ (letter = 'q' ∨ letter = 'Q') ∧
      AdmitsAlternative preceding ∧
      ∀ opening more, body = opening :: more → ¬ [closingMate opening, '\''] <:+: more
  | .blockComment => ∃ body, letters = '/' :: '*' :: body ∧ ¬ ['*', '/'] <:+: body

/-- The constructs stand in a row between the preceding and the following characters, each where it
fits. -/
def Reads (preceding : List Char) : List Construct → List Char → Prop
  | [], _ => True
  | construct :: more, following =>
    construct.Fits preceding (more.flatMap Construct.written ++ following) ∧
      Reads (preceding ++ construct.written) more following

/-! ### Closings -/

/-- After an opening quote there is a closing one, or every quote is doubled. -/
theorem escaped_or_closed (quote : Char) (letters : List Char) :
    Escaped quote letters ∨ ∃ body following, letters = body ++ quote :: following ∧
      Escaped quote body ∧ following.head? ≠ some quote := by
  match letters with
  | [] => exact Or.inl .nil
  | [letter] =>
    by_cases same : letter = quote
    · subst same
      exact Or.inr ⟨[], [], rfl, .nil, by simp⟩
    · exact Or.inl (.letter same .nil)
  | letter :: next :: rest =>
    by_cases same : letter = quote
    · subst same
      by_cases twice : next = letter
      · subst twice
        rcases escaped_or_closed next rest with escaped | ⟨body, following, rfl, escaped, ahead⟩
        · exact Or.inl (.doubled escaped)
        · exact Or.inr ⟨next :: next :: body, following, rfl, .doubled escaped, ahead⟩
      · exact Or.inr ⟨[], next :: rest, rfl, .nil, fun head => twice (Option.some.inj head)⟩
    · rcases escaped_or_closed quote (next :: rest) with
        escaped | ⟨body, following, split, escaped, ahead⟩
      · exact Or.inl (.letter same escaped)
      · exact Or.inr ⟨letter :: body, following, congrArg (letter :: ·) split,
          .letter same escaped, ahead⟩

/-- Two characters stand nowhere in a row, or there is a first place where they do. -/
theorem infix_or_first (first second : Char) (letters : List Char) :
    ¬ [first, second] <:+: letters ∨
      ∃ body following, letters = body ++ first :: second :: following ∧
        ¬ [first, second] <:+: body ++ [first] := by
  induction letters with
  | nil => exact Or.inl (by simp)
  | cons letter rest inductionHypothesis =>
    by_cases here : [first, second] <+: letter :: rest
    · obtain ⟨following, split⟩ := here
      refine Or.inr ⟨[], following, split.symm, fun inside => ?_⟩
      have short := inside.length_le
      simp at short
    · rcases inductionHypothesis with nowhere | ⟨body, following, rfl, before⟩
      · refine Or.inl fun inside => ?_
        rcases List.infix_cons_iff.mp inside with atOnce | later
        · exact here atOnce
        · exact nowhere later
      · refine Or.inr ⟨letter :: body, following, rfl, fun inside => ?_⟩
        rcases List.infix_cons_iff.mp inside with atOnce | later
        · refine here (atOnce.trans ⟨second :: following, ?_⟩)
          simp
        · exact before later

/-- Letters begin with a name, maybe an empty one. -/
theorem exists_isName (letters : List Char) :
    ∃ name following, letters = name ++ following ∧ IsName name following := by
  refine ⟨letters.takeWhile isNameChar, letters.dropWhile isNameChar,
    List.takeWhile_append_dropWhile.symm,
    fun letter member => List.mem_takeWhile_imp member, fun letter member => ?_⟩
  have stopped := List.head?_dropWhile_not isNameChar letters
  rw [Option.mem_def.mp member] at stopped
  exact stopped

/-! ### Every place has a construct -/

/-- At every place that is not the end a construct fits, or one is left open. -/
theorem exists_fits (preceding : List Char) (letter : Char) (rest : List Char) :
    (∃ (construct : Construct) (following : List Char),
      letter :: rest = construct.written ++ following ∧
      construct.Fits preceding following) ∨
      ∃ opened, LeftOpen preceding (letter :: rest) opened := by
  by_cases opens : Opens preceding (letter :: rest)
  · cases opens with
    | literal rest =>
      rcases escaped_or_closed '\'' rest with escaped | ⟨body, following, rfl, escaped, ahead⟩
      · exact Or.inr ⟨.stringLiteral, rest, rfl, escaped⟩
      · exact Or.inl ⟨.literal body, following, by simp [Construct.written], escaped, ahead⟩
    | identifier rest =>
      rcases escaped_or_closed '"' rest with escaped | ⟨body, following, rfl, escaped, ahead⟩
      · exact Or.inr ⟨.quotedIdentifier, rest, rfl, escaped⟩
      · exact Or.inl ⟨.identifier body, following, by simp [Construct.written], escaped, ahead⟩
    | alternative rest starts admits =>
      cases rest with
      | nil =>
        exact Or.inr ⟨.alternativeLiteral, letter, [], rfl, starts, admits,
          fun _ _ same => by cases same⟩
      | cons opening more =>
        rcases infix_or_first (closingMate opening) '\'' more with
          nowhere | ⟨body, following, rfl, before⟩
        · refine Or.inr ⟨.alternativeLiteral, letter, opening :: more, rfl, starts, admits, ?_⟩
          rintro _ _ ⟨⟩
          exact nowhere
        · exact Or.inl ⟨.alternative letter opening body, following, by simp [Construct.written],
            starts, admits, before⟩
    | lineComment rest =>
      by_cases ended : '\n' ∈ rest
      · obtain ⟨body, following, rfl, first⟩ := List.eq_append_cons_of_mem ended
        exact Or.inl ⟨.lineComment body true, following, by simp [Construct.written], first,
          fun never => by cases never⟩
      · exact Or.inl ⟨.lineComment rest false, [], by simp [Construct.written], ended, fun _ => rfl⟩
    | blockComment rest =>
      rcases infix_or_first '*' '/' rest with nowhere | ⟨body, following, rfl, before⟩
      · exact Or.inr ⟨.blockComment, rest, rfl, nowhere⟩
      · exact Or.inl ⟨.blockComment body, following, by simp [Construct.written], before⟩
    | positional rest => exact Or.inl ⟨.positional, rest, rfl, trivial⟩
    | @named first rest starts admits =>
      obtain ⟨name, following, rfl, each, ahead⟩ := exists_isName rest
      have letters : ∀ letter ∈ first :: name, isNameChar letter = true :=
        List.forall_mem_cons.mpr ⟨isNameChar_of_isNameStart starts, each⟩
      exact Or.inl ⟨.named (first :: name), following, rfl, ⟨first, name, rfl, starts⟩,
        ⟨letters, ahead⟩, admits⟩
    | @native first rest starts admits =>
      obtain ⟨name, following, rfl, each, ahead⟩ := exists_isName rest
      exact Or.inl ⟨.native (first :: name), following, rfl, List.cons_ne_nil _ _,
        ⟨List.forall_mem_cons.mpr ⟨starts, each⟩, ahead⟩, admits⟩
  · exact Or.inl ⟨.other letter, rest, rfl, opens⟩

end OracleSql.Marker
