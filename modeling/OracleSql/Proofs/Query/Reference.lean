/-
This file says how a reference to a table is taken apart. A blank divides it only where no quote is
open, which is where the quotes before the blank come in pairs. `Divides` takes letters apart in
this way: blanks and words in turn, each word reaching up to the next blank outside quotes or to the
end. A text has words just if no quote in it stays open, and then it is divided in one way only,
which the reader finds with the one piece of memory it has: whether a quote is open, and how far the
current word has come.

A reference is one name, or a name and an alias with or without the word `as` in some case between
them. It is written as the name, and the alias behind a space.
-/

import Mathlib.Algebra.Group.Nat.Even
import OracleSql.Proofs.Outcome
import OracleSql.Proofs.Styles.Names
import OracleSql.TableReference

namespace OracleSql

/-- A letter is its upper case, or the lower case of it. -/
theorem Text.eq_toUpper_or (letter : Char) :
    letter = letter.toUpper ∨ letter = letter.toUpper.toLower := by
  by_cases small : letter.toNat < 0x80
  · have each : ∀ code < 0x80, Char.ofNat code = (Char.ofNat code).toUpper ∨
        Char.ofNat code = (Char.ofNat code).toUpper.toLower := by decide
    have same := each _ small
    rwa [Char.ofNat_toNat] at same
  · exact .inl (toUpper_of_large small).symm

/-- A name is written just if it can be read. -/
theorem Dialect.namePiece_eq_ok_iff {dialect : Dialect} {name : String} {built : List Piece} :
    dialect.namePiece name = .ok built ↔
      ∃ identifier, Identifier.parse name = .ok identifier ∧
        built = [.text (identifier.render dialect)] := by
  rw [namePiece, map_eq_ok]
  simp only [nameText, Error.ofName, mapError_eq_ok, quote, map_eq_ok]
  constructor
  · rintro ⟨_, ⟨identifier, read, rfl⟩, rfl⟩
    exact ⟨identifier, read, rfl⟩
  · rintro ⟨identifier, read, rfl⟩
    exact ⟨_, ⟨identifier, read, rfl⟩, rfl⟩

namespace TableReference

/-! ### Words and blanks -/

/-- Whether a quote among the letters has no partner. -/
def leavesOpen (letters : List Char) : Bool := letters.count '"' % 2 == 1

/-- No blank stands where no quote is open. -/
def Unbroken (letters : List Char) : Prop :=
  ∀ front letter behind, letters = front ++ letter :: behind → Text.isBlank letter = true →
    leavesOpen front = true

/-- A word of a reference. -/
structure IsWord (word : List Char) : Prop where
  present : word ≠ []
  closed : leavesOpen word = false
  unbroken : Unbroken word

/-- The letters are words with blanks around them. A word goes on up to a blank or to the end. Since
blanks and words leave no quote open, whether a blank in a word stands outside quotes can be told
from the word alone. -/
inductive Divides : List Char → List (List Char) → Prop where
  | blank {letters : List Char} (blank : ∀ letter ∈ letters, Text.isBlank letter = true) :
    Divides letters []
  | word {blanks word rest : List Char} {words : List (List Char)}
    (blank : ∀ letter ∈ blanks, Text.isBlank letter = true) (isWord : IsWord word)
    (stop : ∀ mark ∈ rest.head?, Text.isBlank mark = true) (more : Divides rest words) :
    Divides (blanks ++ (word ++ rest)) (word :: words)

theorem leavesOpen_eq_false_iff {letters : List Char} :
    leavesOpen letters = false ↔ Even (letters.count '"') := by
  rw [leavesOpen, Nat.even_iff, beq_eq_false_iff_ne]
  omega

theorem leavesOpen_cons (letter : Char) (letters : List Char) :
    leavesOpen (letter :: letters) =
      if letter = '"' then !leavesOpen letters else leavesOpen letters := by
  unfold leavesOpen
  split
  next quote =>
    rw [quote, List.count_cons_self]
    grind
  next other => rw [List.count_cons_of_ne other]

theorem leavesOpen_concat (letters : List Char) (letter : Char) :
    leavesOpen (letters ++ [letter]) =
      if letter = '"' then !leavesOpen letters else leavesOpen letters := by
  rw [← leavesOpen_cons, leavesOpen, leavesOpen,
    (List.perm_append_singleton letter letters).count_eq]

theorem unbroken_nil : Unbroken [] := fun front letter behind split => by simp at split

/-- One more letter breaks letters just if it is a blank where no quote is open. -/
theorem unbroken_concat_iff {letters : List Char} {letter : Char} :
    Unbroken (letters ++ [letter]) ↔
      Unbroken letters ∧ (Text.isBlank letter = true → leavesOpen letters = true) := by
  constructor
  · intro unbroken
    refine ⟨fun front other behind split blank => ?_, unbroken letters letter [] rfl⟩
    refine unbroken front other (behind ++ [letter]) ?_ blank
    rw [split, List.append_assoc, List.cons_append]
  · rintro ⟨unbroken, last⟩ front other behind split blank
    rcases List.eq_nil_or_concat behind with rfl | ⟨inner, mark, rfl⟩
    · obtain ⟨rfl, same⟩ := List.append_inj' split rfl
      obtain rfl := (List.cons.inj same).1
      exact last blank
    · rw [List.concat_eq_append, ← List.cons_append, ← List.append_assoc] at split
      exact unbroken front other inner (List.append_inj' split rfl).1 blank

/-- Blanks in front of a divided text make no difference. -/
theorem Divides.cons_blank {letter : Char} {letters : List Char} {words : List (List Char)}
    (blank : Text.isBlank letter = true) (divides : Divides letters words) :
    Divides (letter :: letters) words := by
  cases divides with
  | blank others => exact .blank (List.forall_mem_cons.mpr ⟨blank, others⟩)
  | word others isWord stop more =>
    exact @word (letter :: _) _ _ _ (List.forall_mem_cons.mpr ⟨blank, others⟩) isWord stop more

/-! ### Reading -/

theorem ne_quote_of_isBlank {letter : Char} (blank : Text.isBlank letter = true) :
    letter ≠ '"' := by
  rintro rfl
  exact absurd blank (by decide)

/-- A text is read to its end just if no quote is left open. -/
theorem isSome_wordsFrom (quoted : Bool) (word letters : List Char) :
    (wordsFrom quoted word letters).isSome = (quoted == leavesOpen letters) := by
  induction letters generalizing quoted word with
  | nil => cases quoted <;> rfl
  | cons letter rest inductionHypothesis =>
    rw [wordsFrom, leavesOpen_cons]
    split
    next quote =>
      rw [inductionHypothesis]
      cases quoted <;> cases leavesOpen rest <;> rfl
    next other =>
      split
      next blank =>
        obtain ⟨outside, -⟩ := (Bool.and_eq_true _ _).mp blank
        obtain rfl := (Bool.not_eq_true' _).mp outside
        rw [Option.isSome_map, inductionHypothesis]
      next => rw [inductionHypothesis]

/-- What has been read of a word goes on with a letter that does not break it. -/
theorem wordsFrom_cons {front : List Char} {letter : Char}
    (unbroken : Unbroken (front ++ [letter])) (rest : List Char) :
    wordsFrom (leavesOpen front) front (letter :: rest) =
      wordsFrom (leavesOpen (front ++ [letter])) (front ++ [letter]) rest := by
  have inside := (unbroken_concat_iff.mp unbroken).2
  rw [wordsFrom, leavesOpen_concat]
  split
  next => rfl
  next =>
    rw [if_neg]
    rintro blank
    obtain ⟨outside, blank⟩ := (Bool.and_eq_true _ _).mp blank
    simp [inside blank] at outside

/-- A word is read letter by letter. -/
theorem wordsFrom_append {word : List Char} (unbroken : Unbroken word) (rest : List Char) :
    wordsFrom false [] (word ++ rest) = wordsFrom (leavesOpen word) word rest := by
  induction word using List.reverseRecOn generalizing rest with
  | nil => rfl
  | append_singleton front letter inductionHypothesis =>
    rw [List.append_assoc, inductionHypothesis (unbroken_concat_iff.mp unbroken).1]
    exact wordsFrom_cons unbroken rest

/-- A word ends at a blank and at the end of the text. -/
theorem wordsFrom_stop {word rest : List Char} (present : word ≠ [])
    (stop : ∀ mark ∈ rest.head?, Text.isBlank mark = true) :
    wordsFrom false word rest = (wordsFrom false [] rest).map (word :: ·) := by
  cases rest with
  | nil => simp [wordsFrom, present]
  | cons mark others =>
    have blank := stop mark rfl
    simp [wordsFrom, ne_quote_of_isBlank blank, blank, present]

/-- Blanks in front of a word are skipped. -/
theorem wordsFrom_blanks {blanks : List Char}
    (blank : ∀ letter ∈ blanks, Text.isBlank letter = true) (letters : List Char) :
    wordsFrom false [] (blanks ++ letters) = wordsFrom false [] letters := by
  induction blanks with
  | nil => rfl
  | cons letter rest inductionHypothesis =>
    obtain ⟨first, others⟩ := List.forall_mem_cons.mp blank
    have skipped := inductionHypothesis others
    simpa [wordsFrom, ne_quote_of_isBlank first, first] using skipped

/-- The words of a divided text are read. -/
theorem Divides.wordsFrom_eq {letters : List Char} {words : List (List Char)}
    (divides : Divides letters words) : wordsFrom false [] letters = some words := by
  induction divides with
  | @blank letters blank =>
    have skipped := wordsFrom_blanks blank []
    rw [List.append_nil] at skipped
    exact skipped
  | word blank isWord stop _ inductionHypothesis =>
    rw [wordsFrom_blanks blank, wordsFrom_append isWord.unbroken, isWord.closed,
      wordsFrom_stop isWord.present stop, inductionHypothesis]
    rfl

/-- What is read divides the text: the word that has been begun is kept unbroken. -/
theorem divides_of_wordsFrom {front letters : List Char} {words : List (List Char)}
    (unbroken : Unbroken front) (read : wordsFrom (leavesOpen front) front letters = some words) :
    Divides (front ++ letters) words := by
  induction letters generalizing front words with
  | nil =>
    rw [wordsFrom] at read
    split at read
    next => cases read
    next closed =>
      rw [List.append_nil]
      obtain rfl := Option.some.inj read
      by_cases begun : front = []
      · rw [begun]
        exact .blank (List.forall_mem_nil _)
      · have single := @Divides.word [] front [] [] (List.forall_mem_nil _)
          ⟨begun, (Bool.not_eq_true _).mp closed, unbroken⟩ (by simp)
          (.blank (List.forall_mem_nil _))
        simpa [begun] using single
  | cons letter rest inductionHypothesis =>
    by_cases grown : Unbroken (front ++ [letter])
    · rw [wordsFrom_cons grown] at read
      have divides := inductionHypothesis grown read
      rwa [List.append_assoc] at divides
    · obtain ⟨blank, closed⟩ : Text.isBlank letter = true ∧ leavesOpen front = false := by
        simpa [unbroken_concat_iff, unbroken] using grown
      have stop : ∀ mark ∈ (letter :: rest).head?, Text.isBlank mark = true := by
        simpa using blank
      have skipped : wordsFrom false [] (letter :: rest) = wordsFrom false [] rest :=
        wordsFrom_blanks (List.forall_mem_singleton.mpr blank) rest
      rw [closed] at read
      by_cases begun : front = []
      · subst begun
        rw [skipped] at read
        exact (inductionHypothesis unbroken_nil read).cons_blank blank
      · rw [wordsFrom_stop begun stop, skipped] at read
        obtain ⟨others, found, rfl⟩ := Option.map_eq_some_iff.mp read
        exact @Divides.word [] front (letter :: rest) others (List.forall_mem_nil _)
          ⟨begun, closed, unbroken⟩ stop
          ((inductionHypothesis unbroken_nil found).cons_blank blank)

/-- A text has words just if no quote is left open. -/
theorem exists_words?_iff {text : String} :
    (∃ words, words? text = some words) ↔ Even (text.toList.count '"') := by
  rw [← Option.isSome_iff_exists, words?, Option.isSome_map, isSome_wordsFrom,
    ← leavesOpen_eq_false_iff, beq_iff_eq, eq_comm]

/-- The words of a text are those that it is divided into. -/
theorem words?_eq_some_iff {text : String} {words : List String} :
    words? text = some words ↔ Divides text.toList (words.map String.toList) := by
  rw [words?, Option.map_eq_some_iff]
  constructor
  · rintro ⟨found, read, rfl⟩
    have divides := divides_of_wordsFrom unbroken_nil read
    simpa [List.map_map, Function.comp_def] using divides
  · intro divides
    exact ⟨_, divides.wordsFrom_eq, by simp [List.map_map, Function.comp_def]⟩

/-! ### Names -/

/-- The word `as` in all its cases. -/
def keywords : List String := ["as", "aS", "As", "AS"]

/-- What the words of a reference name: a table, and an alias if there is one. -/
inductive Names : List String → Identifier → Option Identifier → Prop where
  | table {word : String} {table : Identifier} (read : Identifier.parse word = .ok table) :
    Names [word] table none
  | aliased {word other : String} {table short : Identifier}
    (read : Identifier.parse word = .ok table) (called : Identifier.parse other = .ok short) :
    Names [word, other] table (some short)
  | keyword {word keyword other : String} {table short : Identifier} (known : keyword ∈ keywords)
    (read : Identifier.parse word = .ok table) (called : Identifier.parse other = .ok short) :
    Names [word, keyword, other] table (some short)

theorem sameFolded_keyword_iff {keyword : String} :
    Text.sameFolded keyword "as" = true ↔ keyword ∈ keywords := by
  constructor
  · intro same
    have upper : keyword.toList.map Char.toUpper = ['A', 'S'] :=
      String.ofList_injective (Text.sameFolded_iff.mp same)
    obtain ⟨first, rest, split, firstUpper, others⟩ := List.map_eq_cons_iff.mp upper
    obtain ⟨second, rest, rfl, secondUpper, nothing⟩ := List.map_eq_cons_iff.mp others
    obtain rfl := List.map_eq_nil_iff.mp nothing
    rw [← String.ofList_toList (s := keyword), split]
    have initial := Text.eq_toUpper_or first
    have final := Text.eq_toUpper_or second
    rw [firstUpper] at initial
    rw [secondUpper] at final
    rcases initial with rfl | rfl <;> rcases final with rfl | rfl <;> decide
  · have each : ∀ keyword ∈ keywords, Text.sameFolded keyword "as" = true := by decide
    exact each keyword

/-! ### What is written -/

/-- What a reference writes: the table, and behind a space its alias. -/
def writtenText (dialect : Dialect) (table : Identifier) : Option Identifier → String
  | none => table.render dialect
  | some short => table.render dialect ++ " " ++ short.render dialect

/-- The pieces of what a reference writes. -/
def writtenPieces (dialect : Dialect) (table : Identifier) : Option Identifier → List Piece
  | none => [.text (table.render dialect)]
  | some short => [.text (table.render dialect), .text " ", .text (short.render dialect)]

variable {dialect : Dialect} {built : List Piece}

theorem aliasedPieces_eq_ok_iff {name shortName : String} :
    aliasedPieces dialect name shortName = .ok built ↔
      ∃ table short, Identifier.parse name = .ok table ∧
        Identifier.parse shortName = .ok short ∧
        built = writtenPieces dialect table (some short) := by
  rw [aliasedPieces, bind_eq_ok]
  simp only [bind_eq_ok, Dialect.namePiece_eq_ok_iff]
  constructor
  · rintro ⟨_, ⟨table, read, rfl⟩, _, ⟨short, called, rfl⟩, same⟩
    exact ⟨table, short, read, called, (Except.ok.inj same).symm⟩
  · rintro ⟨table, short, read, called, rfl⟩
    exact ⟨_, ⟨table, read, rfl⟩, _, ⟨short, called, rfl⟩, rfl⟩

/-- A reference is written just if its words name a table. -/
theorem pieces_eq_ok_iff {text : String} :
    pieces dialect text = .ok built ↔
      ∃ words table short, words? text = some words ∧ Names words table short ∧
        built = writtenPieces dialect table short := by
  constructor
  · intro found
    unfold pieces at found
    split at found
    next => cases found
    next read =>
      obtain ⟨table, named, rfl⟩ := Dialect.namePiece_eq_ok_iff.mp found
      exact ⟨_, table, none, read, .table named, rfl⟩
    next read =>
      obtain ⟨table, short, named, called, rfl⟩ := aliasedPieces_eq_ok_iff.mp found
      exact ⟨_, table, some short, read, .aliased named called, rfl⟩
    next read =>
      split at found
      next known =>
        obtain ⟨table, short, named, called, rfl⟩ := aliasedPieces_eq_ok_iff.mp found
        exact ⟨_, table, some short, read,
          .keyword (sameFolded_keyword_iff.mp known) named called, rfl⟩
      next => cases found
    next => cases found
  · rintro ⟨words, table, short, read, names, rfl⟩
    rw [pieces, read]
    cases names with
    | table named => exact Dialect.namePiece_eq_ok_iff.mpr ⟨table, named, rfl⟩
    | aliased named called => exact aliasedPieces_eq_ok_iff.mpr ⟨_, _, named, called, rfl⟩
    | keyword known named called =>
      dsimp only
      rw [if_pos (sameFolded_keyword_iff.mpr known)]
      exact aliasedPieces_eq_ok_iff.mpr ⟨_, _, named, called, rfl⟩

/-- The pieces of a reference put its text behind what has been assembled. -/
theorem foldl_writtenPieces (style : MarkerStyle) (assembly : Assembly) (table : Identifier)
    (short : Option Identifier) :
    (writtenPieces dialect table short).foldl (Assembly.add style) assembly =
      { assembly with sql := assembly.sql ++ writtenText dialect table short } := by
  cases short with
  | none => rfl
  | some short => simp [writtenPieces, writtenText, Assembly.add, String.append_assoc]

/-- **References are taken apart exactly.** A text has words just if its quotes come in pairs. They
are what blanks outside quotes leave between them: words and blanks in a row are the text again, and
no blank in a word is outside quotes. A reference is written just if it has one or two words, or
three with `as` in some case in the middle, and the words for the table and the alias are names; it
writes the table as statements do, and the alias behind a space. -/
theorem pieces_exact (dialect : Dialect) (text : String) :
    ((∃ words, words? text = some words) ↔ Even (text.toList.count '"')) ∧
    (∀ words, words? text = some words ↔ Divides text.toList (words.map String.toList)) ∧
    ((∃ built, pieces dialect text = .ok built) ↔
      ∃ words table short, words? text = some words ∧ Names words table short) ∧
    ∀ words table short, words? text = some words → Names words table short →
      ∃ built, pieces dialect text = .ok built ∧ ∀ style assembly,
        built.foldl (Assembly.add style) assembly =
          { assembly with sql := assembly.sql ++ writtenText dialect table short } := by
  refine ⟨exists_words?_iff, fun words => words?_eq_some_iff, ⟨?_, ?_⟩, ?_⟩
  · rintro ⟨built, found⟩
    obtain ⟨words, table, short, read, names, -⟩ := pieces_eq_ok_iff.mp found
    exact ⟨words, table, short, read, names⟩
  · rintro ⟨words, table, short, read, names⟩
    exact ⟨_, pieces_eq_ok_iff.mpr ⟨words, table, short, read, names, rfl⟩⟩
  · intro words table short read names
    refine ⟨_, pieces_eq_ok_iff.mpr ⟨words, table, short, read, names, rfl⟩, ?_⟩
    exact fun style assembly => foldl_writtenPieces style assembly table short

/-- A name with a blank in quotes, called by another name behind a wide space and the word `As`. -/
theorem pieces_exact_quoted_alias :
    words? "app.\"my table\"\u3000As t" = some ["app.\"my table\"", "As", "t"] ∧
      Names ["app.\"my table\"", "As", "t"] ⟨[.bare "app", .quoted "my table"]⟩
        (some ⟨[.bare "t"]⟩) ∧
      ∃ built, pieces {} "app.\"my table\"\u3000As t" = .ok built ∧ ∀ style assembly,
        built.foldl (Assembly.add style) assembly =
          { assembly with sql := assembly.sql ++ "\"APP\".\"my table\" \"T\"" } := by
  have read : words? "app.\"my table\"\u3000As t" = some ["app.\"my table\"", "As", "t"] := by
    decide +kernel
  have names : Names ["app.\"my table\"", "As", "t"] ⟨[.bare "app", .quoted "my table"]⟩
      (some ⟨[.bare "t"]⟩) :=
    .keyword (by decide) (by decide +kernel) (by decide +kernel)
  have spelled : writtenText {} ⟨[.bare "app", .quoted "my table"]⟩ (some ⟨[.bare "t"]⟩) =
      "\"APP\".\"my table\" \"T\"" := by decide +kernel
  rw [← spelled]
  exact ⟨read, names, (pieces_exact {} _).2.2.2 _ _ _ read names⟩

end TableReference

end OracleSql
