/-
This file runs the reader of markers over what a builder writes. At a place that is not inside a
quoted name the reader stands between two lexemes: a word or a separator is a lexeme for each of its
characters, a quoted name is one lexeme, and the marker of a value is one. So the reader finds
exactly the markers that were written. What it needs to know of the characters behind it is that no
identifier and no colon ends before a marker, and of the characters ahead what `Place.Admits` says.
-/

import OracleSql.Proofs.Markers.Place
import OracleSql.Proofs.Template.Scanning
import Mathlib.Data.List.Basic

namespace OracleSql

/-! ### What stands on either side -/

/-- What may come next at a place: an allowed character, or the colon of a marker where one can
stand. -/
def Place.Admits (place : Place) (rest : List Char) : Prop :=
  ∀ letter ∈ rest.head?,
    (place.step (Sign.ofLetter letter)).isSome ∨ letter = ':' ∧ (place.step .out).isSome

/-- What may stand before a place: if a marker can stand there, no identifier ends before it. -/
def Marker.Before.Suits (before : Before) (place : Place) : Prop :=
  (place.step .out).isSome → before.allowsNative = true

namespace Place

variable {place final : Place} {rest : List Char}

theorem admits_append {letters : List Char}
    (ran : place.run (letters.map Sign.ofLetter) = some final) (admits : final.Admits rest) :
    place.Admits (letters ++ rest) := by
  cases letters with
  | nil =>
    cases ran
    exact admits
  | cons letter more =>
    rw [run, List.map_cons, List.foldlM_cons, Option.bind_eq_bind, Option.bind_eq_some_iff] at ran
    obtain ⟨next, stepped, _⟩ := ran
    intro other same
    cases same
    exact Or.inl (Option.isSome_of_mem stepped)

/-- A single quote comes next nowhere but inside a quoted name. -/
theorem Admits.head_ne (admits : place.Admits rest) (outside : place ≠ quoted) :
    rest.head? ≠ some '\'' := by
  intro same
  rcases admits _ same with allowed | ⟨colon, _⟩
  · have sign : Sign.ofLetter '\'' = .other := by decide
    rw [sign] at allowed
    cases place with
    | quoted => exact outside rfl
    | _ => cases allowed
  · cases colon

/-- After a marker or a quoted name comes a separator, if anything. -/
theorem Admits.separated (admits : place.Admits rest) (closed : place = tight ∨ place = returned) :
    ∀ letter ∈ rest.head?, isSeparator letter = true := by
  intro letter member
  rw [← Sign.ofLetter_eq_separator]
  rcases admits letter member with allowed | ⟨_, marker⟩
  · rcases closed with rfl | rfl <;> cases sign : Sign.ofLetter letter <;>
      first | rfl | (rw [sign] at allowed; cases allowed)
  · rcases closed with rfl | rfl <;> cases marker

end Place

/-! ### Lexemes -/

namespace Marker

/-- The names of the native markers from a place of a template on. -/
def nativesFrom (before : Before) (letters : List Char) : Except Unterminated (List String) :=
  (lexemesFrom before letters).map (·.filterMap Lexeme.nativeName?)

/-- The reader goes over a lexeme that is no marker. -/
theorem nativesFrom_text {before : Before} {letter : Char} {more rest : List Char}
    (found : extent before letter (more ++ rest) = .ok (.text, more.length)) :
    nativesFrom before (letter :: (more ++ rest)) =
      nativesFrom (more.foldl Before.push (before.push letter)) rest := by
  unfold nativesFrom
  rw [lexemesFrom, found]
  dsimp only
  rw [List.take_left, List.drop_left]
  cases lexemesFrom (more.foldl Before.push (before.push letter)) rest <;> rfl

/-- The reader finds a native marker. -/
theorem nativesFrom_native {before : Before} {name rest : List Char}
    (found : extent before ':' (name ++ rest) = .ok (.native, name.length)) :
    nativesFrom before (':' :: (name ++ rest)) =
      (nativesFrom (name.foldl Before.push (before.push ':')) rest).map
        (String.ofList name :: ·) := by
  unfold nativesFrom
  rw [lexemesFrom, found]
  dsimp only
  rw [List.take_left, List.drop_left]
  cases lexemesFrom (name.foldl Before.push (before.push ':')) rest <;> rfl

/-- A word or a separator is a lexeme for each of its characters. -/
theorem extent_plain (before : Before) {letter : Char} {rest : List Char}
    (plain : isSeparator letter = true ∨ isNameChar letter = true)
    (ahead : rest.head? ≠ some '\'') : extent before letter rest = .ok (.text, 0) := by
  have differs (other : Char) (special : isSeparator other = false ∧ isNameChar other = false) :
      letter ≠ other := by
    rintro rfl
    rcases plain with holds | holds
    · exact absurd (holds.symm.trans special.1) (by decide)
    · exact absurd (holds.symm.trans special.2) (by decide)
  unfold extent
  dsimp only
  rw [if_neg (differs '\'' (by decide)), if_neg (differs '"' (by decide)),
    if_neg fun both => differs '-' (by decide) both.1,
    if_neg fun both => differs '/' (by decide) both.1,
    if_neg fun all => ahead all.2.1, if_neg (differs '?' (by decide)),
    if_neg fun all => differs '@' (by decide) all.1,
    if_neg fun all => differs ':' (by decide) all.1]

/-- A quoted name is one lexeme. -/
theorem extent_quoted (before : Before) {name rest : List Char} (free : '"' ∉ name)
    (ahead : rest.head? ≠ some '"') :
    extent before '"' ((name ++ ['"']) ++ rest) = .ok (.text, (name ++ ['"']).length) := by
  unfold extent
  dsimp only
  rw [if_neg (by decide), if_pos rfl, List.append_assoc, List.singleton_append,
    quotedLength_append (Escaped.of_not_mem free) ahead]
  simp

/-- A name after a colon is a marker where no identifier and no colon ends before it. -/
theorem extent_native {before : Before} {name rest : List Char}
    (allowed : before.allowsNative = true) (some : name ≠ [])
    (each : ∀ letter ∈ name, isNameChar letter = true)
    (ahead : ∀ letter ∈ rest.head?, isNameChar letter = false) :
    extent before ':' (name ++ rest) = .ok (.native, name.length) := by
  have length : nameLength (name ++ rest) = name.length := nameLength_append ⟨each, ahead⟩
  obtain ⟨letter, more, rfl⟩ := List.exists_cons_of_ne_nil some
  have first : (letter :: more ++ rest).head?.any isNameChar = true :=
    each letter List.mem_cons_self
  unfold extent
  dsimp only
  rw [if_neg (by decide), if_neg (by decide), if_neg fun both => absurd both.1 (by decide),
    if_neg fun both => absurd both.1 (by decide), if_neg fun all => absurd all.1 (by decide),
    if_neg (by decide), if_neg fun all => absurd all.1 (by decide),
    if_pos ⟨rfl, first, allowed⟩, length]

end Marker

/-! ### Texts -/

/-- A quoted name that is over has an end. -/
theorem Place.closed_of_run {letters : List Char} {final : Place} (outside : final ≠ quoted)
    (ran : quoted.run (letters.map Sign.ofLetter) = some final) :
    ∃ name rest, letters = name ++ '"' :: rest ∧ '"' ∉ name ∧
      tight.run (rest.map Sign.ofLetter) = some final := by
  induction letters with
  | nil =>
    cases ran
    exact absurd rfl outside
  | cons letter more inductionHypothesis =>
    rw [run, List.map_cons, List.foldlM_cons, Option.bind_eq_bind, Option.bind_eq_some_iff] at ran
    obtain ⟨next, stepped, ran⟩ := ran
    by_cases quote : letter = '"'
    · subst quote
      cases stepped
      exact ⟨[], more, rfl, List.not_mem_nil, ran⟩
    · have stays : next = quoted := by
        cases sign : Sign.ofLetter letter <;> rw [sign] at stepped <;> cases stepped
        · rfl
        · rfl
        · exact absurd ((Sign.ofLetter_eq_quote letter).mp sign) quote
        · rfl
      subst stays
      obtain ⟨name, rest, same, free, closed⟩ := inductionHypothesis ran
      refine ⟨letter :: name, rest, congrArg (letter :: ·) same, ?_, closed⟩
      rw [List.mem_cons, not_or]
      exact ⟨fun same => quote same.symm, free⟩

/-- Outside of names, a letter other than a quote separates or goes on with a word, and opens no
name. -/
theorem Place.plain_of_step {place next : Place} {letter : Char} (outside : place ≠ .quoted)
    (quote : letter ≠ '"') (stepped : place.step (Sign.ofLetter letter) = some next) :
    (Sign.ofLetter letter = .separator ∨ Sign.ofLetter letter = .word ∧ next = .word) ∧
      next ≠ .quoted := by
  rcases Sign.ofLetter_cases letter with sign | sign | sign | sign
  · rw [sign] at stepped
    refine ⟨Or.inl sign, ?_⟩
    cases place <;> cases stepped <;> first | decide | exact outside
  · exact absurd ((Sign.ofLetter_eq_quote letter).mp sign) quote
  · rw [sign] at stepped
    cases place <;> cases stepped <;>
      first | exact ⟨Or.inr ⟨sign, rfl⟩, by decide⟩ | exact absurd rfl outside
  · rw [sign] at stepped
    cases place <;> cases stepped
    exact absurd rfl outside

namespace Marker

/-- A separator stands before any place. -/
theorem Before.suits_push (before : Before) {letter : Char} (separator : isSeparator letter = true)
    (place : Place) : (before.push letter).Suits place := by
  intro _
  have special : ∀ letter ∈ [' ', '(', ')', ',', '.', '=', '<', '>', '*'],
      isIdentifierChar letter = false ∧ letter ≠ ':' := by
    rw [← List.forall_iff_forall_mem]
    decide
  obtain ⟨plain, colon⟩ := special letter (List.contains_iff_mem.mp separator)
  simp [allowsNative, endsIdentifier, push, plain, colon]

/-- The reader goes over a text in which no marker stands. -/
theorem nativesFrom_append {place final : Place} {letters : List Char} {before : Before}
    (ran : place.run (letters.map Sign.ofLetter) = some final) (outside : place ≠ .quoted)
    (ended : final ≠ .quoted) (suits : before.Suits place) :
    ∃ after : Before, after.Suits final ∧ ∀ rest, final.Admits rest →
      nativesFrom before (letters ++ rest) = nativesFrom after rest := by
  match letters with
  | [] =>
    cases ran
    exact ⟨before, suits, fun rest _ => rfl⟩
  | letter :: more =>
    rw [Place.run, List.map_cons, List.foldlM_cons, Option.bind_eq_bind,
      Option.bind_eq_some_iff] at ran
    obtain ⟨next, stepped, ran⟩ := ran
    by_cases quote : letter = '"'
    · subst quote
      have opened : next = .quoted := by
        cases place <;> cases stepped
        · rfl
        · exact absurd rfl outside
      subst opened
      obtain ⟨name, tail, rfl, free, closed⟩ := Place.closed_of_run ended ran
      have suitsNext : ((name ++ ['"']).foldl Before.push (before.push '"')).Suits .tight :=
        fun marker => by cases marker
      obtain ⟨after, suitsToo, same⟩ := nativesFrom_append closed (by decide) ended suitsNext
      refine ⟨after, suitsToo, fun rest admits => ?_⟩
      have ahead : (tail ++ rest).head? ≠ some '"' := fun same =>
        absurd ((Place.admits_append closed admits).separated (Or.inl rfl) _ same) (by decide)
      rw [← same rest admits, ← nativesFrom_text (extent_quoted before free ahead)]
      simp only [List.cons_append, List.append_assoc, List.nil_append]
    · obtain ⟨plain, inside⟩ := Place.plain_of_step outside quote stepped
      have suitsNext : (before.push letter).Suits next := by
        rcases plain with separator | ⟨_, rfl⟩
        · exact before.suits_push ((Sign.ofLetter_eq_separator letter).mp separator) next
        · exact fun marker => by cases marker
      have known : isSeparator letter = true ∨ isNameChar letter = true :=
        plain.imp (Sign.ofLetter_eq_separator letter).mp
          fun word => Sign.isNameChar_of_word letter word.1
      obtain ⟨after, suitsToo, same⟩ := nativesFrom_append ran inside ended suitsNext
      refine ⟨after, suitsToo, fun rest admits => ?_⟩
      have ahead := (Place.admits_append ran admits).head_ne inside
      rw [← same rest admits]
      exact @nativesFrom_text before letter [] (more ++ rest) (extent_plain before known ahead)
  termination_by letters.length
  decreasing_by
    · subst_vars
      simp only [List.length_cons, List.length_append]
      omega
    · simp only [List.length_cons]
      omega

end Marker

end OracleSql
