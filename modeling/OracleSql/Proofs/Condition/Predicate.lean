/-
This file reads what a condition writes for a single column. A column is written as a row of quoted
names, stars and dots, so no letter of it is taken for a keyword or a parenthesis. What comes after
it keeps to itself as well: the parentheses of a list and of a function close again, and the AND of
a range stands behind its BETWEEN. So each of these texts is one predicate, also among others that
are joined to it.
-/

import OracleSql.Proofs.Identifier.Segments
import OracleSql.Proofs.Reading.Joined

namespace OracleSql

/-! ### Names -/

theorem letters_append (first second : String) :
    letters (first ++ second) = letters first ++ letters second := by
  rw [letters, String.toList_append, List.map_append]
  rfl

/-- Whether the token can stand in the name of a column. -/
def Token.isOfName : Token → Bool
  | name _ => true
  | sign _ => true
  | _ => false

theorem Token.isInert_of_isOfName {token : Token} (named : token.isOfName = true) :
    token.isInert = true := by
  cases token with
  | name letters => rfl
  | sign letter => rfl
  | _ => cases named

theorem Scanner.scan_inName {stored : List Char} (free : '"' ∉ stored) (seen : List Char) :
    (inName seen).scan (stored.map .letter ++ [.letter '"']) =
      some ([.name (seen ++ stored)], between) := by
  induction stored generalizing seen with
  | nil =>
    rw [List.append_nil]
    rfl
  | cons letter rest inductionHypothesis =>
    rw [List.mem_cons, not_or] at free
    have stepped : (inName seen).step (.letter letter) = some ([], inName (seen ++ [letter])) := by
      rw [step, proceed, if_neg (Ne.symm free.1)]
    rw [List.map_cons, List.cons_append, scan, stepped]
    simp only [Option.bind_eq_bind, Option.bind_some, inductionHypothesis free.2, List.nil_append,
      List.append_assoc, List.singleton_append]

/-- The text is written as a name, which makes the tokens. -/
structure WritesName (written : String) (tokens : List Token) : Prop where
  present : tokens ≠ []
  named : ∀ token ∈ tokens, token.isOfName = true
  scanned : Scanner.between.scan (letters written) = some (tokens, .between)

namespace Identifier

theorem scan_segment {segment : String} (valid : IsSegment segment) :
    ∃ token : Token, token.isOfName = true ∧
      Scanner.between.scan (letters segment) = some ([token], .between) := by
  obtain rfl | ⟨stored, rfl, free⟩ := valid
  · exact ⟨.sign '*', rfl, rfl⟩
  · refine ⟨.name stored.toList, rfl, ?_⟩
    rw [inQuotes, letters_append, letters_append, List.append_assoc]
    have opened : Scanner.between.scan (letters "\"") = some ([], .inName []) := rfl
    exact Scanner.scan_append opened (Scanner.scan_inName free [])

/-- A written name makes tokens of names, of which there is one at least. -/
theorem writesName_join {segments : List String} (some : segments ≠ [])
    (valid : ∀ segment ∈ segments, IsSegment segment) :
    ∃ tokens, WritesName (Text.join "." segments) tokens := by
  induction segments with
  | nil => exact absurd rfl some
  | cons segment others inductionHypothesis =>
    rw [List.forall_mem_cons] at valid
    obtain ⟨first, named, scanned⟩ := scan_segment valid.1
    cases others with
    | nil =>
      rw [Text.join, String.intercalate_singleton]
      exact ⟨[first], List.cons_ne_nil _ _, List.forall_mem_singleton.mpr named, scanned⟩
    | cons next further =>
      obtain ⟨rest, _, more, tail⟩ := inductionHypothesis (List.cons_ne_nil _ _) valid.2
      refine ⟨first :: .sign '.' :: rest, List.cons_ne_nil _ _, ?_, ?_⟩
      · rw [List.forall_mem_cons, List.forall_mem_cons]
        exact ⟨named, rfl, more⟩
      · rw [Text.join, String.intercalate_cons_cons, letters_append, letters_append]
        have dot : Scanner.between.scan (letters ".") = .some ([.sign '.'], .between) := rfl
        exact Scanner.scan_append (Scanner.scan_append scanned dot) tail

end Identifier

theorem Dialect.exists_writesName {dialect : Dialect} {column written : String}
    (named : dialect.nameText column = .ok written) : ∃ tokens, WritesName written tokens := by
  have quoted : dialect.quote column = .ok written := mapError_eq_ok.mp named
  obtain ⟨segments, present, rfl, valid⟩ := Identifier.quote_segments dialect column written quoted
  exact Identifier.writesName_join present valid

/-! ### Words that start a clause -/

namespace Part

/-- The words with which a clause starts, or another query that belongs to the first. -/
def clauseWords : List String :=
  ["SELECT", "FROM", "WHERE", "START", "CONNECT", "GROUP", "HAVING", "MODEL", "UNION", "INTERSECT",
    "MINUS", "EXCEPT", "ORDER", "OFFSET", "FETCH", "FOR"]

/-- Whether a clause starts with the part. -/
def startsClause (part : Part) : Bool :=
  clauseWords.any fun word => part.isKeyword word

/-- Whether no clause starts in the parts. -/
def keepWithin (parts : List Part) : Bool :=
  parts.all fun part => !part.startsClause

theorem keepWithin_append {first second : List Part} (one : keepWithin first = true)
    (other : keepWithin second = true) : keepWithin (first ++ second) = true := by
  rw [keepWithin, List.all_append, Bool.and_eq_true]
  exact ⟨one, other⟩

end Part

open OracleSql.Part (keepWithin)

theorem Token.within_of_isOfName {tokens : List Token} (named : tokens.all isOfName = true) :
    keepWithin (tokens.map .token) = true := by
  rw [keepWithin, List.all_map]
  rw [List.all_eq_true] at named ⊢
  intro token member
  have own := named token member
  cases token with
  | name letters => rfl
  | sign letter => rfl
  | _ => cases own

/-! ### Predicates -/

/-- The tokens of written pieces. -/
def Piece.tokens (pieces : List Piece) : List Token :=
  (tokens? (pieces.flatMap glyphs)).getD []

/-- The pieces are a predicate, also among others to which they are joined. -/
def IsPredicate (pieces : List Piece) : Prop :=
  ∀ assignment, MeansJoined assignment pieces (assignment (Piece.tokens pieces))

/-- The pieces are a predicate in which no clause starts. -/
def IsTest (pieces : List Piece) : Prop :=
  ∀ assignment, ∃ parts, Renders assignment pieces parts ∧
    Conjoins assignment parts (assignment (Piece.tokens pieces)) ∧ keepWithin parts = true

theorem Part.written_tokens (tokens : List Token) : written (tokens.map .token) = tokens := by
  rw [written, List.flatMap_map]
  exact List.flatMap_singleton' tokens

section Predicates

variable {assignment : List Token → Truth} {pieces : List Piece}

theorem IsTest.isPredicate (test : IsTest pieces) : IsPredicate pieces := by
  intro assignment
  obtain ⟨parts, renders, conjoins, _⟩ := test assignment
  exact ⟨parts, renders, conjoins⟩

/-- Parts of one condition that start with a token other than NOT have the value of a predicate. -/
theorem Renders.conjoins {first : Token} {rest : List Part}
    (renders : Renders assignment pieces (.token first :: rest))
    (whole : Whole (.token first :: rest)) (plain : first.isKeyword "NOT" = false)
    (varies : first ≠ .word ['1']) :
    Conjoins assignment (.token first :: rest) (assignment (Piece.tokens pieces)) := by
  rw [Piece.tokens, renders.scanned, Option.getD_some]
  exact whole.conjoins plain varies

/-- A name with other parts of one condition after it makes a predicate. -/
theorem WritesName.isTest {written : String} {tokens : List Token}
    (name : WritesName written tokens)
    (follows : ∀ assignment, ∃ tail, Phrase assignment tail ∧ Whole tail ∧
      keepWithin tail = true ∧
        tokens? (pieces.flatMap Piece.glyphs) = some (tokens ++ Part.written tail)) :
    IsTest pieces := by
  intro assignment
  obtain ⟨tail, phrase, whole, within, scanned⟩ := follows assignment
  obtain ⟨present, named, _⟩ := name
  have inert : ∀ token ∈ tokens, token.isInert = true :=
    fun token member => Token.isInert_of_isOfName (named token member)
  have renders : Renders assignment pieces (tokens.map .token ++ tail) := by
    refine ⟨?_, (Phrase.tokens inert).append phrase⟩
    rw [scanned, Part.written_append, Part.written_tokens]
  have together : Whole (tokens.map .token ++ tail) := whole.tokens inert
  refine ⟨_, renders, ?_, Part.keepWithin_append
    (Token.within_of_isOfName (List.all_eq_true.mpr named)) within⟩
  cases tokens with
  | nil => exact absurd rfl present
  | cons first rest =>
    have start : first.isOfName = true := named first List.mem_cons_self
    refine renders.conjoins together ?_ ?_
    · cases first <;> first | rfl | cases start
    · rintro rfl
      cases start

end Predicates

namespace Condition

variable {dialect : Dialect} {column written : String}

/-- The words of an operator join no conditions and start no clause. -/
theorem scan_operator (comparison : Comparison) :
    ∃ tokens : List Token, (∀ token ∈ tokens, token.isInert = true) ∧
      keepWithin (tokens.map .token) = true ∧
      Scanner.between.scan (letters (" " ++ comparison.operator ++ " ")) =
        some (tokens, .between) := by
  cases comparison <;> refine ⟨_, ?_, ?_, rfl⟩ <;> decide

variable (dialect) in
/-- A comparison in upper case is a call on either side of the operator. -/
theorem foldedCompare_renders (assignment : List Token → Truth) {tokens operator : List Token}
    (name : WritesName written tokens) (comparison : Comparison) (value : Value)
    (inert : ∀ token ∈ operator, token.isInert = true)
    (scanned : Scanner.between.scan (letters (" " ++ comparison.operator ++ " ")) =
      some (operator, .between)) :
    Renders assignment [.text ("UPPER(" ++ written ++ ") " ++ comparison.operator ++ " UPPER("),
        valuePiece dialect value, .text ")"]
      (Part.call assignment "UPPER" (tokens.map .token) ++ (operator.map .token ++
        Part.call assignment "UPPER" [.token (.marker (valuePiece dialect value))])) := by
  have column : Phrase assignment (tokens.map .token) :=
    .tokens fun token member => Token.isInert_of_isOfName (name.named token member)
  have bound : Phrase assignment [.token (.marker (valuePiece dialect value))] := .marker _
  have opened : Scanner.between.scan (letters "UPPER(") =
    some ([.word "UPPER".toList, .opening], .between) := rfl
  have closed : Scanner.between.scan (letters ")") = some ([.closing], .between) := rfl
  have last : tokens? (.marker (valuePiece dialect value) :: letters ")") =
    some [.marker (valuePiece dialect value), .closing] := rfl
  have spelled : letters ("UPPER(" ++ written ++ ") " ++ comparison.operator ++ " UPPER(") =
      letters "UPPER(" ++ (letters written ++ (letters ")" ++
        (letters (" " ++ comparison.operator ++ " ") ++ letters "UPPER("))) := by
    simp only [letters_append, List.append_assoc]
    rfl
  refine ⟨?_, (column.call _).append ((Phrase.tokens inert).append (bound.call _))⟩
  have start := Scanner.scan_append opened (Scanner.scan_append name.scanned
    (Scanner.scan_append closed (Scanner.scan_append scanned opened)))
  rw [List.flatMap_cons, Piece.glyphs, spelled]
  refine (tokens?_append start last).trans ?_
  simp only [Part.written_append, Part.written_call, Part.written_tokens, List.append_assoc]
  rfl

theorem foldedCompare_isTest {tokens : List Token} (name : WritesName written tokens)
    (comparison : Comparison) (value : Value) :
    IsTest [.text ("UPPER(" ++ written ++ ") " ++ comparison.operator ++ " UPPER("),
      valuePiece dialect value, .text ")"] := by
  intro assignment
  obtain ⟨operator, inert, within, scanned⟩ := scan_operator comparison
  have quiet : ∀ text ∈ joiningKeywords, (Part.keyword "UPPER").isKeyword text = false := by
    decide
  have whole := Whole.call assignment (tokens.map .token) quiet
    ((Whole.call assignment [.token (.marker (valuePiece dialect value))] quiet .nil).tokens inert)
  rw [List.append_nil] at whole
  have renders := foldedCompare_renders dialect assignment name comparison value inert scanned
  refine ⟨_, renders, renders.conjoins whole (by decide) (by decide), ?_⟩
  exact Part.keepWithin_append rfl (Part.keepWithin_append within rfl)

theorem compare_isTest (column : String) (comparison : Comparison) (value : Value) :
    Ensures IsTest (comparePieces dialect column comparison value) := by
  intro own built
  obtain ⟨written, named, built⟩ := bind_eq_ok.mp built
  obtain ⟨tokens, name⟩ := Dialect.exists_writesName named
  obtain ⟨operator, inert, within, scanned⟩ := scan_operator comparison
  by_cases folds : comparison.foldsCase
  · have same := (if_pos folds).symm.trans built
    cases same
    exact foldedCompare_isTest name comparison value
  · have same := (if_neg folds).symm.trans built
    cases same
    refine name.isTest fun assignment => ?_
    have bound : Phrase assignment [.token (.marker (valuePiece dialect value))] := .marker _
    refine ⟨_, (Phrase.tokens inert).append bound, (Whole.nil.cons fun _ _ => rfl).tokens inert,
      Part.keepWithin_append within rfl, ?_⟩
    have spelled : letters (written ++ " " ++ comparison.operator ++ " ") =
        letters written ++ letters (" " ++ comparison.operator ++ " ") := by
      rw [← letters_append, String.append_assoc, String.append_assoc, String.append_assoc]
    rw [Part.written_append, Part.written_tokens, List.flatMap_cons, Piece.glyphs, spelled,
      List.append_assoc]
    exact tokens?_append name.scanned (tokens?_append scanned rfl)

theorem nullness_isTest (column : String) (isNull : Bool) :
    Ensures IsTest (pieces dialect (.nullness column isNull)) := by
  rw [pieces]
  intro own built
  obtain ⟨written, named, same⟩ := bind_eq_ok.mp built
  obtain ⟨tokens, name⟩ := Dialect.exists_writesName named
  cases same
  obtain ⟨more, inert, within, scanned⟩ : ∃ more : List Token,
      (∀ token ∈ more, token.isInert = true) ∧ keepWithin (more.map .token) = true ∧
      tokens? (letters (if isNull then " IS NULL" else " IS NOT NULL")) = some more := by
    cases isNull <;> exact ⟨_, by decide, by decide, rfl⟩
  have whole := Whole.nil.tokens inert
  rw [List.append_nil] at whole
  refine name.isTest fun assignment => ⟨_, Phrase.tokens inert, whole, within, ?_⟩
  rw [Part.written_tokens, List.flatMap_singleton, Piece.glyphs, letters_append]
  exact tokens?_append name.scanned scanned

theorem range_isTest (column : String) (low high : Value) (negated : Bool) :
    Ensures IsTest (pieces dialect (.range column low high negated)) := by
  rw [pieces]
  intro own built
  obtain ⟨written, named, same⟩ := bind_eq_ok.mp built
  obtain ⟨tokens, name⟩ := Dialect.exists_writesName named
  cases same
  refine name.isTest fun assignment => ?_
  have bounds : Phrase assignment _ := .range (valuePiece dialect low) (valuePiece dialect high)
  have whole := Whole.range (valuePiece dialect low) (valuePiece dialect high)
  cases negated with
  | false =>
    refine ⟨_, bounds, whole, rfl, ?_⟩
    rw [List.flatMap_cons, Piece.glyphs, letters_append, List.append_assoc]
    exact tokens?_append name.scanned rfl
  | true =>
    have negation : ∀ text ∈ joiningKeywords, (Part.keyword "NOT").isKeyword text = false := by
      decide
    refine ⟨_, (Phrase.keyword "NOT").append bounds, whole.cons negation, rfl, ?_⟩
    rw [List.flatMap_cons, Piece.glyphs, letters_append, List.append_assoc]
    exact tokens?_append name.scanned rfl

/-- The keywords of a test against a list. -/
def listKeywords (negated : Bool) : List Token :=
  if negated then [.word "NOT".toList, .word "IN".toList] else [.word "IN".toList]

/-- A test against a list is written as the name, the keywords and the values in parentheses. -/
theorem tokens?_listPieces {tokens : List Token} (name : WritesName written tokens)
    (negated : Bool) (values : List Value) :
    tokens? ((listPieces dialect written negated values).flatMap Piece.glyphs) =
      some (tokens ++ (listKeywords negated ++ Token.opening :: (List.intercalate
        [Token.sign ','] (values.map fun value => [Token.marker (valuePiece dialect value)]) ++
          [Token.closing]))) := by
  have row : tokens? ((Piece.join ", " (values.map fun value =>
      [valuePiece dialect value])).flatMap Piece.glyphs) =
        some (List.intercalate [Token.sign ','] (values.map fun value =>
          [Token.marker (valuePiece dialect value)])) := by
    refine tokens?_join rfl (by decide) rfl ?_
    rw [List.forall₂_map_left_iff, List.forall₂_map_right_iff, List.forall₂_same]
    exact fun value _ => rfl
  have scanned : Scanner.between.scan (letters (if negated then " NOT IN (" else " IN (")) =
      some (listKeywords negated ++ [Token.opening], .between) := by
    cases negated <;> rfl
  have opened := Scanner.scan_append name.scanned scanned
  rw [← letters_append] at opened
  rw [listPieces, tokens?_of_scan (scan_enclosed opened row)]
  simp only [List.append_assoc, List.singleton_append]

theorem list_isTest (named : dialect.nameText column = .ok written) (negated : Bool)
    (values : List Value) : IsTest (listPieces dialect written negated values) := by
  obtain ⟨tokens, name⟩ := Dialect.exists_writesName named
  refine name.isTest fun assignment => ?_
  have row : Phrase assignment (List.intercalate [.token (.sign ',')]
      (values.map fun value => [.token (.marker (valuePiece dialect value))])) := by
    have comma : Phrase assignment [.token (.sign ',')] := .token (by decide)
    exact comma.intercalate (List.forall_mem_map.mpr fun value _ => Phrase.marker _)
  have inert : ∀ token ∈ listKeywords negated, token.isInert = true := by
    cases negated <;> decide
  have words : keepWithin ((listKeywords negated).map .token) = true := by
    cases negated <;> decide
  refine ⟨_, (Phrase.tokens inert).append row.group, (Whole.nil.group _ _).tokens inert,
    Part.keepWithin_append words rfl, ?_⟩
  rw [tokens?_listPieces name, Part.written_append, Part.written_tokens, Part.written_group,
    Part.written_intercalate, List.map_map]
  rfl

end Condition

end OracleSql
