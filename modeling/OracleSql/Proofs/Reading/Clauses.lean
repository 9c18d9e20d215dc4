/-
This file reads tokens as a query, clause by clause. A clause goes from its keyword to the next word
that starts one; parentheses keep what stands in them together, whatever words that are. A query
that counts goes over the records of its own FROM clause, or over the rows of another query that
stands in parentheses there.

What pieces write into a clause is read back as this clause if no word in it starts another. That
holds of pieces in parentheses, and of pieces that are joined. Clauses are written one behind the
other, each with a blank in front, so they keep to themselves as well.
-/

import OracleSql.Proofs.Condition.Predicate

namespace OracleSql

/-! ### Clauses of a query -/

namespace Part

/-- Whether the part is a token of its own. -/
def isToken : Part → Bool
  | token _ => true
  | group _ _ => false

/-- The parts of the clause with these words, if it comes next, and those behind it. -/
def clause? : (words : List String) → List Part → Option (List Part × List Part)
  | [], parts =>
    some (parts.takeWhile (!·.startsClause), parts.dropWhile (!·.startsClause))
  | word :: others, part :: rest => if part.isKeyword word then clause? others rest else none
  | _ :: _, [] => none

/-- The same of a clause that can be left out. -/
def optionalClause (words : List String) (parts : List Part) : Option (List Part) × List Part :=
  match clause? words parts with
  | some (inside, rest) => (some inside, rest)
  | none => (none, parts)

/-- The parts of a text, whatever its predicates say. -/
def ofText? (tokens : List Token) : Option (List Part) :=
  ofTokens? (fun _ => .unknown) tokens

end Part

open OracleSql.Part (clause? optionalClause keepWithin)

/-- The clauses FROM to HAVING of a query. -/
structure Body where
  source : List Part
  condition : Option (List Part)
  keys : Option (List Part)
  kept : Option (List Part)

/-- What a query says about its rows, but for their order. -/
structure Clauses extends Body where
  distinct : Bool
  list : List Part

namespace Clauses

/-- The clauses of a query, behind which its rows may be put in order and locked. -/
def ofParts? (parts : List Part) : Option Clauses := do
  let (list, rest) ← clause? ["SELECT"] parts
  let (source, rest) ← clause? ["FROM"] rest
  let (condition, rest) := optionalClause ["WHERE"] rest
  let (keys, rest) := optionalClause ["GROUP", "BY"] rest
  let (kept, rest) := optionalClause ["HAVING"] rest
  let (_, rest) := optionalClause ["ORDER", "BY"] rest
  let distinct := list.head?.any (Part.isKeyword "DISTINCT")
  if rest.head?.all (Part.isKeyword "FOR") then
    some { source, condition, keys, kept, distinct, list := if distinct then list.tail else list }
  else none

/-- The clauses of a query that calls no functions in its list, so that it has a row for each record
or group. -/
def ofRows? (tokens : List Token) : Option Clauses := do
  let parts ← Part.ofText? tokens
  let clauses ← ofParts? parts
  if clauses.list.all Part.isToken then some clauses else none

end Clauses

/-- What a query that counts goes over. -/
inductive Counting where
  | records (source : List Part) (condition : Option (List Part))
  | rows (query : Clauses)

namespace Counting

/-- Whether a list is the number of records. -/
def isCount : List Part → Bool
  | [counter, .group inner _] => counter.isKeyword "COUNT" && inner = [.sign '*']
  | _ => false

/-- What is counted by a query of one number. Grouped records would make a number for each group. -/
def ofClauses? (clauses : Clauses) : Option Counting :=
  if isCount clauses.list && !clauses.distinct && clauses.keys.isNone && clauses.kept.isNone then
    match clauses.source, clauses.condition with
    | [.group inner _, .token (.word _)], none => (Clauses.ofRows? inner).map rows
    | source, condition => some (records source condition)
  else none

def ofTokens? (tokens : List Token) : Option Counting := do
  let parts ← Part.ofText? tokens
  let clauses ← Clauses.ofParts? parts
  ofClauses? clauses

end Counting

/-- The query of rows that pieces write. -/
def Piece.query? (pieces : List Piece) : Option Clauses :=
  (tokens? (pieces.flatMap glyphs)).bind Clauses.ofRows?

/-- What is counted by the query that pieces write. -/
def Piece.counting? (pieces : List Piece) : Option Counting :=
  (tokens? (pieces.flatMap glyphs)).bind Counting.ofTokens?

/-! ### Clauses in a row -/

namespace Part

/-- The parts of a clause, none where it is left out. -/
def spelled (words : List String) (clause : Option (List Part)) : List Part :=
  clause.elim [] fun inside => words.map keyword ++ inside

/-- The parts are none, or start with one of the words. -/
def Opens (words : List String) (parts : List Part) : Prop :=
  ∀ part ∈ parts.head?, ∃ word ∈ words, part = keyword word

theorem isKeyword_keyword (text other : String) :
    (keyword text).isKeyword other = Text.sameFolded text other := by
  rw [keyword, isKeyword, Token.isKeyword, String.ofList_toList]

theorem Opens.nil (words : List String) : Opens words [] :=
  fun _ none => by cases none

/-- In front of parts that start with one of the words, a clause can stand or be left out. -/
theorem Opens.behind {words : List String} {rest : List Part} (opens : Opens words rest)
    (word : String) (more : List String) (clause : Option (List Part)) :
    Opens (word :: words) (spelled (word :: more) clause ++ rest) := by
  intro part first
  cases clause with
  | none =>
    obtain ⟨other, member, same⟩ := opens part first
    exact ⟨other, List.mem_cons_of_mem word member, same⟩
  | some inside =>
    cases first
    exact ⟨word, List.mem_cons_self, rfl⟩

theorem Opens.stops {words : List String} {rest : List Part} (opens : Opens words rest)
    (start : ∀ word ∈ words, (keyword word).startsClause = true) :
    rest.takeWhile (!·.startsClause) = [] ∧ rest.dropWhile (!·.startsClause) = rest := by
  cases rest with
  | nil => exact ⟨rfl, rfl⟩
  | cons part others =>
    obtain ⟨word, member, rfl⟩ := opens part rfl
    rw [List.takeWhile_cons, List.dropWhile_cons, start word member]
    exact ⟨rfl, rfl⟩

/-- A clause goes on as far as no part of it starts another. -/
theorem clause?_spelled (words : List String) {others : List String} {inside rest : List Part}
    (within : keepWithin inside = true) (opens : Opens others rest)
    (start : ∀ word ∈ others, (keyword word).startsClause = true) :
    clause? words (spelled words (some inside) ++ rest) = some (inside, rest) := by
  rw [spelled, Option.elim_some, List.append_assoc]
  induction words with
  | nil =>
    obtain ⟨none, all⟩ := opens.stops start
    rw [keepWithin, List.all_eq_true] at within
    rw [List.map_nil, List.nil_append, clause?, List.takeWhile_append_of_pos within,
      List.dropWhile_append_of_pos within, none, all, List.append_nil]
  | cons word more inductionHypothesis =>
    have same : (keyword word).isKeyword word = true := by
      rw [isKeyword_keyword]
      exact beq_self_eq_true _
    rw [List.map_cons, List.cons_append, clause?, if_pos same]
    exact inductionHypothesis

/-- A clause is read where it is spelled, and no other one where it is left out. -/
theorem optionalClause_spelled (word : String) (more : List String) {others : List String}
    {clause : Option (List Part)} {rest : List Part}
    (within : ∀ inside ∈ clause, keepWithin inside = true) (opens : Opens others rest)
    (start : ∀ other ∈ others,
      (keyword other).startsClause = true ∧ Text.sameFolded other word = false) :
    optionalClause (word :: more) (spelled (word :: more) clause ++ rest) = (clause, rest) := by
  cases clause with
  | none =>
    have missing : clause? (word :: more) rest = none := by
      cases rest with
      | nil => rfl
      | cons part further =>
        obtain ⟨other, member, rfl⟩ := opens part rfl
        rw [clause?, isKeyword_keyword, (start other member).2]
        rfl
    show optionalClause (word :: more) rest = _
    rw [optionalClause, missing]
  | some inside =>
    rw [optionalClause, clause?_spelled (word :: more) (within inside rfl) opens
      fun other member => (start other member).1]

end Part

/-- The parts of the clauses of a body. -/
def Body.parts (body : Body) : List Part :=
  Part.spelled ["FROM"] (some body.source) ++ (Part.spelled ["WHERE"] body.condition ++
    (Part.spelled ["GROUP", "BY"] body.keys ++ Part.spelled ["HAVING"] body.kept))

/-- No part of a clause starts another one. -/
structure Body.IsSound (body : Body) : Prop where
  source : keepWithin body.source = true
  condition : ∀ inside ∈ body.condition, keepWithin inside = true
  keys : ∀ inside ∈ body.keys, keepWithin inside = true
  kept : ∀ inside ∈ body.kept, keepWithin inside = true

namespace Clauses

/-- The parts of a query, behind which the rows are put in order and locked. -/
def parts (clauses : Clauses) (order : Option (List Part)) (lock : List Part) : List Part :=
  let list := (if clauses.distinct then [Part.keyword "DISTINCT"] else []) ++ clauses.list
  Part.spelled ["SELECT"] (some list) ++
    (clauses.toBody.parts ++ (Part.spelled ["ORDER", "BY"] order ++ lock))

/-- A query with a sound body is read as it is spelled, if no part of its list starts a clause or
stands for a DISTINCT. -/
theorem ofParts?_parts {clauses : Clauses} (sound : clauses.toBody.IsSound)
    (inside : keepWithin clauses.list = true)
    (undistinguished : clauses.list.head?.any (Part.isKeyword "DISTINCT") = false)
    {order : Option (List Part)} (sorted : ∀ inside ∈ order, keepWithin inside = true)
    {lock : List Part} (locks : Part.Opens ["FOR"] lock) :
    ofParts? (clauses.parts order lock) = some clauses := by
  obtain ⟨⟨source, condition, keys, kept⟩, distinct, list⟩ := clauses
  -- What can come next behind each clause, from the last one to the first.
  have afterKept := locks.behind "ORDER" ["BY"] order
  have afterKeys := afterKept.behind "HAVING" [] kept
  have afterCondition := afterKeys.behind "GROUP" ["BY"] keys
  have afterSource := afterCondition.behind "WHERE" [] condition
  have afterList := afterSource.behind "FROM" [] (some source)
  have selected : keepWithin ((if distinct then [Part.keyword "DISTINCT"] else []) ++ list) =
      true := by
    refine Part.keepWithin_append ?_ inside
    cases distinct <;> decide
  have locked : lock.head?.all (Part.isKeyword "FOR") = true := by
    rw [Option.all_eq_true]
    intro part first
    obtain ⟨word, member, rfl⟩ := locks part first
    obtain rfl := List.mem_singleton.mp member
    rfl
  simp only [parts, Body.parts, ofParts?, List.append_assoc, Option.bind_eq_bind, Option.bind_some,
    Part.clause?_spelled ["SELECT"] selected afterList (by decide +kernel),
    Part.clause?_spelled ["FROM"] sound.source afterSource (by decide +kernel),
    Part.optionalClause_spelled "WHERE" [] sound.condition afterCondition (by decide +kernel),
    Part.optionalClause_spelled "GROUP" ["BY"] sound.keys afterKeys (by decide +kernel),
    Part.optionalClause_spelled "HAVING" [] sound.kept afterKept (by decide +kernel),
    Part.optionalClause_spelled "ORDER" ["BY"] sorted locks (by decide +kernel), if_pos locked]
  cases distinct with
  | true => rfl
  | false =>
    rw [if_neg Bool.false_ne_true, List.nil_append, undistinguished]
    rfl

/-- So is a query of rows, whose list consists of tokens. -/
theorem ofRows?_written {clauses : Clauses} (sound : clauses.toBody.IsSound)
    (inside : keepWithin clauses.list = true) (single : clauses.list.all Part.isToken = true)
    (undistinguished : clauses.list.head?.any (Part.isKeyword "DISTINCT") = false)
    {order : Option (List Part)} (sorted : ∀ inside ∈ order, keepWithin inside = true)
    {lock : List Part} (locks : Part.Opens ["FOR"] lock)
    (phrase : Phrase (fun _ => .unknown) (clauses.parts order lock)) :
    ofRows? (Part.written (clauses.parts order lock)) = some clauses := by
  rw [ofRows?, Part.ofText?, phrase.ofTokens?, Option.bind_eq_bind, Option.bind_some,
    ofParts?_parts sound inside undistinguished sorted locks, Option.bind_eq_bind,
    Option.bind_some, if_pos single]

end Clauses

/-! ### Pieces of a clause -/

/-- Pieces that are written as the parts and keep within one clause. -/
structure WithinClause (pieces : List Piece) (parts : List Part) : Prop extends
    Renders (fun _ => .unknown) pieces parts where
  within : keepWithin parts = true

/-- Pieces that keep within the clause in which they are written. -/
def Piece.KeepWithin (pieces : List Piece) : Prop :=
  ∃ parts, WithinClause pieces parts

theorem all_intercalate {α : Type} {holds : α → Bool} {separator : List α} {rows : List (List α)}
    (between : separator.all holds = true) (each : ∀ row ∈ rows, row.all holds = true) :
    (List.intercalate separator rows).all holds = true := by
  induction rows with
  | nil => rfl
  | cons row rest inductionHypothesis =>
    rw [List.forall_mem_cons] at each
    cases rest with
    | nil =>
      rw [List.intercalate_singleton]
      exact each.1
    | cons next further =>
      rw [List.intercalate_cons_cons, List.all_append, List.all_append, each.1, between,
        inductionHypothesis each.2]
      rfl

namespace Piece.KeepWithin

variable {pieces : List Piece}

theorem nil : KeepWithin [] :=
  ⟨[], ⟨rfl, .nil⟩, rfl⟩

/-- Whatever stands in parentheses keeps within them. -/
theorem enclosed (inner : KeepWithin pieces) : KeepWithin (Piece.enclosed "(" ")" pieces) := by
  obtain ⟨parts, within⟩ := inner
  exact ⟨_, within.toRenders.enclosed, rfl⟩

/-- So does what NOT stands before. -/
theorem negated (inner : KeepWithin pieces) : KeepWithin (Piece.enclosed "NOT (" ")" pieces) := by
  obtain ⟨parts, within⟩ := inner
  exact ⟨_, within.toRenders.negated, rfl⟩

/-- Joined pieces keep within a clause if each of them does. -/
theorem join {separator : String} {letter : Char} {more : List Glyph} {token : Token}
    (spelled : letters separator = .letter letter :: more)
    (separates : letter ∈ Scanner.separators)
    (scanned : Scanner.between.scan (letters separator) = some ([token], .between))
    (plain : token ≠ .opening ∧ token ≠ .closing) (inside : keepWithin [.token token] = true)
    {lists : List (List Piece)} (each : ∀ list ∈ lists, KeepWithin list) :
    KeepWithin (Piece.join separator lists) := by
  choose! row own using each
  have renders : List.Forall₂ (Renders fun _ => .unknown) lists (lists.map row) := by
    rw [List.forall₂_map_right_iff, List.forall₂_same]
    exact fun list member => (own list member).toRenders
  exact ⟨_, Renders.join spelled separates scanned plain renders,
    all_intercalate inside (List.forall_mem_map.mpr fun list member => (own list member).within)⟩

theorem join_and {lists : List (List Piece)} (each : ∀ list ∈ lists, KeepWithin list) :
    KeepWithin (Piece.join " AND " lists) :=
  join rfl (by decide) rfl (by decide) rfl each

theorem join_or {lists : List (List Piece)} (each : ∀ list ∈ lists, KeepWithin list) :
    KeepWithin (Piece.join " OR " lists) :=
  join rfl (by decide) rfl (by decide) rfl each

theorem join_comma {lists : List (List Piece)} (each : ∀ list ∈ lists, KeepWithin list) :
    KeepWithin (Piece.join ", " lists) :=
  join rfl (by decide) rfl (by decide) rfl each

end Piece.KeepWithin

/-! ### Clauses that are written -/

theorem tokens?_separated {first second : List Glyph} {made others : List Token} {letter : Char}
    (one : tokens? first = some made) (separates : letter ∈ Scanner.separators)
    (two : tokens? (.letter letter :: second) = some others) :
    tokens? (first ++ .letter letter :: second) = some (made ++ others) := by
  obtain ⟨more, final, last, scanned, stopped, rfl⟩ := tokens?_eq_some.mp two
  exact tokens?_eq_some.mpr ⟨made ++ more, final, last, scan_separated one separates scanned,
    stopped, List.append_assoc _ _ _⟩

/-- Pieces that can be written behind others: none, or a text with a blank in front. -/
structure Follows (pieces : List Piece) (parts : List Part) : Prop extends
    Renders (fun _ => .unknown) pieces parts where
  apart : pieces = [] ∨ ∃ sql rest more, pieces = .text sql :: rest ∧
    letters sql = .letter ' ' :: more

section

variable {pieces others : List Piece} {parts further : List Part}

namespace Renders

theorem followed (first : Renders (fun _ => .unknown) pieces parts)
    (second : Follows others further) :
    Renders (fun _ => .unknown) (pieces ++ others) (parts ++ further) := by
  refine ⟨?_, first.phrase.append second.phrase⟩
  have scanned := second.scanned
  rw [List.flatMap_append, Part.written_append]
  obtain rfl | ⟨sql, rest, more, rfl, spelled⟩ := second.apart
  · have none : Part.written further = [] := (Option.some.inj scanned).symm
    rw [none, List.append_nil, List.flatMap_nil, List.append_nil, first.scanned]
  · rw [List.flatMap_cons, Piece.glyphs, spelled, List.cons_append] at scanned ⊢
    exact tokens?_separated first.scanned (by decide) scanned

/-- Words in front of pieces make their own tokens. -/
theorem opened {sql : String} {words : List Token}
    (scanned : Scanner.between.scan (letters sql) = some (words, .between))
    (inert : ∀ word ∈ words, word.isInert = true)
    (inner : Renders (fun _ => .unknown) pieces parts) :
    Renders (fun _ => .unknown) (.text sql :: pieces) (words.map .token ++ parts) := by
  refine ⟨?_, (Phrase.tokens inert).append inner.phrase⟩
  rw [Part.written_append, Part.written_tokens]
  exact tokens?_append scanned inner.scanned

end Renders

namespace Follows

theorem nil : Follows [] [] :=
  ⟨⟨rfl, .nil⟩, Or.inl rfl⟩

theorem append (first : Follows pieces parts) (second : Follows others further) :
    Follows (pieces ++ others) (parts ++ further) := by
  refine ⟨first.toRenders.followed second, ?_⟩
  obtain rfl | ⟨sql, rest, more, rfl, spelled⟩ := first.apart
  · exact second.apart
  · exact Or.inr ⟨sql, rest ++ others, more, rfl, spelled⟩

/-- Words with a blank in front stand behind others, with pieces behind them. -/
theorem opened {sql : String} {more : List Glyph} {words : List Token}
    (spelled : letters sql = .letter ' ' :: more)
    (scanned : Scanner.between.scan (letters sql) = some (words, .between))
    (inert : ∀ word ∈ words, word.isInert = true)
    (inner : Renders (fun _ => .unknown) pieces parts) :
    Follows (.text sql :: pieces) (words.map .token ++ parts) :=
  ⟨inner.opened scanned inert, Or.inr ⟨sql, pieces, more, rfl, spelled⟩⟩

/-- Two texts in a row are as good as one. -/
theorem concat {first second : String} (follows : Follows [.text first, .text second] parts)
    {more : List Glyph} (spelled : letters first = .letter ' ' :: more) :
    Follows [.text (first ++ second)] parts := by
  have scanned := follows.scanned
  rw [List.flatMap_cons, List.flatMap_singleton, Piece.glyphs, Piece.glyphs] at scanned
  refine ⟨⟨?_, follows.phrase⟩, Or.inr ⟨_, [], more ++ letters second, rfl, ?_⟩⟩
  · rw [List.flatMap_singleton, Piece.glyphs, letters_append, scanned]
  · rw [letters_append, spelled, List.cons_append]

end Follows

/-- Pieces that are written as the clause with the words, or none where it is left out. -/
structure WritesClause (words : List String) (pieces : List Piece) (clause : Option (List Part)) :
    Prop where
  follows : Follows pieces (Part.spelled words clause)
  within : ∀ inside ∈ clause, keepWithin inside = true

namespace WritesClause

theorem none (words : List String) : WritesClause words [] none :=
  ⟨.nil, fun _ impossible => by cases impossible⟩

theorem some {words : List String} {sql : String} {more : List Glyph}
    (spelled : letters sql = .letter ' ' :: more)
    (scanned : Scanner.between.scan (letters sql) =
      .some (words.map fun word => .word word.toList, .between))
    (inert : ∀ word ∈ words, (Token.word word.toList).isInert = true)
    (inner : WithinClause pieces parts) : WritesClause words (.text sql :: pieces) (.some parts) := by
  have written := Follows.opened spelled scanned (List.forall_mem_map.mpr inert) inner.toRenders
  rw [List.map_map] at written
  refine ⟨written, fun inside same => ?_⟩
  cases same
  exact inner.within

end WritesClause

end

end OracleSql
