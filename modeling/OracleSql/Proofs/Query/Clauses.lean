/-
This file reads built queries back, clause by clause. What is written between two keywords keeps
within its clause as long as what is written by hand does, so each clause is read with the parts
that it was written with. A clause is left out just if it would say nothing.
-/

import OracleSql.Proofs.Condition.Within
import OracleSql.Proofs.Query.Body
import OracleSql.Proofs.Styles.Names

namespace OracleSql

open OracleSql.Part (keepWithin)
open Piece (KeepWithin)

/-! ### The parts of a body -/

/-- Pieces that stand behind others in the same clause. -/
def FollowsWithin (pieces : List Piece) : Prop :=
  ∃ parts, Follows pieces parts ∧ keepWithin parts = true

section

variable {pieces others : List Piece} {first : List Part}

namespace FollowsWithin

theorem nil : FollowsWithin [] :=
  ⟨[], .nil, rfl⟩

theorem append (front : FollowsWithin pieces) (back : FollowsWithin others) :
    FollowsWithin (pieces ++ others) := by
  obtain ⟨first, front, within⟩ := front
  obtain ⟨second, back, also⟩ := back
  exact ⟨first ++ second, front.append back, Part.keepWithin_append within also⟩

theorem behind (back : FollowsWithin others) (front : WithinClause pieces first) :
    ∃ second, WithinClause (pieces ++ others) (first ++ second) := by
  obtain ⟨second, back, within⟩ := back
  exact ⟨second, front.toRenders.followed back, Part.keepWithin_append front.within within⟩

theorem behindAny (back : FollowsWithin others) (front : KeepWithin pieces) :
    KeepWithin (pieces ++ others) := by
  obtain ⟨first, front⟩ := front
  obtain ⟨second, whole⟩ := back.behind front
  exact ⟨_, whole⟩

theorem opened {sql : String} {more : List Glyph} {words : List Token}
    (spelled : letters sql = .letter ' ' :: more)
    (scanned : Scanner.between.scan (letters sql) = some (words, .between))
    (inert : ∀ word ∈ words, word.isInert = true) (within : keepWithin (words.map .token) = true)
    (inner : KeepWithin pieces) : FollowsWithin (.text sql :: pieces) := by
  obtain ⟨parts, inner⟩ := inner
  exact ⟨_, .opened spelled scanned inert inner.toRenders,
    Part.keepWithin_append within inner.within⟩

theorem flatten {lists : List (List Piece)} (each : ∀ list ∈ lists, FollowsWithin list) :
    FollowsWithin lists.flatten := by
  induction lists with
  | nil => exact nil
  | cons list rest inductionHypothesis =>
    rw [List.forall_mem_cons] at each
    exact each.1.append (inductionHypothesis each.2)

end FollowsWithin

end

section

variable (dialect : Dialect)

/-- Pieces that keep within their clause and start with a token, as names do. -/
def StartsWithin (pieces : List Piece) : Prop :=
  ∃ token rest, WithinClause pieces (.token token :: rest)

theorem Dialect.namePiece_startsWithin (name : String) :
    Ensures StartsWithin (dialect.namePiece name) := by
  intro own built
  obtain ⟨written, named, rfl⟩ := map_eq_ok.mp built
  obtain ⟨tokens, present, named, scanned⟩ := Dialect.exists_writesName named
  obtain ⟨first, rest, rfl⟩ := List.exists_cons_of_ne_nil present
  refine ⟨first, rest.map .token, NamesOnly.renders (List.all_eq_true.mpr named) ?_⟩
  rw [List.flatMap_singleton]
  exact tokens?_of_scan scanned

namespace TableReference

theorem aliasedPieces_startsWithin (name shortName : String) :
    Ensures StartsWithin (aliasedPieces dialect name shortName) := by
  refine Ensures.bind (dialect.namePiece_startsWithin name) fun first named => ?_
  refine Ensures.bind (dialect.namePiece_startsWithin shortName) fun second short =>
    Ensures.ok ?_
  obtain ⟨token, rest, named⟩ := named
  obtain ⟨other, further, short⟩ := short
  have behind : FollowsWithin (.text " " :: second) :=
    .opened rfl rfl (List.forall_mem_nil _) rfl ⟨_, short⟩
  obtain ⟨more, whole⟩ := behind.behind named
  exact ⟨token, rest ++ more, whole⟩

/-- A table, with or without an alias, is written within its clause, and starts with a name. -/
theorem pieces_startsWithin (text : String) : Ensures StartsWithin (pieces dialect text) := by
  unfold pieces
  split
  · exact Ensures.error _
  · exact dialect.namePiece_startsWithin _
  · exact aliasedPieces_startsWithin dialect _ _
  · split
    · exact aliasedPieces_startsWithin dialect _ _
    · exact Ensures.error _
  · exact Ensures.error _

end TableReference

theorem Join.pieces_within (join : Join) (keeps : join.on.keepsWithin dialect = true) :
    Ensures FollowsWithin (join.pieces dialect) := by
  refine Ensures.bind (TableReference.pieces_startsWithin dialect join.table) fun table named => ?_
  refine Ensures.bind (join.on.pieces_within keeps) fun condition matched => Ensures.ok ?_
  obtain ⟨token, rest, named⟩ := named
  have whole : KeepWithin (table ++ (.text " ON " :: condition)) :=
    (FollowsWithin.opened rfl rfl (by decide) rfl matched).behindAny ⟨_, named⟩
  cases join.kind <;> exact .opened rfl rfl (by decide) rfl whole

/-- Whether the item is a column. -/
def SelectItem.isColumn : SelectItem → Bool
  | column _ => true
  | expression _ => false

/-- Whether the item keeps within its clause, as a column does. -/
def SelectItem.keepsWithin : SelectItem → Bool
  | column _ => true
  | expression sql => Draft.keepsWithin (dialect.fragment sql {})

theorem SelectItem.listPieces_within {items : List SelectItem}
    (keep : items.all (keepsWithin dialect) = true) :
    Ensures KeepWithin (listPieces dialect items) := by
  rw [List.all_eq_true] at keep
  refine Ensures.map (Ensures.mapM fun item member => ?_) fun _ => .join_comma
  have keeps := keep item member
  cases item with
  | column name => exact (dialect.namePiece_namesOnly name).mono fun _ only => only.within
  | expression sql => exact Draft.within_of_keepsWithin keeps

/-- Columns are written as names only. -/
theorem SelectItem.listPieces_namesOnly {items : List SelectItem}
    (columns : items.all isColumn = true) : Ensures NamesOnly (listPieces dialect items) := by
  rw [List.all_eq_true] at columns
  refine Ensures.map (Ensures.mapM fun item member => ?_) fun _ => .join
  have column := columns item member
  cases item with
  | column name => exact dialect.namePiece_namesOnly name
  | expression sql => cases column

/-- Whether the sort key keeps within its clause, as a column with a direction does. -/
def SortKey.keepsWithin : SortKey → Bool
  | expression sql => Draft.keepsWithin (dialect.fragment sql {})
  | _ => true

theorem SortKey.pieces_within {key : SortKey} (keeps : key.keepsWithin dialect = true) :
    Ensures KeepWithin (key.pieces dialect) := by
  have direction (word : String) (scanned : tokens? (letters (" " ++ word)) =
      some [.word word.toList]) (inside : keepWithin [.keyword word] = true) :
      FollowsWithin [.text (" " ++ word)] := by
    refine ⟨[.keyword word], ⟨⟨?_, .keyword word⟩, Or.inr ⟨_, [], letters word, rfl, ?_⟩⟩, inside⟩
    · rw [List.flatMap_singleton]
      exact scanned
    · rw [letters_append]
      rfl
  cases key with
  | ascending column =>
    exact Ensures.map (dialect.namePiece_namesOnly column) fun _ named =>
      (direction "ASC" rfl rfl).behindAny named.within
  | descending column =>
    exact Ensures.map (dialect.namePiece_namesOnly column) fun _ named =>
      (direction "DESC" rfl rfl).behindAny named.within
  | expression sql => exact Draft.within_of_keepsWithin keeps

/-! ### The clauses of a body -/

/-- A filter is written as its clause, and left out just if it says nothing. -/
theorem Filter.clause_spells (word : String) {sql : String} {more : List Glyph} {filter : Filter}
    (keeps : filter.keepsWithin dialect = true) (spelled : letters sql = .letter ' ' :: more)
    (scanned : Scanner.between.scan (letters sql) = some ([.word word.toList], .between))
    (inert : (Token.word word.toList).isInert = true) :
    Ensures (fun pieces => ∃ clause, WritesClause [word] pieces clause ∧
      clause.isSome = !filter.isEmpty) (filter.clause dialect sql) := by
  unfold clause
  cases filter.isEmpty with
  | true => exact Ensures.ok ⟨none, .none [word], rfl⟩
  | false =>
    refine Ensures.map (filter.pieces_within keeps) fun pieces within => ?_
    obtain ⟨parts, within⟩ := within
    exact ⟨some parts, .some spelled scanned (List.forall_mem_singleton.mpr inert) within, rfl⟩

namespace Select

variable (select : Select)

/-- Whether everything in the query that is written by hand keeps within its clause. -/
def keepsWithin : Bool :=
  select.joins.all (fun join => join.on.keepsWithin dialect) && select.filter.keepsWithin dialect &&
    select.groups.all (SelectItem.keepsWithin dialect) && select.groupFilter.keepsWithin dialect &&
    select.order.all (SortKey.keepsWithin dialect)

/-- Keys are written as their clause, and left out just if there are none. -/
theorem listClause_spells {items : List SelectItem}
    (keep : items.all (SelectItem.keepsWithin dialect) = true) :
    Ensures (fun pieces => ∃ clause, WritesClause ["GROUP", "BY"] pieces clause ∧
      clause.isSome = !items.isEmpty) (listClause dialect " GROUP BY " items) := by
  unfold listClause
  cases items.isEmpty with
  | true => exact Ensures.ok ⟨none, .none _, rfl⟩
  | false =>
    refine Ensures.map (SelectItem.listPieces_within dialect keep) fun pieces within => ?_
    obtain ⟨parts, within⟩ := within
    exact ⟨some parts, .some rfl rfl (by decide) within, rfl⟩

theorem orderPieces_spells (keep : select.order.all (SortKey.keepsWithin dialect) = true) :
    Ensures (fun pieces => ∃ clause, WritesClause ["ORDER", "BY"] pieces clause)
      (select.orderPieces dialect) := by
  rw [List.all_eq_true] at keep
  unfold orderPieces
  split
  · exact Ensures.ok ⟨none, .none _⟩
  · refine Ensures.bind (Ensures.mapM fun key member =>
      SortKey.pieces_within dialect (keep key member)) fun keys each => Ensures.ok ?_
    obtain ⟨parts, within⟩ := KeepWithin.join_comma each
    exact ⟨some parts, .some rfl rfl (by decide) within⟩

/-- The body of a query is read back, clause by clause, and its source starts with a name. -/
theorem bodyPieces_spells (keeps : select.keepsWithin dialect = true) :
    Ensures (fun pieces => ∃ body : Body, Follows pieces body.parts ∧ body.IsSound ∧
      (∃ token rest, body.source = .token token :: rest) ∧
      body.keys.isSome = !select.groups.isEmpty ∧
      body.kept.isSome = !select.groupFilter.isEmpty) (select.bodyPieces dialect) := by
  simp only [keepsWithin, Bool.and_eq_true] at keeps
  obtain ⟨⟨⟨⟨joined, filtered⟩, grouped⟩, having⟩, _⟩ := keeps
  rw [List.all_eq_true] at joined
  refine Ensures.bind (TableReference.pieces_startsWithin dialect select.source) fun source named => ?_
  refine Ensures.bind (Ensures.mapM fun join member =>
    Join.pieces_within dialect join (joined join member)) fun joins matched => ?_
  refine Ensures.bind (Filter.clause_spells dialect "WHERE" filtered rfl rfl (by decide))
    fun rows conditioned => ?_
  refine Ensures.bind (listClause_spells dialect grouped) fun groups keyed => ?_
  refine Ensures.bind (Filter.clause_spells dialect "HAVING" having rfl rfl (by decide))
    fun last restricted => Ensures.ok ?_
  obtain ⟨token, rest, named⟩ := named
  obtain ⟨more, tables⟩ := (FollowsWithin.flatten matched).behind named
  obtain ⟨condition, conditioned, _⟩ := conditioned
  obtain ⟨keys, keyed, someKeys⟩ := keyed
  obtain ⟨kept, restricted, someKept⟩ := restricted
  have first : WritesClause ["FROM"] (.text " FROM " :: (source ++ joins.flatten)) _ :=
    .some rfl rfl (by decide) tables
  have whole := first.follows.append
    (conditioned.follows.append (keyed.follows.append restricted.follows))
  refine ⟨⟨_, condition, keys, kept⟩, ?_, ⟨tables.within, conditioned.within, keyed.within,
    restricted.within⟩, ⟨token, _, rfl⟩, someKeys, someKept⟩
  simp only [List.cons_append, List.append_assoc] at whole ⊢
  exact whole

theorem columnPieces_namesOnly (columns : select.columns.all SelectItem.isColumn = true) :
    Ensures NamesOnly (select.columnPieces dialect) := by
  unfold columnPieces
  split
  · exact Ensures.ok ⟨[.sign '*'], rfl, rfl⟩
  · exact SelectItem.listPieces_namesOnly dialect columns

end Select

end

/-! ### Locks -/

/-- A digit goes on with a word, and starts one. -/
theorem Scanner.step_digit {digit : Char} (isDigit : digit.isDigit = true) (letters : List Char) :
    (inWord letters).step (.letter digit) = some ([], inWord (letters ++ [digit])) ∧
      between.step (.letter digit) = some ([], inWord [digit]) := by
  have identifier : Marker.isIdentifierChar digit = true := by
    rw [Marker.isIdentifierChar, Char.isAlphanum, isDigit, Bool.or_true]
    rfl
  have apart (other : Char) (plain : other.isDigit = false) : digit ≠ other := by
    rintro rfl
    rw [isDigit] at plain
    cases plain
  have solid : digit.isWhitespace = false := by
    simp [Char.isWhitespace, apart]
  constructor
  · rw [step, proceed, if_pos identifier]
  · rw [step, proceed, start, solid, if_neg (apart '(' rfl), if_neg (apart ')' rfl),
      if_neg (apart '"' rfl), if_neg (apart '\'' rfl), if_neg (apart '-' rfl),
      if_neg (apart '/' rfl), identifier]
    rfl

theorem Scanner.scan_digits {digits : List Char} (each : ∀ digit ∈ digits, digit.isDigit = true)
    (seen : List Char) :
    (inWord seen).scan (digits.map .letter) = some ([], inWord (seen ++ digits)) := by
  induction digits generalizing seen with
  | nil =>
    rw [List.append_nil]
    rfl
  | cons digit rest inductionHypothesis =>
    rw [List.forall_mem_cons] at each
    rw [List.map_cons, scan, (step_digit each.1 seen).1]
    simp only [Option.bind_eq_bind, Option.bind_some, inductionHypothesis each.2,
      List.append_assoc, List.singleton_append, List.nil_append]

theorem tokens?_digits {digits : List Char} (present : digits ≠ [])
    (each : ∀ digit ∈ digits, digit.isDigit = true) :
    tokens? (digits.map .letter) = some [.word digits] := by
  obtain ⟨first, rest, rfl⟩ := List.exists_cons_of_ne_nil present
  rw [List.forall_mem_cons] at each
  refine tokens?_eq_some.mpr ⟨[], .inWord (first :: rest), _, ?_, rfl, rfl⟩
  rw [List.map_cons, Scanner.scan, (Scanner.step_digit each.1 []).2]
  simp only [Option.bind_eq_bind, Option.bind_some, Scanner.scan_digits each.2]
  rfl

/-- A number is written as one word. -/
theorem renders_number (number : Nat) : Renders (fun _ => .unknown) [.text (toString number)]
    [.token (.word (toString number).toList)] := by
  have digits : tokens? (letters (toString number)) = some [.word (toString number).toList] :=
    tokens?_digits (MarkerStyle.isName_toString number).1 fun _ => isDigit_of_mem_toString
  refine ⟨?_, .token ⟨nofun, nofun⟩⟩
  rw [List.flatMap_singleton]
  exact digits

/-- A lock is written with a blank in front, and starts with its own keyword. -/
theorem LockMode.follows (lock : Option LockMode) :
    ∃ parts, Follows (lock.toList.map fun mode => .text mode.sql) parts ∧
      Part.Opens ["FOR"] parts := by
  have opens (rest : List Part) : Part.Opens ["FOR"] (Part.keyword "FOR" :: rest) := by
    intro part first
    cases first
    exact ⟨"FOR", List.mem_cons_self, rfl⟩
  have fixed (sql : String) (more : List Glyph) (words : List Token)
      (spelled : letters sql = .letter ' ' :: more)
      (scanned : tokens? (letters sql) = some (.word "FOR".toList :: words))
      (inert : ∀ word ∈ Token.word "FOR".toList :: words, word.isInert = true) :
      ∃ parts, Follows [.text sql] parts ∧ Part.Opens ["FOR"] parts := by
    refine ⟨_, ⟨⟨?_, Phrase.tokens inert⟩, Or.inr ⟨sql, [], more, rfl, spelled⟩⟩, opens _⟩
    rw [Part.written_tokens, List.flatMap_singleton]
    exact scanned
  cases lock with
  | none => exact ⟨[], .nil, .nil _⟩
  | some mode =>
    cases mode with
    | wait => exact fixed _ _ _ rfl rfl (by decide)
    | noWait => exact fixed _ _ _ rfl rfl (by decide)
    | skipLocked => exact fixed _ _ _ rfl rfl (by decide)
    | waitSeconds count =>
      have words : ∀ word ∈ ["FOR", "UPDATE", "WAIT"].map fun word => Token.word word.toList,
          word.isInert = true := by decide
      exact ⟨_, (Follows.opened rfl rfl words (renders_number count.toNat)).concat rfl, opens _⟩

namespace Select

variable (select : Select) {columns pieces order lock : List Piece} {body : Body}
  {keys : Option (List Part)} {locked : List Part}

/-- The words in front of the list are read as they are, DISTINCT as the first part of it. -/
theorem head_opened {parts : List Part}
    (inner : Renders (fun _ => .unknown) pieces parts) :
    Renders (fun _ => .unknown) (.text select.head :: pieces) (Part.keyword "SELECT" ::
      ((if select.distinct then [Part.keyword "DISTINCT"] else []) ++ parts)) := by
  unfold head
  cases select.distinct with
  | true => exact inner.opened rfl (by decide : ∀ word ∈ [_, _], Token.isInert word = true)
  | false => exact inner.opened rfl (by decide : ∀ word ∈ [_], Token.isInert word = true)

/-- The query of all rows is read back with its body. -/
theorem query?_spelled (listed : NamesOnly columns) (restricted : Follows pieces body.parts)
    (sound : body.IsSound) (sorted : WritesClause ["ORDER", "BY"] order keys)
    (locks : Follows lock locked) (opens : Part.Opens ["FOR"] locked) :
    ∃ query, Piece.query? (.text select.head :: (columns ++ pieces ++ order) ++ lock) = some query ∧
      query.distinct = select.distinct ∧ query.toBody = body := by
  obtain ⟨tokens, named, scanned⟩ := listed
  have list := NamesOnly.renders named scanned
  have whole := select.head_opened
    (((list.toRenders.followed restricted).followed sorted.follows).followed locks)
  let query : Clauses := { body with distinct := select.distinct, list := tokens.map .token }
  have same : Part.keyword "SELECT" ::
      ((if select.distinct then [Part.keyword "DISTINCT"] else []) ++
        (tokens.map .token ++ body.parts ++ Part.spelled ["ORDER", "BY"] keys ++ locked)) =
      query.parts keys locked := by
    simp only [Clauses.parts, Part.spelled, Option.elim_some, List.map_cons, List.map_nil,
      List.cons_append, List.nil_append, List.append_assoc, query]
  have undistinguished : query.list.head?.any (Part.isKeyword "DISTINCT") = false := by
    cases tokens with
    | nil => rfl
    | cons first rest =>
      have start := List.all_eq_true.mp named first List.mem_cons_self
      cases first <;> first | rfl | cases start
  have single : query.list.all Part.isToken = true :=
    List.all_eq_true.mpr (List.forall_mem_map.mpr fun _ _ => rfl)
  refine ⟨query, ?_, rfl, rfl⟩
  rw [same] at whole
  rw [List.cons_append, Piece.query?, whole.scanned, Option.bind_some]
  exact Clauses.ofRows?_written sound list.within single undistinguished sorted.within opens
    whole.phrase

end Select

end OracleSql
