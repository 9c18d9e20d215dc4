/-
This file compares the number that the count of a query computes with the number of rows that the
query has. Both statements are read back with the same body, so the same records are filtered and
grouped. Records that are not grouped are counted themselves, and groups by a row that each of them
makes in a query inside. But that query says nothing of DISTINCT, and neither does a count of
records: what is counted are the rows before any is dropped. So the number is right just if there is
no row twice or none is to be dropped.
-/

import OracleSql.Proofs.Query.Clauses
import OracleSql.Proofs.Query.Rows

namespace OracleSql

/-! ### Reading a count -/

section

variable {pieces : List Piece} {body : Body}

/-- Behind a fixed list a body makes a query that neither orders nor locks. -/
theorem Clauses.renders_parts {clauses : Clauses} {sql : String} (plain : clauses.distinct = false)
    (front : Renders (fun _ => .unknown) [.text sql] (Part.keyword "SELECT" :: clauses.list))
    (restricted : Follows pieces clauses.toBody.parts) :
    Renders (fun _ => .unknown) (.text sql :: pieces) (clauses.parts none []) := by
  have whole := front.followed restricted
  simp only [parts, plain, Part.spelled, Option.elim_some, Option.elim_none, List.append_nil]
  exact whole

/-- The query that selects the number of records of a body. -/
def Body.counted (body : Body) : Clauses :=
  { body with
    distinct := false
    list := Part.call (fun _ => .unknown) "COUNT" [.token (.sign '*')] }

/-- A count is read with the body that is written behind it. -/
theorem counting?_counted (restricted : Follows pieces body.parts) (sound : body.IsSound) :
    Piece.counting? (.text "SELECT COUNT(*)" :: pieces) = Counting.ofClauses? body.counted := by
  have phrase : Phrase (fun _ => .unknown) body.counted.list :=
    Phrase.call "COUNT" (.token (by decide))
  have whole : Renders _ (.text "SELECT COUNT(*)" :: pieces) (body.counted.parts none []) :=
    Clauses.renders_parts rfl ⟨rfl, (Phrase.keyword "SELECT").append phrase⟩ restricted
  have read : Clauses.ofParts? (body.counted.parts none []) = some body.counted :=
    Clauses.ofParts?_parts sound rfl rfl (fun _ none => by cases none) (.nil _)
  rw [Piece.counting?, whole.scanned, Option.bind_some, Counting.ofTokens?, Part.ofText?,
    whole.phrase.ofTokens?, Option.bind_eq_bind, Option.bind_some, read, Option.bind_eq_bind,
    Option.bind_some]

/-- Without groups, the records of the body are counted. -/
theorem counting?_records (restricted : Follows pieces body.parts) (sound : body.IsSound)
    (named : ∃ token rest, body.source = .token token :: rest) (keys : body.keys = none)
    (kept : body.kept = none) :
    Piece.counting? (.text "SELECT COUNT(*)" :: pieces) =
      some (.records body.source body.condition) := by
  rw [counting?_counted restricted sound]
  obtain ⟨source, condition, _, _⟩ := body
  obtain ⟨token, rest, same⟩ := named
  cases same
  cases keys
  cases kept
  rfl

/-- The body that goes over the rows of a query, which stands in it in parentheses. -/
def Clauses.inside (query : Clauses) : Body :=
  let parts := query.parts none []
  { source := [.group (Part.written parts) (Part.disjunction (fun _ => .unknown) parts),
      .keyword "t"]
    condition := none, keys := none, kept := none }

theorem Clauses.follows_inside {query : Clauses}
    (inner : Renders (fun _ => .unknown) pieces (query.parts none [])) :
    Follows (.text " FROM " :: (Piece.enclosed "(" ")" pieces ++ [.text " t"]))
      query.inside.parts := by
  have table : Follows [.text " t"] [Part.keyword "t"] :=
    ⟨⟨rfl, .keyword "t"⟩, Or.inr ⟨" t", [], letters "t", rfl, rfl⟩⟩
  have words : ∀ word ∈ [Token.word "FROM".toList], word.isInert = true := by decide
  have scanned : Scanner.between.scan (letters " FROM ") =
      some ([.word "FROM".toList], .between) := rfl
  have whole := Follows.opened rfl scanned words (inner.enclosed.followed table)
  simp only [Body.parts, inside, Part.spelled, Option.elim_some, Option.elim_none, List.append_nil]
  exact whole

/-- The query inside a count, which has a row with the number one for each row of the body. -/
def Body.numbered (body : Body) : Clauses :=
  { body with distinct := false, list := [.keyword "1", .keyword "c__"] }

/-- With groups, the rows of the query inside are counted. -/
theorem counting?_rows (restricted : Follows pieces body.parts) (sound : body.IsSound) :
    Piece.counting? (.text "SELECT COUNT(*) FROM (SELECT 1 c__" :: (pieces ++ [.text ") t"])) =
      some (.rows body.numbered) := by
  have list : Phrase (fun _ => .unknown) body.numbered.list :=
    (Phrase.keyword "1").append (Phrase.keyword "c__")
  have inner : Renders _ (.text "SELECT 1 c__" :: pieces) (body.numbered.parts none []) :=
    Clauses.renders_parts rfl ⟨rfl, (Phrase.keyword "SELECT").append list⟩ restricted
  have read : Clauses.ofRows? (Part.written (body.numbered.parts none [])) = some body.numbered :=
    Clauses.ofRows?_written sound rfl rfl rfl (fun _ none => by cases none) (.nil _) inner.phrase
  have apart : letters "SELECT COUNT(*) FROM (SELECT 1 c__" =
      letters "SELECT COUNT(*)" ++ letters " FROM " ++ letters "(" ++ letters "SELECT 1 c__" := rfl
  have behind : letters ") t" = letters ")" ++ letters " t" := rfl
  have counted := counting?_counted (Clauses.follows_inside inner) ⟨rfl, nofun, nofun, nofun⟩
  unfold Piece.counting? Piece.enclosed at counted
  unfold Piece.counting?
  simp only [List.flatMap_cons, List.flatMap_append, List.flatMap_nil, List.append_nil,
    List.cons_append, List.nil_append, List.append_assoc, Piece.glyphs, apart, behind] at counted ⊢
  rw [counted]
  exact congrArg (Option.map Counting.rows) read

end

/-! ### Numbers of rows -/

section

variable {Record Row : Type} [DecidableEq Row] (database : Database Record Row)

/-- Without groups each record makes a row. -/
theorem Counting.number_records {query : Clauses} (keys : query.keys = none)
    (kept : query.kept = none) :
    (records query.source query.condition).number database = (query.allRows database).length := by
  rw [number, Clauses.allRows, Clauses.groups, keys, kept, List.length_map]
  simp only [Option.all_none, List.filter_true, List.length_map]

/-- The query inside a count has as many rows as any other with its body. -/
theorem Counting.number_rows (query : Clauses) :
    (rows query.toBody.numbered).number database = (query.allRows database).length :=
  Clauses.length_allRows_congr database _ rfl rfl rfl rfl

end

namespace Select

variable {dialect : Dialect} {select : Select} {pieces : List Piece} {body : Body}

/-- What the statements of a query and of its count are read as. -/
structure Reads (dialect : Dialect) (select : Select) (statement count : Statement)
    (query : Clauses) (counting : Counting) : Prop where
  queried : ∃ pieces, statement = select.statement dialect "select" pieces ∧
    Piece.query? pieces = some query
  counted : ∃ pieces, count = select.statement dialect "count" pieces ∧
    Piece.counting? pieces = some counting
  distinct : query.distinct = select.distinct

/-- The count of a query computes the number of the rows of its body, whichever are dropped. -/
theorem buildCount_reads (restricted : select.bodyPieces dialect = .ok pieces)
    (follows : Follows pieces body.parts) (sound : body.IsSound)
    (named : ∃ token rest, body.source = .token token :: rest)
    (keyed : body.keys.isSome = !select.groups.isEmpty)
    (having : body.kept.isSome = !select.groupFilter.isEmpty) :
    ∃ countPieces counting,
      select.buildCount dialect = .ok (select.statement dialect "count" countPieces) ∧
      Piece.counting? countPieces = some counting ∧
      ∀ query : Clauses, query.toBody = body →
        ∀ {Record Row : Type} [DecidableEq Row] (database : Database Record Row),
          counting.number database = (query.allRows database).length := by
  unfold buildCount
  rw [restricted]
  cases grouped : select.isGrouped with
  | true =>
    refine ⟨_, _, rfl, counting?_rows follows sound, fun query same _ _ _ database => ?_⟩
    subst same
    exact Counting.number_rows database query
  | false =>
    rw [isGrouped, Bool.not_eq_false', Bool.and_eq_true] at grouped
    rw [grouped.1, Bool.not_true, Option.isSome_eq_false_iff, Option.isNone_iff_eq_none] at keyed
    rw [grouped.2, Bool.not_true, Option.isSome_eq_false_iff, Option.isNone_iff_eq_none] at having
    refine ⟨_, _, rfl, counting?_records follows sound named keyed having,
      fun query same _ _ _ database => ?_⟩
    subst same
    exact Counting.number_records database keyed having

/-- **The number of rows.** A query of columns that takes all rows has as many rows, before any is
dropped, as its count computes, whatever the tables hold. So the count is the number of its rows
just if the query is not DISTINCT, or its rows repeat nothing. -/
theorem number_eq_length_iff {statement : Statement} (built : select.build dialect = .ok statement)
    (unpaged : select.isPaged = false) (columns : select.columns.all SelectItem.isColumn = true)
    (keeps : select.keepsWithin dialect = true) :
    ∃ count query counting, select.buildCount dialect = .ok count ∧
      select.Reads dialect statement count query counting ∧
      ∀ {Record Row : Type} [DecidableEq Row] (database : Database Record Row),
        counting.number database = (query.allRows database).length ∧
        (counting.number database = (query.rows database).length ↔
          (select.distinct = true → (query.allRows database).Nodup)) := by
  obtain ⟨_, all, made⟩ := bind_eq_ok.mp built
  rw [pagePieces, unpaged, Bool.not_false, if_pos rfl] at all
  obtain ⟨list, pieces, order, listed, restricted, sorted, rfl⟩ := parts_of_allPieces all
  obtain ⟨body, follows, sound, named, keyed, having⟩ :=
    select.bodyPieces_spells dialect keeps pieces restricted
  obtain ⟨countPieces, counting, counted, read, number⟩ :=
    buildCount_reads restricted follows sound named keyed having
  have ordered : select.order.all (SortKey.keepsWithin dialect) = true := by
    rw [keepsWithin, Bool.and_eq_true] at keeps
    exact keeps.2
  obtain ⟨_, sorted⟩ := select.orderPieces_spells dialect ordered order sorted
  obtain ⟨_, locks, opens⟩ := LockMode.follows select.lock
  obtain ⟨query, whole, distinct, same⟩ := select.query?_spelled
    (select.columnPieces_namesOnly dialect columns list listed) follows sound sorted locks opens
  obtain rfl := Except.ok.inj made
  refine ⟨_, query, counting, counted, ⟨⟨_, rfl, whole⟩, ⟨_, rfl, read⟩, distinct⟩,
    fun database => ?_⟩
  rw [number query same database, ← distinct]
  exact ⟨rfl, query.length_allRows_eq_iff database⟩

/-- Of groups that a join and two filters leave, the count computes how many there are. -/
theorem number_eq_length_groups :
    let dialect : Dialect := {}
    let select : Select :=
      { source := "orders o"
        columns := [.column "o.buyer"]
        joins := [⟨.left, "items i", .template "i.order_id = o.id" []⟩]
        filter := ⟨[.compare "o.year" .equal (.int 2024)]⟩
        groups := [.column "o.buyer"]
        groupFilter := ⟨[.template "COUNT(*) > ?" [.int 3]]⟩
        order := [.descending "o.buyer"] }
    select.isPaged = false ∧ select.columns.all SelectItem.isColumn = true ∧
      select.keepsWithin dialect = true ∧
      ∃ statement count query counting, select.build dialect = .ok statement ∧
        select.buildCount dialect = .ok count ∧
        select.Reads dialect statement count query counting ∧
        ∀ {Record Row : Type} [DecidableEq Row] (database : Database Record Row),
          counting.number database = (query.rows database).length := by
  intro dialect select
  obtain ⟨statement, built⟩ : ∃ statement, select.build dialect = .ok statement :=
    exists_of_isOk (by decide +kernel)
  have keeps : select.keepsWithin dialect = true := by decide +kernel
  obtain ⟨count, query, counting, counted, reads, number⟩ :=
    number_eq_length_iff built rfl rfl keeps
  refine ⟨rfl, rfl, keeps, statement, count, query, counting, built, counted, reads,
    fun database => ?_⟩
  exact (number database).2.mpr fun distinct => by cases distinct

/-- A column with one value in two records makes one row, but the count computes two. -/
theorem distinct_counted_with_repeats :
    let dialect : Dialect := {}
    let select : Select := { source := "t", columns := [.column "a"], distinct := true }
    let database : Database Nat Nat :=
      { records := fun _ => [7, 7]
        holds := fun _ _ => true
        groups := fun _ filtered => filtered.map ([·])
        keeps := fun _ _ => true
        row := fun _ group => group.headD 0 }
    ∃ statement count query counting, select.build dialect = .ok statement ∧
      select.buildCount dialect = .ok count ∧
      select.Reads dialect statement count query counting ∧
      query.rows database = [7] ∧ counting.number database = 2 := by
  intro dialect select database
  let query : Clauses :=
    { source := [.token (.name ['T'])], condition := none, keys := none, kept := none
      distinct := true, list := [.token (.name ['A'])] }
  let body : List Piece := [.text " FROM ", .text "\"T\""]
  have paged : select.pagePieces dialect =
      .ok (.text "SELECT DISTINCT " :: .text "\"A\"" :: body) := by decide +kernel
  have restricted : select.bodyPieces dialect = .ok body := by decide +kernel
  have built : select.build dialect = .ok _ := congrArg (· >>= _) paged
  have counted : select.buildCount dialect = .ok _ := congrArg (· >>= _) restricted
  exact ⟨_, _, query, .records query.source query.condition, built, counted,
    ⟨⟨_, rfl, rfl⟩, ⟨_, rfl, rfl⟩, rfl⟩, rfl, rfl⟩

end Select

end OracleSql
