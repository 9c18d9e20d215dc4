/-
This file compares a query with the query of its count. The clauses FROM to HAVING are the same in
both, and no marker comes before them: what is selected in front of them binds nothing, neither does
a query around them. So they are one text in both, with the same markers for the same values. Behind
them a query binds no more than the numbers of its page. Order, page and lock have no say in the
count.
-/

import OracleSql.Proofs.Batch.Selected
import OracleSql.Proofs.Condition.Tree
import OracleSql.Proofs.Query.Parts

namespace OracleSql

/-! ### Written pieces -/

namespace Piece

/-- Whether the piece is text or a value without a name. -/
def isWritten : Piece → Bool
  | text _ => true
  | value _ => true
  | _ => false

variable {pieces : List Piece}

theorem isWritten_of_isText (texts : pieces.all isText = true) : pieces.all isWritten = true := by
  rw [List.all_eq_true] at texts ⊢
  intro piece member
  have text := texts piece member
  cases piece with
  | text sql => rfl
  | _ => cases text

theorem isWritten_enclosed (opening closing : String) (inner : pieces.all isWritten = true) :
    (enclosed opening closing pieces).all isWritten = true := by
  rw [enclosed, List.all_cons, List.all_append, inner]
  rfl

/-- Written pieces bind their values in order. -/
theorem exists_writes (style : MarkerStyle) (before : Nat) (written : pieces.all isWritten = true) :
    ∃ text, Writes style before pieces (pieces.filterMap value?) text := by
  induction pieces generalizing before with
  | nil => exact ⟨"", .nil before⟩
  | cons piece rest inductionHypothesis =>
    rw [List.all_cons, Bool.and_eq_true] at written
    cases piece with
    | text sql =>
      obtain ⟨text, others⟩ := inductionHypothesis before written.2
      exact ⟨sql ++ text, .text sql others⟩
    | value bound =>
      obtain ⟨text, others⟩ := inductionHypothesis (before + 1) written.2
      exact ⟨_, .value bound others⟩
    | _ => cases written.1

end Piece

/-! ### The parts of a query -/

section

variable (dialect : Dialect)

/-- A template without names writes its values in order. -/
theorem Dialect.fill_written {args : Args} (unnamed : args.named = []) (unused : List Value)
    (lexemes : List Marker.Lexeme) :
    Ensures (fun pieces => pieces.all Piece.isWritten = true ∧
      (unused = [] → pieces.all Piece.isText = true)) (dialect.fill args unused lexemes) := by
  induction lexemes generalizing unused with
  | nil =>
    rw [fill]
    split
    · exact Ensures.ok ⟨rfl, fun _ => rfl⟩
    · exact Ensures.error _
  | cons lexeme rest inductionHypothesis =>
    cases lexeme with
    | text written => exact Ensures.map (inductionHypothesis unused) fun _ holds => holds
    | native name => exact Ensures.map (inductionHypothesis unused) fun _ holds => holds
    | positional =>
      cases unused with
      | nil => exact Ensures.error _
      | cons value others =>
        exact Ensures.map (inductionHypothesis others)
          fun _ holds => ⟨holds.1, fun none => absurd none (List.cons_ne_nil _ _)⟩
    | named name =>
      rw [fill, dialect.namedPiece_of_unnamed unnamed]
      exact Ensures.error _

theorem Dialect.fragment_written (sql : String) {args : Args} (unnamed : args.named = []) :
    Ensures (fun pieces => pieces.all Piece.isWritten = true ∧
      (args.positional = [] → pieces.all Piece.isText = true)) (dialect.fragment sql args) := by
  refine Ensures.bind (Ensures.anything _) fun lexemes _ => ?_
  split
  · exact Ensures.error _
  · exact dialect.fill_written unnamed _ _

theorem TableReference.pieces_isText (text : String) :
    Ensures (fun written => written.all Piece.isText = true) (pieces dialect text) := by
  have aliased (name shortName : String) :
      Ensures (fun written => written.all Piece.isText = true)
        (aliasedPieces dialect name shortName) := by
    refine Ensures.bind (dialect.namePiece_isText name) fun first named => ?_
    refine Ensures.bind (dialect.namePiece_isText shortName) fun second short => Ensures.ok ?_
    rw [List.all_append, List.all_cons, named, short]
    rfl
  unfold pieces
  split
  · exact Ensures.error _
  · exact dialect.namePiece_isText _
  · exact aliased _ _
  · split
    · exact aliased _ _
    · exact Ensures.error _
  · exact Ensures.error _

namespace Condition

theorem membershipPieces_written (column : String) (values : List Value) (negated : Bool) :
    Ensures (fun pieces => pieces.all Piece.isWritten = true)
      (membershipPieces dialect column values negated) := by
  unfold membershipPieces
  split
  · exact Ensures.ok rfl
  · refine Ensures.bind (Ensures.anything _) fun name _ => Ensures.ok ?_
    have lists : (Piece.join (if negated then " AND " else " OR ")
        ((chunks maxListLength values).map (listPieces dialect name negated))).all
          Piece.isWritten = true :=
      Piece.all_join rfl _ (List.forall_mem_map.mpr fun chunk _ => Piece.isWritten_enclosed _ _
        (Piece.all_join rfl _ (List.forall_mem_map.mpr fun _ _ => rfl)))
    exact parenthesized_holds (fun pieces => pieces.all Piece.isWritten = true)
      (fun _ => Piece.isWritten_enclosed "(" ")") _ lists

theorem pieces_written (condition : Condition) :
    Ensures (fun pieces => pieces.all Piece.isWritten = true) (condition.pieces dialect) := by
  induction condition with
  | all parts inductionHypothesis | any parts inductionHypothesis =>
    rw [pieces]
    exact Ensures.map (partPieces_each (fun pieces => pieces.all Piece.isWritten = true)
      (fun _ => Piece.isWritten_enclosed "(" ")") dialect _ parts inductionHypothesis)
      fun members each => Piece.all_join rfl members each
  | negation inner inductionHypothesis =>
    rw [pieces]
    split
    · exact Ensures.ok rfl
    · exact Ensures.map inductionHypothesis fun _ written =>
        Piece.isWritten_enclosed "NOT (" ")" written
  | compare column comparison value =>
    rw [pieces]
    refine Ensures.bind (Ensures.anything _) fun name _ => ?_
    dsimp only
    split
    · exact Ensures.ok rfl
    · exact Ensures.ok rfl
  | nullness column isNull | range column low high negated =>
    rw [pieces]
    exact Ensures.bind (Ensures.anything _) fun name _ => Ensures.ok rfl
  | membership column values negated =>
    rw [pieces]
    exact membershipPieces_written dialect column values negated
  | template sql values | fragment sql =>
    rw [pieces]
    exact (dialect.fragment_written sql rfl).mono fun _ holds => holds.1
  | always | never =>
    rw [pieces]
    exact Ensures.ok rfl

end Condition

theorem Filter.clause_written (keyword : String) (filter : Filter) :
    Ensures (fun pieces => pieces.all Piece.isWritten = true) (filter.clause dialect keyword) := by
  unfold clause pieces
  split
  · exact Ensures.ok rfl
  · have parts := Condition.partPieces_each
      (fun pieces => pieces.all Piece.isWritten = true)
      (fun _ => Piece.isWritten_enclosed "(" ")") dialect filter.enclosed filter.conditions
      fun condition _ => condition.pieces_written dialect
    exact Ensures.map (Ensures.map parts fun members each => Piece.all_join rfl members each)
      fun _ written => written

theorem SelectItem.listPieces_isText (items : List SelectItem) :
    Ensures (fun pieces => pieces.all Piece.isText = true) (listPieces dialect items) := by
  refine Ensures.map (Ensures.mapM fun item _ => ?_) fun members each =>
    Piece.all_join rfl members each
  cases item with
  | column name => exact dialect.namePiece_isText name
  | expression sql => exact (dialect.fragment_written sql rfl).mono fun _ holds => holds.2 rfl

theorem Join.pieces_written (join : Join) :
    Ensures (fun pieces => pieces.all Piece.isWritten = true) (join.pieces dialect) := by
  refine Ensures.bind (TableReference.pieces_isText dialect join.table) fun table named => ?_
  refine Ensures.bind (join.on.pieces_written dialect) fun condition written => Ensures.ok ?_
  rw [List.all_cons, List.all_append, List.all_cons, Piece.isWritten_of_isText named, written]
  rfl

theorem SortKey.pieces_isText (key : SortKey) :
    Ensures (fun pieces => pieces.all Piece.isText = true) (key.pieces dialect) := by
  cases key with
  | ascending column | descending column =>
    refine Ensures.map (dialect.namePiece_isText column) fun pieces named => ?_
    rw [List.all_append, named]
    rfl
  | expression sql => exact (dialect.fragment_written sql rfl).mono fun _ holds => holds.2 rfl

end

namespace Select

section

variable (dialect : Dialect) (select : Select)

theorem listClause_isText (keyword : String) (items : List SelectItem) :
    Ensures (fun pieces => pieces.all Piece.isText = true) (listClause dialect keyword items) := by
  unfold listClause
  split
  · exact Ensures.ok rfl
  · exact Ensures.map (SelectItem.listPieces_isText dialect items) fun _ texts => texts

theorem bodyPieces_written :
    Ensures (fun pieces => pieces.all Piece.isWritten = true) (select.bodyPieces dialect) := by
  refine Ensures.bind (TableReference.pieces_isText dialect select.source) fun source named => ?_
  refine Ensures.bind (Ensures.mapM fun join _ => Join.pieces_written dialect join)
    fun joins joined => ?_
  refine Ensures.bind (select.filter.clause_written dialect " WHERE ") fun rows filtered => ?_
  refine Ensures.bind (listClause_isText dialect " GROUP BY " select.groups)
    fun groups grouped => ?_
  refine Ensures.bind (select.groupFilter.clause_written dialect " HAVING ")
    fun kept having => Ensures.ok ?_
  have flat : joins.flatten.all Piece.isWritten = true := by
    rw [List.all_flatten, List.all_eq_true]
    exact joined
  rw [List.all_cons, List.all_append, List.all_append, List.all_append, List.all_append,
    Piece.isWritten_of_isText named, flat, filtered, Piece.isWritten_of_isText grouped, having]
  rfl

theorem columnPieces_isText :
    Ensures (fun pieces => pieces.all Piece.isText = true) (select.columnPieces dialect) := by
  unfold columnPieces
  split
  · exact Ensures.ok rfl
  · exact SelectItem.listPieces_isText dialect select.columns

theorem orderPieces_isText :
    Ensures (fun pieces => pieces.all Piece.isText = true) (select.orderPieces dialect) := by
  unfold orderPieces
  split
  · exact Ensures.ok rfl
  · refine Ensures.bind (Ensures.mapM fun key _ => SortKey.pieces_isText dialect key)
      fun keys each => Ensures.ok ?_
    rw [List.all_cons, Piece.all_join rfl keys each]
    rfl

end

/-! ### Around the query of all rows -/

/-- The values that are bound for the numbers of the page. -/
def pageValues (style : PageStyle) (select : Select) : List Value :=
  match style with
  | .offsetFetch => (select.offset.toList ++ select.limit.toList).map toValue
  | .rowNumber =>
    let skipped := select.offset.getD 0
    if select.isPaged then (select.limit.toList.map (skipped + ·) ++ [skipped]).map toValue else []

/-- Around a query stand texts, and behind it the values are bound. -/
def Surrounded (inner : List Piece) (values : List Value) (pieces : List Piece) : Prop :=
  ∃ before behind, pieces = before ++ inner ++ behind ∧ before.all Piece.isText = true ∧
    behind.all Piece.isWritten = true ∧ behind.filterMap Piece.value? = values

variable {dialect : Dialect} {select : Select} {inner pieces : List Piece}

theorem lastRow_eq {skipped count last : UInt64} (found : lastRow skipped count = .ok last) :
    skipped + count = last := by
  unfold lastRow at found
  split at found
  · exact Except.ok.inj found
  · cases found

theorem surrounded_rowNumberPieces (paged : select.isPaged = true)
    (built : select.rowNumberPieces inner = .ok pieces) :
    Surrounded inner (select.pageValues .rowNumber) pieces := by
  unfold rowNumberPieces at built
  unfold pageValues
  dsimp only
  rw [if_pos paged]
  cases limit : select.limit with
  | none =>
    rw [limit] at built
    cases built
    exact ⟨[_], _, rfl, rfl, rfl, rfl⟩
  | some count =>
    rw [limit] at built
    obtain ⟨_, numbered, same⟩ := bind_eq_ok.mp built
    obtain ⟨last, found, rfl⟩ := map_eq_ok.mp numbered
    obtain rfl := lastRow_eq found
    obtain rfl := Except.ok.inj same
    exact ⟨[_], _, rfl, rfl, rfl, rfl⟩

/-- In front of the query of all rows nothing is bound, and behind it the numbers of the page. -/
theorem surrounded_pagePieces (built : select.pagePieces dialect = .ok pieces) :
    ∃ inner, select.allPieces dialect = .ok inner ∧
      Surrounded inner (select.pageValues dialect.pageStyle) pieces := by
  unfold pagePieces at built
  by_cases whole : select.isPaged = false
  · rw [whole, Bool.not_false, if_pos rfl] at built
    refine ⟨pieces, built, [], [], (List.append_nil _).symm, rfl, rfl, ?_⟩
    unfold pageValues
    cases dialect.pageStyle with
    | offsetFetch =>
      rw [isPaged, Bool.or_eq_false_iff, Option.isSome_eq_false_iff, Option.isSome_eq_false_iff,
        Option.isNone_iff_eq_none, Option.isNone_iff_eq_none] at whole
      rw [whole.1, whole.2]
      rfl
    | rowNumber =>
      dsimp only
      rw [whole]
      rfl
  · rw [Bool.not_eq_false] at whole
    rw [whole, Bool.not_true, if_neg Bool.false_ne_true] at built
    obtain ⟨_, unlocked⟩ := guarded_eq_ok.mp built
    obtain ⟨inner, all, cut⟩ := bind_eq_ok.mp unlocked
    refine ⟨inner, all, ?_⟩
    cases style : dialect.pageStyle with
    | offsetFetch =>
      rw [style] at cut
      cases cut
      refine ⟨[], select.offsetFetchPieces, rfl, rfl, ?_⟩
      unfold offsetFetchPieces pageValues
      cases select.offset <;> cases select.limit <;> exact ⟨rfl, rfl⟩
    | rowNumber =>
      rw [style] at cut
      exact surrounded_rowNumberPieces whole cut

end Select

/-! ### Statements with one body -/

/-- The binds with further values behind them. -/
inductive Binds.Continued : (first : Binds) → (more : List Value) → (binds : Binds) → Prop
  | positional (values more : List Value) :
    Continued (.positional values) more (.positional (values ++ more))
  | named (pairs further : List (String × Value)) :
    Continued (.named pairs) (further.map Prod.snd) (.named (pairs ++ further))

theorem MarkerStyle.markerNames_add (style : MarkerStyle) (values more : Nat) :
    style.markerNames (values + more) 0 = style.markerNames values 0 ++
      (List.range' (values + 1) more).map style.valueName := by
  induction more with
  | zero => exact (List.append_nil _).symm
  | succ more inductionHypothesis =>
    rw [← Nat.add_assoc, markerNames_value, inductionHypothesis, List.range'_1_concat,
      List.map_append, ← List.append_assoc, Nat.add_right_comm]
    rfl

theorem MarkerStyle.bound_continued (style : MarkerStyle) (values more : List Value) :
    (style.bound values).Continued more (style.bound (values ++ more)) := by
  cases style with
  | numbered => exact .positional values more
  | named =>
    have further := Binds.Continued.named
      ((MarkerStyle.named.markerNames values.length 0).zip values)
      (((List.range' (values.length + 1) more.length).map MarkerStyle.named.valueName).zip more)
    rw [List.map_snd_zip (by rw [List.length_map, List.length_range']),
      ← List.zip_append (by rw [length_markerNames, Nat.add_zero]), ← markerNames_add,
      ← List.length_append] at further
    exact further

theorem Assembly.binds_extended (style : MarkerStyle) (values : List Value) (text : String) :
    (({} : Assembly).extended style text values).binds style = style.bound values := by
  have names := style.markerNames_add 0 values.length
  rw [MarkerStyle.markerNames_nil, Nat.zero_add, List.nil_append] at names
  cases style with
  | numbered =>
    show Binds.positional (values.reverse ++ []).reverse = Binds.positional values
    rw [List.append_nil, List.reverse_reverse]
  | named =>
    rw [Nat.zero_add] at names
    show Binds.named ((List.zip _ values).reverse ++ []).reverse = Binds.named (List.zip _ values)
    rw [List.append_nil, List.reverse_reverse, names]

theorem Dialect.assemble_written (dialect : Dialect) {pieces : List Piece} {values : List Value}
    {text : String} (writes : Piece.Writes dialect.markerStyle 0 pieces values text)
    (shape : Shape) :
    (dialect.assemble pieces shape).sql = text ∧
      (dialect.assemble pieces shape).binds = dialect.markerStyle.bound values := by
  have written := writes.foldl_eq {} rfl
  constructor
  · exact (congrArg Assembly.sql written).trans String.empty_append
  · exact (congrArg (Assembly.binds dialect.markerStyle) written).trans
      (Assembly.binds_extended dialect.markerStyle values text)

namespace Select

/-- The text in front of what is selected. -/
def head (select : Select) : String :=
  if select.distinct then "SELECT DISTINCT " else "SELECT "

/-- The text in front of what is counted. -/
def countHead (select : Select) : String :=
  if select.isGrouped then "SELECT COUNT(*) FROM (SELECT 1 c__" else "SELECT COUNT(*)"

/-- The text behind what is counted. -/
def countTail (select : Select) : String :=
  if select.isGrouped then ") t" else ""

/-- The body is one text for a query and its count, behind the selected list in the one and behind a
fixed head in the other. Its values come first in both. -/
structure SharesBody (dialect : Dialect) (select : Select) (statement count : Statement)
    (list body : String) (values : List Value) : Prop where
  selects : ∃ pieces, select.columnPieces dialect = .ok pieces ∧
    Piece.Writes dialect.markerStyle 0 pieces [] list
  restricts : ∃ pieces, select.bodyPieces dialect = .ok pieces ∧
    Piece.Writes dialect.markerStyle 0 pieces values body
  queried : ∃ opening closing, statement.sql = opening ++ (select.head ++ list ++ body) ++ closing
  counted : count.sql = select.countHead ++ body ++ select.countTail
  binds : count.binds = dialect.markerStyle.bound values
  continued : count.binds.Continued (select.pageValues dialect.pageStyle) statement.binds

variable {dialect : Dialect} {select : Select} {pieces : List Piece} {values : List Value}
  {list body : String}

/-- The query of all rows consists of the list, the body and the order. -/
theorem parts_of_allPieces {inner : List Piece} (all : select.allPieces dialect = .ok inner) :
    ∃ columns body order, select.columnPieces dialect = .ok columns ∧
      select.bodyPieces dialect = .ok body ∧ select.orderPieces dialect = .ok order ∧
      inner = .text select.head :: (columns ++ body ++ order) := by
  obtain ⟨columns, listed, rest⟩ := bind_eq_ok.mp all
  obtain ⟨body, restricted, rest⟩ := bind_eq_ok.mp rest
  obtain ⟨order, sorted, same⟩ := bind_eq_ok.mp rest
  exact ⟨columns, body, order, listed, restricted, sorted, (Except.ok.inj same).symm⟩

/-- A query writes its body behind the list, and then binds the numbers of its page. -/
theorem writes_of_surrounded {columns order around : List Piece} {page : List Value}
    (surrounded : Surrounded (.text select.head :: (columns ++ pieces ++ order)) page around)
    (selects : Piece.Writes dialect.markerStyle 0 columns [] list)
    (restricts : Piece.Writes dialect.markerStyle 0 pieces values body)
    (sorted : order.all Piece.isText = true) :
    ∃ opening closing, Piece.Writes dialect.markerStyle 0 around (values ++ page)
      (opening ++ (select.head ++ list ++ body) ++ closing) := by
  obtain ⟨before, behind, rfl, opened, closed, rfl⟩ := surrounded
  obtain ⟨opening, first⟩ := Piece.exists_writes_of_isText dialect.markerStyle opened
  obtain ⟨sorting, third⟩ := Piece.exists_writes_of_isText dialect.markerStyle sorted
  obtain ⟨closing, last⟩ := Piece.exists_writes dialect.markerStyle (0 + values.length) closed
  have inner := ((selects.after restricts).followed (third _)).append last
  have whole := (first 0).after (.text select.head inner)
  refine ⟨opening, sorting ++ closing, ?_⟩
  simp only [String.append_assoc, List.append_assoc, List.cons_append] at whole ⊢
  exact whole

/-- The count writes the body behind a fixed text, and binds nothing else. -/
theorem buildCount_writes (restricted : select.bodyPieces dialect = .ok pieces)
    (writes : Piece.Writes dialect.markerStyle 0 pieces values body) :
    ∃ count, select.buildCount dialect = .ok count ∧
      count.sql = select.countHead ++ body ++ select.countTail ∧
      count.binds = dialect.markerStyle.bound values := by
  unfold buildCount countHead countTail
  rw [restricted]
  cases select.isGrouped with
  | true =>
    refine ⟨_, rfl, ?_⟩
    rw [String.append_assoc]
    exact dialect.assemble_written (.text _ (writes.followed (.single _ ") t"))) .rows
  | false =>
    refine ⟨_, rfl, ?_⟩
    rw [if_neg Bool.false_ne_true, if_neg Bool.false_ne_true, if_neg Bool.false_ne_true,
      String.append_empty]
    exact dialect.assemble_written (.text _ writes) .rows

/-- **A query that can be built can be counted, and both statements have one body.** The count binds
the values of the body; the query binds them too, and then the numbers of its page. The count is the
same whatever order, page and lock the query has. -/
theorem build_shares_body {statement : Statement} (built : select.build dialect = .ok statement) :
    ∃ count list body values, select.buildCount dialect = .ok count ∧
      select.SharesBody dialect statement count list body values ∧
      ∀ order limit offset lock,
        ({ select with order, limit, offset, lock } : Select).buildCount dialect = .ok count := by
  obtain ⟨_, page, same⟩ := bind_eq_ok.mp built
  obtain ⟨_, all, surrounded⟩ := surrounded_pagePieces page
  obtain ⟨columns, pieces, order, listed, restricted, sorted, rfl⟩ := parts_of_allPieces all
  obtain ⟨list, first⟩ := Piece.exists_writes_of_isText dialect.markerStyle
    (select.columnPieces_isText dialect columns listed)
  obtain ⟨body, second⟩ := Piece.exists_writes dialect.markerStyle 0
    (select.bodyPieces_written dialect pieces restricted)
  obtain ⟨count, made, counted, binds⟩ := buildCount_writes restricted second
  obtain ⟨opening, closing, writes⟩ := writes_of_surrounded surrounded (first 0) second
    (select.orderPieces_isText dialect order sorted)
  have locks : (select.lock.toList.map fun mode => Piece.text mode.sql).all Piece.isText = true :=
    List.all_eq_true.mpr (List.forall_mem_map.mpr fun _ _ => rfl)
  obtain ⟨lock, locked⟩ := Piece.exists_writes_of_isText dialect.markerStyle locks
  obtain ⟨sql, bound⟩ := dialect.assemble_written (writes.followed (locked _)) .rows
  obtain rfl := Except.ok.inj same
  refine ⟨count, list, body, pieces.filterMap Piece.value?, made, ?_, fun _ _ _ _ => made⟩
  refine ⟨⟨columns, listed, first 0⟩, ⟨pieces, restricted, second⟩, ?_, counted, binds, ?_⟩
  · exact ⟨opening, closing ++ lock, sql.trans String.append_assoc⟩
  · rw [binds]
    exact bound.symm ▸ dialect.markerStyle.bound_continued _ _

/-- A page of groups, numbered around the query, has the body of its count. Behind the two values of
the body it binds the numbers of its last row and of the skipped ones. -/
theorem build_shares_body_page_of_groups :
    let dialect : Dialect := { pageStyle := .rowNumber, markerStyle := .named }
    let select : Select :=
      { source := "orders o"
        columns := [.column "o.buyer"]
        filter := ⟨[.compare "o.year" .equal (.int 2024)]⟩
        groups := [.column "o.buyer"]
        groupFilter := ⟨[.template "COUNT(*) > ?" [.int 3]]⟩
        order := [.descending "o.buyer"]
        limit := some 5
        offset := some 10 }
    ∃ statement count list body values, select.build dialect = .ok statement ∧
      select.buildCount dialect = .ok count ∧
      select.SharesBody dialect statement count list body values ∧
      select.pageValues dialect.pageStyle = [.int 15, .int 10] := by
  intro dialect select
  obtain ⟨statement, built⟩ : ∃ statement, select.build dialect = .ok statement :=
    exists_of_isOk (by decide +kernel)
  obtain ⟨count, list, body, values, made, shares, _⟩ := build_shares_body built
  exact ⟨statement, count, list, body, values, built, made, shares, by decide +kernel⟩

end Select

end OracleSql
