/-
This file follows the builders through the two styles of markers. The style decides only over names
that a caller gave to markers, and the builders have none: a part that is written by hand takes its
values by their order. So each clause fails in both styles with the same error, or consists in both
of the same pieces, none of which has a name of its own.
-/

import OracleSql.Proofs.Condition.Tree
import OracleSql.Proofs.Query.Parts
import OracleSql.Proofs.Returning.Form
import OracleSql.Proofs.Styles.Templates
import OracleSql.Request

namespace OracleSql

namespace Piece

/-! ### Shared pieces -/

/-- The pieces are the same, and none of them has a name that was given to it. -/
def Shared (left right : List Piece) : Prop :=
  left = right ∧ left.all isPlain = true

namespace Shared

variable {left right first second : List Piece}

theorem of_isPlain {pieces : List Piece} (plain : pieces.all isPlain = true) :
    Shared pieces pieces :=
  ⟨rfl, plain⟩

theorem append (shared : Shared left right) (further : Shared first second) :
    Shared (left ++ first) (right ++ second) := by
  obtain ⟨rfl, plain⟩ := shared
  obtain ⟨rfl, also⟩ := further
  refine of_isPlain ?_
  rw [List.all_append, plain, also]
  rfl

theorem text (sql : String) (shared : Shared left right) :
    Shared (.text sql :: left) (.text sql :: right) :=
  (of_isPlain rfl : Shared [.text sql] [.text sql]).append shared

theorem value (bound : Value) (shared : Shared left right) :
    Shared (.value bound :: left) (.value bound :: right) :=
  (of_isPlain rfl : Shared [.value bound] [.value bound]).append shared

theorem enclosed (opening closing : String) (shared : Shared left right) :
    Shared (Piece.enclosed opening closing left) (Piece.enclosed opening closing right) :=
  (shared.append (of_isPlain rfl)).text opening

theorem members {lefts rights : List (List Piece)} (shared : List.Forall₂ Shared lefts rights) :
    lefts = rights ∧ ∀ member ∈ lefts, member.all isPlain = true := by
  induction shared with
  | nil => exact ⟨rfl, fun _ member => absurd member List.not_mem_nil⟩
  | cons head _ inductionHypothesis =>
    obtain ⟨rfl, plain⟩ := head
    obtain ⟨rfl, others⟩ := inductionHypothesis
    exact ⟨rfl, List.forall_mem_cons.mpr ⟨plain, others⟩⟩

theorem join (separator : String) {lefts rights : List (List Piece)}
    (shared : List.Forall₂ Shared lefts rights) :
    Shared (Piece.join separator lefts) (Piece.join separator rights) := by
  obtain ⟨rfl, each⟩ := members shared
  exact of_isPlain (all_join rfl lefts each)

theorem flatten {lefts rights : List (List Piece)} (shared : List.Forall₂ Shared lefts rights) :
    Shared lefts.flatten rights.flatten := by
  obtain ⟨rfl, each⟩ := members shared
  exact of_isPlain (by rw [List.all_flatten, List.all_eq_true]; exact each)

end Shared

end Piece

open Piece (Shared)

/-- What is drafted in both styles: the same error, or the same pieces. -/
abbrev Draft.Shared (first second : Draft) : Prop :=
  Matched Piece.Shared first second

/-! ### Names and templates -/

namespace Dialect

variable (dialect : Dialect)

theorem nameText_shared (name : String) :
    Matched Eq ((dialect.styled .numbered).nameText name)
      ((dialect.styled .named).nameText name) :=
  Matched.refl (dialect.nameText name)

theorem namePiece_shared (name : String) :
    Draft.Shared ((dialect.styled .numbered).namePiece name)
      ((dialect.styled .named).namePiece name) :=
  (dialect.nameText_shared name).map fun _ _ same => same ▸ Shared.of_isPlain rfl

theorem namePieces_shared (names : List String) :
    Draft.Shared ((dialect.styled .numbered).namePieces names)
      ((dialect.styled .named).namePieces names) :=
  (Matched.mapM fun name _ => dialect.namePiece_shared name).map fun _ _ => Shared.join ", "

/-- Without names there is nothing to which the style matters. -/
theorem fill_shared {args : Args} (unnamed : args.named = []) (unused : List Value)
    (lexemes : List Marker.Lexeme) :
    Draft.Shared ((dialect.styled .numbered).fill args unused lexemes)
      ((dialect.styled .named).fill args unused lexemes) := by
  induction lexemes generalizing unused with
  | nil =>
    unfold fill
    split
    · exact .ok (Shared.of_isPlain rfl)
    · exact .error _
  | cons lexeme rest inductionHypothesis =>
    cases lexeme with
    | text written => exact (inductionHypothesis unused).map fun _ _ shared => shared.text _
    | native name => exact (inductionHypothesis unused).map fun _ _ shared => shared.text _
    | positional =>
      cases unused with
      | nil => exact .error _
      | cons value others =>
        exact (inductionHypothesis others).map fun _ _ shared => shared.value _
    | named name =>
      rw [fill, fill, namedPiece_of_unnamed _ unnamed, namedPiece_of_unnamed _ unnamed]
      exact .error _

theorem fragment_shared (sql : String) {args : Args} (unnamed : args.named = []) :
    Draft.Shared ((dialect.styled .numbered).fragment sql args)
      ((dialect.styled .named).fragment sql args) := by
  refine Matched.bindSame (Error.ofLexemes (Marker.lexemes sql)) fun lexemes => ?_
  split
  · exact .error _
  · exact dialect.fill_shared unnamed _ _

end Dialect

variable (dialect : Dialect)

theorem TableReference.pieces_shared (text : String) :
    Draft.Shared (pieces (dialect.styled .numbered) text)
      (pieces (dialect.styled .named) text) := by
  have aliased (name shortName : String) :
      Draft.Shared (aliasedPieces (dialect.styled .numbered) name shortName)
        (aliasedPieces (dialect.styled .named) name shortName) := by
    refine (dialect.namePiece_shared name).bind fun _ _ first => ?_
    refine (dialect.namePiece_shared shortName).bind fun _ _ second => .ok ?_
    exact first.append (second.text " ")
  unfold pieces
  split
  · exact .error _
  · exact dialect.namePiece_shared _
  · exact aliased _ _
  · split
    · exact aliased _ _
    · exact .error _
  · exact .error _

/-! ### Conditions -/

namespace Condition

theorem parenthesized_shared (wanted : Bool) {left right : List Piece}
    (shared : Shared left right) :
    Shared (parenthesized wanted left) (parenthesized wanted right) := by
  cases wanted with
  | false => exact shared
  | true => exact shared.enclosed "(" ")"

theorem comparePieces_shared (column : String) (comparison : Comparison) (value : Value) :
    Draft.Shared (comparePieces (dialect.styled .numbered) column comparison value)
      (comparePieces (dialect.styled .named) column comparison value) := by
  refine (dialect.nameText_shared column).bind ?_
  rintro name _ rfl
  dsimp only
  split
  · exact .ok (Shared.of_isPlain rfl)
  · exact .ok (Shared.of_isPlain rfl)

theorem membershipPieces_shared (column : String) (values : List Value) (negated : Bool) :
    Draft.Shared (membershipPieces (dialect.styled .numbered) column values negated)
      (membershipPieces (dialect.styled .named) column values negated) := by
  have list (name : String) (values : List Value) :
      (listPieces dialect name negated values).all Piece.isPlain = true := by
    have members : (Piece.join ", " (values.map fun value =>
        [valuePiece dialect value])).all Piece.isPlain = true :=
      Piece.all_join rfl _ (List.forall_mem_map.mpr fun _ _ => rfl)
    exact ((Shared.of_isPlain members).enclosed _ ")").2
  unfold membershipPieces
  split
  · exact .ok (Shared.of_isPlain rfl)
  · refine (dialect.nameText_shared column).bind ?_
    rintro name _ rfl
    refine .ok (parenthesized_shared _ (Shared.of_isPlain (Piece.all_join rfl _ ?_)))
    exact List.forall_mem_map.mpr fun chunk _ => list name chunk

theorem partPieces_shared (wanted : Condition → Bool) (parts : List Condition)
    (each : ∀ part ∈ parts, Draft.Shared (part.pieces (dialect.styled .numbered))
      (part.pieces (dialect.styled .named))) :
    Matched (List.Forall₂ Shared) (partPieces (dialect.styled .numbered) wanted parts)
      (partPieces (dialect.styled .named) wanted parts) := by
  induction parts with
  | nil => exact .ok .nil
  | cons part rest inductionHypothesis =>
    obtain ⟨first, others⟩ := List.forall_mem_cons.mp each
    rw [partPieces, partPieces]
    split
    · exact inductionHypothesis others
    · refine first.bind fun _ _ shared => ?_
      refine (inductionHypothesis others).bind fun _ _ more => .ok ?_
      exact .cons (parenthesized_shared _ shared) more

/-- A condition is written in both styles as the same pieces. -/
theorem pieces_shared (condition : Condition) :
    Draft.Shared (condition.pieces (dialect.styled .numbered))
      (condition.pieces (dialect.styled .named)) := by
  induction condition with
  | all parts inductionHypothesis =>
    rw [pieces, pieces]
    exact (partPieces_shared dialect _ parts inductionHypothesis).map fun _ _ => Shared.join _
  | any parts inductionHypothesis =>
    rw [pieces, pieces]
    exact (partPieces_shared dialect _ parts inductionHypothesis).map fun _ _ => Shared.join _
  | negation inner inductionHypothesis =>
    rw [pieces, pieces]
    split
    · exact .ok (Shared.of_isPlain rfl)
    · exact inductionHypothesis.map fun _ _ shared => shared.enclosed _ _
  | compare column comparison value =>
    rw [pieces, pieces]
    exact comparePieces_shared dialect column comparison value
  | nullness column isNull =>
    rw [pieces, pieces]
    refine (dialect.nameText_shared column).bind ?_
    rintro name _ rfl
    exact .ok (Shared.of_isPlain rfl)
  | membership column values negated =>
    rw [pieces, pieces]
    exact membershipPieces_shared dialect column values negated
  | range column low high negated =>
    rw [pieces, pieces]
    refine (dialect.nameText_shared column).bind ?_
    rintro name _ rfl
    exact .ok (Shared.of_isPlain rfl)
  | template sql values =>
    rw [pieces, pieces]
    exact dialect.fragment_shared sql rfl
  | fragment sql =>
    rw [pieces, pieces]
    exact dialect.fragment_shared sql rfl
  | always | never =>
    rw [pieces, pieces]
    exact .ok (Shared.of_isPlain rfl)

end Condition

theorem Filter.clause_shared (keyword : String) (filter : Filter) :
    Draft.Shared (filter.clause (dialect.styled .numbered) keyword)
      (filter.clause (dialect.styled .named) keyword) := by
  unfold clause pieces
  split
  · exact .ok (Shared.of_isPlain rfl)
  · have parts := Condition.partPieces_shared dialect filter.enclosed filter.conditions
      fun condition _ => condition.pieces_shared dialect
    exact (parts.map fun _ _ => Shared.join " AND ").map fun _ _ shared => shared.text keyword

/-! ### Queries -/

theorem SelectItem.listPieces_shared (items : List SelectItem) :
    Draft.Shared (listPieces (dialect.styled .numbered) items)
      (listPieces (dialect.styled .named) items) := by
  refine (Matched.mapM fun item _ => ?_).map fun _ _ => Shared.join ", "
  cases item with
  | column name => exact dialect.namePiece_shared name
  | expression sql => exact dialect.fragment_shared sql rfl

theorem Join.pieces_shared (join : Join) :
    Draft.Shared (join.pieces (dialect.styled .numbered))
      (join.pieces (dialect.styled .named)) := by
  refine (TableReference.pieces_shared dialect join.table).bind fun _ _ table => ?_
  refine (join.on.pieces_shared dialect).bind fun _ _ condition => .ok ?_
  exact (table.append (condition.text " ON ")).text _

theorem SortKey.pieces_shared (key : SortKey) :
    Draft.Shared (key.pieces (dialect.styled .numbered)) (key.pieces (dialect.styled .named)) := by
  cases key with
  | ascending column | descending column =>
    exact (dialect.namePiece_shared column).map fun _ _ named =>
      named.append (Shared.of_isPlain rfl)
  | expression sql => exact dialect.fragment_shared sql rfl

namespace Select

variable (select : Select)

theorem listClause_shared (keyword : String) (items : List SelectItem) :
    Draft.Shared (listClause (dialect.styled .numbered) keyword items)
      (listClause (dialect.styled .named) keyword items) := by
  unfold listClause
  split
  · exact .ok (Shared.of_isPlain rfl)
  · exact (SelectItem.listPieces_shared dialect items).map fun _ _ shared => shared.text keyword

theorem bodyPieces_shared :
    Draft.Shared (select.bodyPieces (dialect.styled .numbered))
      (select.bodyPieces (dialect.styled .named)) := by
  refine (TableReference.pieces_shared dialect select.source).bind fun _ _ source => ?_
  refine (Matched.mapM fun join _ => Join.pieces_shared dialect join).bind fun _ _ joins => ?_
  refine (select.filter.clause_shared dialect " WHERE ").bind fun _ _ rows => ?_
  refine (listClause_shared dialect " GROUP BY " select.groups).bind fun _ _ groups => ?_
  refine (select.groupFilter.clause_shared dialect " HAVING ").bind fun _ _ kept => .ok ?_
  exact ((((source.append (Shared.flatten joins)).append rows).append groups).append kept).text _

theorem allPieces_shared :
    Draft.Shared (select.allPieces (dialect.styled .numbered))
      (select.allPieces (dialect.styled .named)) := by
  have columns : Draft.Shared (select.columnPieces (dialect.styled .numbered))
      (select.columnPieces (dialect.styled .named)) := by
    unfold columnPieces
    split
    · exact .ok (Shared.of_isPlain rfl)
    · exact SelectItem.listPieces_shared dialect select.columns
  have order : Draft.Shared (select.orderPieces (dialect.styled .numbered))
      (select.orderPieces (dialect.styled .named)) := by
    unfold orderPieces
    split
    · exact .ok (Shared.of_isPlain rfl)
    · refine (Matched.mapM fun key _ => SortKey.pieces_shared dialect key).bind fun _ _ keys => ?_
      exact .ok ((Shared.join ", " keys).text _)
  refine columns.bind fun _ _ chosen => ?_
  refine (bodyPieces_shared dialect select).bind fun _ _ body => ?_
  refine order.bind fun _ _ sorted => .ok ?_
  exact ((chosen.append body).append sorted).text _

theorem pagePieces_shared :
    Draft.Shared (select.pagePieces (dialect.styled .numbered))
      (select.pagePieces (dialect.styled .named)) := by
  have offsetFetch : select.offsetFetchPieces.all Piece.isPlain = true := by
    unfold offsetFetchPieces
    cases select.offset <;> cases select.limit <;> rfl
  have rowNumber {left right : List Piece} (shared : Shared left right) :
      Draft.Shared (select.rowNumberPieces left) (select.rowNumberPieces right) := by
    obtain ⟨rfl, plain⟩ := shared
    have ensures : Ensures (·.all Piece.isPlain = true) (select.rowNumberPieces left) := by
      intro pieces built
      obtain ⟨last, _, rfl⟩ := parts_of_rowNumberPieces built
      rw [aroundPage, List.all_cons, List.all_append, plain]
      cases last <;> rfl
    exact Matched.self ensures
  unfold pagePieces
  split
  · exact allPieces_shared dialect select
  split
  · exact .error _
  refine (allPieces_shared dialect select).bind fun _ _ inner => ?_
  have pages (style : MarkerStyle) : (dialect.styled style).pageStyle = dialect.pageStyle := rfl
  rw [pages, pages]
  cases dialect.pageStyle with
  | offsetFetch => exact .ok (inner.append (Shared.of_isPlain offsetFetch))
  | rowNumber => exact rowNumber inner

end Select

/-! ### Changes -/

theorem Dialect.returningPieces_shared (table : Option Table) (columns : List String)
    (rows : Nat) :
    Draft.Shared ((dialect.styled .numbered).returningPieces table columns rows)
      ((dialect.styled .named).returningPieces table columns rows) :=
  (Matched.self (dialect.returningPieces_holds table columns rows)).mono
    fun _ _ same => ⟨same.1, same.2.2.2⟩

theorem Update.assignmentPieces_shared (update : Update) (column : String)
    (assignment : Assignment) :
    Draft.Shared (update.assignmentPieces (dialect.styled .numbered) column assignment)
      (update.assignmentPieces (dialect.styled .named) column assignment) := by
  refine (dialect.nameText_shared column).bind ?_
  rintro name _ rfl
  cases assignment with
  | value value =>
    have stored := Matched.refl (dialect.store update.declared column value)
    refine Matched.bind (stored.map ?_) fun _ _ shared => .ok (Shared.text _ shared)
    exact fun _ _ same => same ▸ Shared.of_isPlain rfl
  | expression sql =>
    exact (dialect.fragment_shared sql rfl).bind fun _ _ shared => .ok (shared.text _)

theorem Rows.valuePieces_shared (values : List Value) :
    Shared (valuePieces values) (valuePieces values) :=
  Shared.of_isPlain (valuePieces_holds values).2.2

namespace Merge

theorem equalPieces_shared (column : String) :
    Draft.Shared (equalPieces (dialect.styled .numbered) column)
      (equalPieces (dialect.styled .named) column) :=
  (dialect.nameText_shared column).map fun _ _ same => same ▸ Shared.of_isPlain rfl

theorem sidePieces_shared (side column : String) :
    Draft.Shared (sidePieces (dialect.styled .numbered) side column)
      (sidePieces (dialect.styled .named) side column) :=
  (dialect.nameText_shared column).map fun _ _ same => same ▸ Shared.of_isPlain rfl

theorem sourcePieces_shared (columns : List String) (rows : List (List Value)) :
    Draft.Shared (sourcePieces (dialect.styled .numbered) columns rows)
      (sourcePieces (dialect.styled .named) columns rows) := by
  cases rows with
  | nil => exact .ok (Shared.of_isPlain rfl)
  | cons first rest =>
    have named : Draft.Shared (namedRowPieces (dialect.styled .numbered) columns first)
        (namedRowPieces (dialect.styled .named) columns first) := by
      refine (Matched.mapM fun cell _ => ?_).map fun _ _ => Shared.join ", "
      exact (dialect.nameText_shared cell.2).map fun _ _ same => same ▸ Shared.of_isPlain rfl
    refine named.bind fun _ _ shared => .ok (Shared.join " UNION ALL " ?_)
    refine .cons (shared.enclosed _ _) (List.forall₂_same.mpr fun member inside => ?_)
    obtain ⟨_, earlier, rfl⟩ := List.mem_map.mp inside
    obtain ⟨values, _, rfl⟩ := List.mem_map.mp earlier
    exact (Rows.valuePieces_shared values).enclosed _ _

theorem matchedPieces_shared (updated : List String) :
    Draft.Shared (matchedPieces (dialect.styled .numbered) updated)
      (matchedPieces (dialect.styled .named) updated) := by
  unfold matchedPieces
  split
  · exact .ok (Shared.of_isPlain rfl)
  · refine (Matched.mapM fun column _ => equalPieces_shared dialect column).bind fun _ _ each => ?_
    exact .ok ((Shared.join ", " each).text _)

end Merge

namespace Insert

theorem headPieces_shared (insert : Insert) :
    Draft.Shared (insert.headPieces (dialect.styled .numbered))
      (insert.headPieces (dialect.styled .named)) :=
  (Matched.self (insert.headPieces_isText dialect)).mono
    fun _ _ same => ⟨same.1, Piece.isPlain_of_isText same.2⟩

end Insert

end OracleSql
