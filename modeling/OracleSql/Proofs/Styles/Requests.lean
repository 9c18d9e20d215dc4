/-
This file compares requests in the two styles of markers. The builders fail in both styles with the
same error or make plans whose statements say the same; so do templates, but for names that are
reserved where names are kept.
-/

import OracleSql.Proofs.Change.Parts
import OracleSql.Proofs.Styles.Pieces

namespace OracleSql

open Piece (Shared)

/-! ### Statements and plans -/

namespace Plan

theorem same_single {numbered named : Statement} (same : Statement.Same numbered named) :
    Same (single numbered) (single named) :=
  ⟨.cons same .nil, rfl⟩

theorem same_ofStatements {numbered named : List Statement}
    (same : List.Forall₂ Statement.Same numbered named) :
    Same (ofStatements numbered) (ofStatements named) := by
  refine ⟨same, ?_⟩
  rw [ofStatements, ofStatements, same.length_eq]

theorem Same.withReturning {numbered named : Plan} (same : Same numbered named)
    (mode : ReturningMode) (inputRows : Nat) :
    Same (numbered.withReturning mode inputRows) (named.withReturning mode inputRows) :=
  ⟨same.statements, congrArg (fun plan : Plan => plan.withReturning mode inputRows) same.rest⟩

end Plan

variable (dialect : Dialect)

/-- Shared pieces make up statements that say the same. -/
theorem Dialect.assemble_shared {shape : Shape} (plain : shape = .rows ∨ shape = .rowsAffected)
    {left right : List Piece} (shared : Shared left right) :
    Statement.Same ((dialect.styled .numbered).assemble left shape)
      ((dialect.styled .named).assemble right shape) := by
  obtain ⟨rfl, named⟩ := shared
  exact ⟨_, _, dialect.assemble_same plain (Piece.Named.of_isPlain named)⟩

/-! ### Queries -/

namespace Select

variable (select : Select)

theorem build_matched :
    Matched Statement.Same (select.build (dialect.styled .numbered))
      (select.build (dialect.styled .named)) := by
  have lock : (select.lock.toList.map fun mode => Piece.text mode.sql).all Piece.isPlain =
      true := by
    cases select.lock <;> rfl
  refine (pagePieces_shared dialect select).bind fun _ _ page => .ok ?_
  exact (dialect.assemble_shared (Or.inl rfl) (page.append (Shared.of_isPlain lock))).labelled _ _

theorem buildCount_matched :
    Matched Statement.Same (select.buildCount (dialect.styled .numbered))
      (select.buildCount (dialect.styled .named)) := by
  refine (bodyPieces_shared dialect select).bind fun _ _ body => .ok ?_
  refine (dialect.assemble_shared (Or.inl rfl) ?_).labelled _ _
  split
  · exact (body.append (Shared.of_isPlain rfl)).text _
  · exact body.text _

end Select

/-! ### Changes of rows that are there -/

theorem Update.build_matched (update : Update) :
    Matched Statement.Same (update.build (dialect.styled .numbered))
      (update.build (dialect.styled .named)) := by
  have allows (style : MarkerStyle) :
      (dialect.styled style).allowGlobalUpdate = dialect.allowGlobalUpdate := rfl
  unfold build
  dsimp only
  rw [allows, allows]
  split
  · exact .error _
  split
  · exact .error _
  refine (dialect.namePiece_shared update.table).bind fun _ _ table => ?_
  refine (Matched.mapM fun (column, assignment) _ =>
    update.assignmentPieces_shared dialect column assignment).bind fun _ _ changes => ?_
  refine (update.filter.clause_shared dialect " WHERE ").bind fun _ _ rows => ?_
  refine Matched.bindSame (dialect.checkReturning "UPDATE" update.returning) fun _ => ?_
  refine (dialect.returningPieces_shared update.declared update.returning 0).bind
    fun _ _ tail => .ok ?_
  refine (dialect.assemble_shared (Or.inr rfl) ?_).labelled _ _
  exact (table.append ((((Shared.join ", " changes).append rows).append tail).text _)).text _

theorem Update.plan_matched (update : Update) :
    Matched Plan.Same (update.plan (dialect.styled .numbered))
      (update.plan (dialect.styled .named)) :=
  ((update.build_matched dialect).map fun _ _ => Plan.same_single).mapError _

theorem Delete.build_matched (delete : Delete) :
    Matched Statement.Same (delete.build (dialect.styled .numbered))
      (delete.build (dialect.styled .named)) := by
  have allows (style : MarkerStyle) :
      (dialect.styled style).allowGlobalUpdate = dialect.allowGlobalUpdate := rfl
  unfold build
  dsimp only
  rw [allows, allows]
  split
  · exact .error _
  refine (dialect.namePiece_shared delete.table).bind fun _ _ table => ?_
  refine (delete.filter.clause_shared dialect " WHERE ").bind fun _ _ rows => ?_
  refine Matched.bindSame (dialect.checkReturning "DELETE" delete.returning) fun _ => ?_
  refine (dialect.returningPieces_shared none delete.returning 0).bind fun _ _ tail => .ok ?_
  refine (dialect.assemble_shared (Or.inr rfl) ?_).labelled _ _
  exact ((table.append rows).append tail).text _

theorem Delete.plan_matched (delete : Delete) :
    Matched Plan.Same (delete.plan (dialect.styled .numbered))
      (delete.plan (dialect.styled .named)) :=
  ((delete.build_matched dialect).map fun _ _ => Plan.same_single).mapError _

/-! ### Changes that put rows in -/

namespace Merge

variable (merge : Merge)

theorem statement_matched (updated : List String) (rows : List (List Value)) :
    Matched Statement.Same (merge.statement (dialect.styled .numbered) updated rows)
      (merge.statement (dialect.styled .named) updated rows) := by
  refine (dialect.namePiece_shared merge.table).bind fun _ _ table => ?_
  refine (sourcePieces_shared dialect merge.rows.columns rows).bind fun _ _ source => ?_
  refine (Matched.mapM fun key _ => equalPieces_shared dialect key).bind fun _ _ keys => ?_
  refine (matchedPieces_shared dialect updated).bind fun _ _ met => ?_
  refine (dialect.namePieces_shared merge.rows.columns).bind fun _ _ names => ?_
  refine (Matched.mapM fun column _ => sidePieces_shared dialect "s" column).bind
    fun _ _ values => .ok ?_
  refine (dialect.assemble_shared (Or.inr rfl) (Shared.text _ ?_)).labelled _ _
  exact (((((table.append (source.enclosed _ _)).append (Shared.join _ keys)).append
    (met.text _)).append (names.enclosed _ _)).append (Shared.join _ values)).append
    (Shared.of_isPlain rfl)

theorem plan_matched :
    Matched Plan.Same (merge.plan (dialect.styled .numbered))
      (merge.plan (dialect.styled .named)) := by
  refine Matched.mapError _ ?_
  unfold planUnplaced
  dsimp only
  split
  · exact .error _
  split
  · exact .error _
  refine Matched.bindSame (merge.rows.check "MERGE") fun _ => ?_
  split
  · exact .error _
  refine Matched.bindSame _ fun updated => ?_
  refine Matched.bindSame (merge.rows.stored dialect merge.declared) fun rows => ?_
  refine Matched.bindSame (Rows.perStatement dialect merge.rows.columns.length) fun size => ?_
  refine (Matched.mapM fun chunk _ => merge.statement_matched dialect updated chunk).bind
    fun _ _ statements => .ok ?_
  exact Plan.same_ofStatements statements

end Merge

namespace Insert

variable (insert : Insert)

/-- The statements of a row have the same pieces, with as many values as the row. -/
theorem oneRow_matched (room : Nat) (values : List Value) :
    Matched (fun numbered named => ∃ pieces, pieces.all Piece.isPlain = true ∧
        (pieces.filterMap Piece.value?).length = values.length ∧
        numbered = insert.statement (dialect.styled .numbered) pieces ∧
        named = insert.statement (dialect.styled .named) pieces)
      (insert.oneRow (dialect.styled .numbered) room values)
      (insert.oneRow (dialect.styled .named) room values) := by
  have headed := Matched.self (fun head (built : insert.headPieces dialect = .ok head) => built)
  have returned := Matched.self (fun tail (built : dialect.returningPieces insert.declared
    insert.returning room = .ok tail) => built)
  refine headed.bind ?_
  rintro head _ ⟨rfl, headed⟩
  refine returned.bind ?_
  rintro tail _ ⟨rfl, returned⟩
  obtain ⟨bound, _, plain⟩ := rowPieces_holds room values headed returned
  exact .ok ⟨_, plain, congrArg List.length bound, rfl, rfl⟩

theorem oneRow_same (room : Nat) (values : List Value) :
    Matched Statement.Same (insert.oneRow (dialect.styled .numbered) room values)
      (insert.oneRow (dialect.styled .named) room values) := by
  refine (insert.oneRow_matched dialect room values).mono ?_
  rintro _ _ ⟨pieces, plain, _, rfl, rfl⟩
  exact (dialect.assemble_shared (Or.inr rfl) (Shared.of_isPlain plain)).labelled _ _

/-- A statement of a row that runs for a batch of rows, all as wide as the first one. -/
theorem batched_same {chunk : List (List Value)} {width : Nat} (room offset : Nat)
    (wide : ∀ values ∈ chunk, values.length = width) :
    Matched (fun numbered named => Statement.Same
        { numbered with binds := .batch chunk, inputOffset := offset }
        { named with binds := .batch chunk, inputOffset := offset })
      (insert.oneRow (dialect.styled .numbered) room (chunk.headD []))
      (insert.oneRow (dialect.styled .named) room (chunk.headD [])) := by
  refine (insert.oneRow_matched dialect room (chunk.headD [])).mono ?_
  rintro _ _ ⟨pieces, plain, counted, rfl, rfl⟩
  have filled : ∀ values ∈ chunk, values.length = (pieces.filterMap Piece.value?).length := by
    intro values member
    cases chunk with
    | nil => cases member
    | cons first rest =>
      rw [counted, wide values member]
      exact (wide first List.mem_cons_self).symm
  have same := dialect.assemble_same_batch (Or.inr rfl) (Piece.Named.of_isPlain plain) filled
  exact (Statement.Same.labelled ⟨_, _, same⟩ "insert" (some insert.table)).placed offset

theorem bulkStatements_same {width : Nat} (offset : Nat) (chunks : List (List (List Value)))
    (wide : ∀ chunk ∈ chunks, ∀ values ∈ chunk, values.length = width) :
    Matched (List.Forall₂ Statement.Same)
      (insert.bulkStatements (dialect.styled .numbered) offset chunks)
      (insert.bulkStatements (dialect.styled .named) offset chunks) := by
  induction chunks generalizing offset with
  | nil => exact .ok .nil
  | cons chunk rest inductionHypothesis =>
    obtain ⟨first, others⟩ := List.forall_mem_cons.mp wide
    refine (insert.batched_same dialect chunk.length offset first).bind fun _ _ same => ?_
    exact (inductionHypothesis _ others).bind fun _ _ more => .ok (.cons same more)

theorem rowStatements_same (rows : List (List Value)) :
    Matched (List.Forall₂ Statement.Same)
      (insert.rowStatements (dialect.styled .numbered) rows)
      (insert.rowStatements (dialect.styled .named) rows) :=
  Matched.mapM fun row _ =>
    (insert.oneRow_same dialect 1 row.1).map fun _ _ same => same.placed row.2

theorem severalRows_same (rows : List (List Value)) :
    Matched Statement.Same (insert.severalRows (dialect.styled .numbered) rows)
      (insert.severalRows (dialect.styled .named) rows) := by
  refine (insert.headPieces_shared dialect).bind fun _ _ head => .ok ?_
  refine (dialect.assemble_shared (Or.inr rfl) (head.append (Shared.text " " ?_))).labelled _ _
  refine Shared.join _ (List.forall₂_same.mpr fun member inside => ?_)
  obtain ⟨values, _, rfl⟩ := List.mem_map.mp inside
  exact (Rows.valuePieces_shared values).enclosed _ _

theorem plainPlan_same (rows : List (List Value)) :
    Matched Plan.Same (insert.plainPlan (dialect.styled .numbered) rows)
      (insert.plainPlan (dialect.styled .named) rows) := by
  by_cases single : rows.length = 1
  · obtain ⟨values, rfl⟩ := List.length_eq_one_iff.mp single
    exact (insert.oneRow_same dialect 0 values).map fun _ _ => Plan.same_single
  · rw [plainPlan_several _ insert single, plainPlan_several _ insert single]
    refine Matched.bindSame (Rows.perStatement dialect insert.rows.columns.length) fun size => ?_
    refine (Matched.mapM fun chunk _ => insert.severalRows_same dialect chunk).bind
      fun _ _ statements => .ok ?_
    exact Plan.same_ofStatements statements

theorem returningPlan_same {rows : List (List Value)} {width : Nat}
    (wide : ∀ values ∈ rows, values.length = width) :
    Matched Plan.Same (insert.returningPlan (dialect.styled .numbered) rows)
      (insert.returningPlan (dialect.styled .named) rows) := by
  by_cases single : rows.length = 1
  · obtain ⟨values, rfl⟩ := List.length_eq_one_iff.mp single
    refine (insert.oneRow_same dialect 1 values).bind fun _ _ same => .ok ?_
    exact (Plan.same_single same).withReturning _ _
  · rw [returningPlan_several _ insert single, returningPlan_several _ insert single]
    have bulk (style : MarkerStyle) :
        (dialect.styled style).bulkReturning = dialect.bulkReturning := rfl
    have statements : Matched (List.Forall₂ Statement.Same)
        (if dialect.bulkReturning then insert.bulkStatements (dialect.styled .numbered) 0
            (chunks dialect.batchSize rows)
          else insert.rowStatements (dialect.styled .numbered) rows)
        (if dialect.bulkReturning then insert.bulkStatements (dialect.styled .named) 0
            (chunks dialect.batchSize rows)
          else insert.rowStatements (dialect.styled .named) rows) := by
      split
      · have each : ∀ chunk ∈ chunks dialect.batchSize rows, ∀ values ∈ chunk,
            values.length = width := fun chunk inside values member =>
          wide values (mem_of_mem_chunks _ rows chunk inside values member)
        exact insert.bulkStatements_same dialect 0 _ each
      · exact insert.rowStatements_same dialect rows
    rw [bulk, bulk]
    refine statements.map fun _ _ same => Plan.Same.withReturning ⟨same, ?_⟩ _ _
    rfl

theorem plan_matched :
    Matched Plan.Same (insert.plan (dialect.styled .numbered))
      (insert.plan (dialect.styled .named)) := by
  refine Matched.mapError _ ?_
  have checked : Ensures (fun _ => insert.rows.check "INSERT" = .ok ())
      (insert.rows.check "INSERT") := fun _ same => same
  refine Matched.bindSelf checked fun _ accepted => ?_
  refine Matched.bindSame (dialect.checkReturning "INSERT" insert.returning) fun _ => ?_
  refine Matched.bindSelf (Rows.stored_widths accepted) fun rows wide => ?_
  split
  · exact insert.plainPlan_same dialect rows
  · exact insert.returningPlan_same dialect wide

end Insert

/-! ### Both styles -/

namespace Dialect

/-- **The two styles of markers denote the same statements.** A builder fails in both styles with
the same error or has statements in both that say the same, with or without parts that are written
by hand. A template without native markers has a statement with named markers just if it has one
with numbered markers and uses no reserved name; the two have the outline of the template and say
the same, and all markers of one name have the spelling that stands first, under which one value is
bound. -/
theorem styles_say_the_same (dialect : Dialect) :
    (∀ query : Select,
      Matched Statement.Same (query.build (dialect.styled .numbered))
          (query.build (dialect.styled .named)) ∧
        Matched Statement.Same (query.buildCount (dialect.styled .numbered))
          (query.buildCount (dialect.styled .named))) ∧
    (∀ change : Insert, Matched Plan.Same (change.plan (dialect.styled .numbered))
      (change.plan (dialect.styled .named))) ∧
    (∀ change : Update, Matched Plan.Same (change.plan (dialect.styled .numbered))
      (change.plan (dialect.styled .named))) ∧
    (∀ change : Delete, Matched Plan.Same (change.plan (dialect.styled .numbered))
      (change.plan (dialect.styled .named))) ∧
    (∀ change : Merge, Matched Plan.Same (change.plan (dialect.styled .numbered))
      (change.plan (dialect.styled .named))) ∧
    ∀ (template : String) (args : Args),
      (∀ lexemes, Marker.lexemes template = .ok lexemes → hasNative lexemes = false) →
        ((∃ statement, (dialect.styled .named).translate template args = .ok statement) ↔
          (∃ statement, (dialect.styled .numbered).translate template args = .ok statement) ∧
            ∀ lexemes, Marker.lexemes template = .ok lexemes →
              ∀ name, .named name ∈ lexemes → ¬ IsReserved (String.ofList name)) ∧
        ∀ numbered named,
          (dialect.styled .numbered).translate template args = .ok numbered →
          (dialect.styled .named).translate template args = .ok named →
            ∃ lexemes names, Marker.lexemes template = .ok lexemes ∧
              Statement.SameWith (lexemes.map Marker.Lexeme.slot) names numbered named ∧
              ∀ (index : Nat) name,
                (lexemes.filter Marker.Lexeme.isPortable)[index]? =
                    some (Marker.Lexeme.named name) →
                  ∃ spelling ∈ named.binds.names, names[index]? = some spelling ∧
                    (lexemes.filterMap Marker.Lexeme.name?).find?
                      (Text.sameFolded · (String.ofList name)) = some spelling :=
  ⟨fun query => ⟨query.build_matched dialect, query.buildCount_matched dialect⟩,
    fun change => change.plan_matched dialect, fun change => change.plan_matched dialect,
    fun change => change.plan_matched dialect, fun change => change.plan_matched dialect,
    fun _ _ portable => ⟨exists_translate_named_iff portable,
      fun _ _ counted spelled => translate_same portable counted spelled⟩⟩

/-- A name in two spellings, and a name that is refused where names are kept. -/
theorem styles_say_the_same_repeated_name :
    let args : Args := { positional := [.bool true], named := [("V", .text "x"), ("p7", .null)] }
    let numbered : Statement :=
      { sql := "SELECT :1, :2, :3 FROM t"
        binds := .positional [.int 1, .text "x", .text "x"]
        shape := .rows }
    let named : Statement :=
      { sql := "SELECT :p1, :v, :v FROM t"
        binds := .named [("p1", .int 1), ("v", .text "x")]
        shape := .rows }
    (({} : Dialect).styled .numbered).translate "SELECT ?, @v, @V FROM t" args = .ok numbered ∧
      (({} : Dialect).styled .named).translate "SELECT ?, @v, @V FROM t" args = .ok named ∧
      Statement.Same numbered named ∧
      ¬ ∃ statement, (({} : Dialect).styled .named).translate "SELECT ?, @P7 FROM t" args =
        .ok statement := by
  intro args numbered named
  obtain ⟨_, _, _, _, _, templates⟩ := styles_say_the_same {}
  have plain (template : String) (known : (Marker.lexemes template).map hasNative = .ok false) :
      ∀ lexemes, Marker.lexemes template = .ok lexemes → hasNative lexemes = false := by
    intro lexemes read
    rw [read] at known
    exact Except.ok.inj known
  have counted : (({} : Dialect).styled .numbered).translate "SELECT ?, @v, @V FROM t" args =
      .ok numbered := by decide +kernel
  have spelled : (({} : Dialect).styled .named).translate "SELECT ?, @v, @V FROM t" args =
      .ok named := by decide +kernel
  obtain ⟨_, same⟩ := templates "SELECT ?, @v, @V FROM t" args (plain _ (by decide +kernel))
  obtain ⟨lexemes, names, _, alike, _⟩ := same numbered named counted spelled
  obtain ⟨possible, _⟩ := templates "SELECT ?, @P7 FROM t" args (plain _ (by decide +kernel))
  have reserved : (Marker.lexemes "SELECT ?, @P7 FROM t").map
      (·.any (· == .named ['P', '7'])) = .ok true := by decide +kernel
  obtain ⟨others, read, uses⟩ := map_eq_ok.mp reserved
  refine ⟨counted, spelled, ⟨_, names, alike⟩, fun impossible => ?_⟩
  obtain ⟨lexeme, member, same⟩ := List.any_eq_true.mp uses
  cases eq_of_beq same
  refine (possible.mp impossible).2 others read ['P', '7'] member
    ⟨['P'], ['7'], String.toList_ofList, Or.inl rfl, List.cons_ne_nil _ _, fun digit inside => ?_⟩
  cases List.mem_singleton.mp inside
  rfl

end Dialect

end OracleSql
