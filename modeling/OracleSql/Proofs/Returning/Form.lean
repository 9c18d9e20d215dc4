/-
This file shows that the statements of an insertion from which columns are wanted back have one
form. Whatever row such a statement is made for, and for however many rows it has room, it is the
statement of a row of nulls with room for none, except that it binds the values of the row and makes
its room. So the text and the markers for the returned columns belong to the insertion and not to
the row.
-/

import OracleSql.Proofs.Markers.Agreement
import OracleSql.Proofs.Pieces
import OracleSql.Proofs.Values.Changes

namespace OracleSql

/-! ### Room for returned rows -/

/-- The marker with room for so many rows. -/
def OutBind.sized (rows : Nat) (out : OutBind) : OutBind :=
  { out with rows }

/-- The piece with room for so many rows, if it takes a returned column. -/
def Piece.sized (rows : Nat) : Piece → Piece
  | .out column columnType _ => .out column columnType rows
  | piece => piece

/-- The assembly with room for so many rows in each of its returned columns. -/
def Assembly.sized (rows : Nat) (assembly : Assembly) : Assembly :=
  { assembly with outs := assembly.outs.map (OutBind.sized rows) }

theorem Assembly.sized_add (style : MarkerStyle) (rows : Nat) (assembly : Assembly)
    (piece : Piece) :
    (assembly.add style piece).sized rows = (assembly.sized rows).add style (piece.sized rows) := by
  cases piece with
  | text sql => rfl
  | value value => cases style <;> rfl
  | named name value =>
    cases style with
    | numbered => rfl
    | named =>
      show (assembly.addNamed name value).sized rows = (assembly.sized rows).addNamed name value
      have found : (assembly.sized rows).named = assembly.named := rfl
      unfold addNamed
      rw [found]
      cases assembly.named.find? fun pair => Text.sameFolded pair.1 name <;> rfl
  | out column columnType room =>
    cases style <;> simp [add, addOut, sized, marked, Piece.sized, OutBind.sized]

theorem Assembly.sized_foldl (style : MarkerStyle) (rows : Nat) (pieces : List Piece)
    (assembly : Assembly) :
    (pieces.foldl (Assembly.add style) assembly).sized rows =
      (pieces.map (Piece.sized rows)).foldl (Assembly.add style) (assembly.sized rows) := by
  induction pieces generalizing assembly with
  | nil => rfl
  | cons piece rest inductionHypothesis =>
    rw [List.foldl_cons, inductionHypothesis, sized_add, List.map_cons, List.foldl_cons]

theorem Assembly.binds_sized (style : MarkerStyle) (rows : Nat) (assembly : Assembly) :
    (assembly.sized rows).binds style = assembly.binds style := by
  cases style <;> rfl

/-- Room for returned rows shows in nothing but the markers that take them. -/
theorem Dialect.assemble_sized (dialect : Dialect) (rows : Nat) {pieces : List Piece}
    (shape : Shape)
    (returns : (pieces.foldl (Assembly.add dialect.markerStyle) {}).outs ≠ []) :
    dialect.assemble (pieces.map (Piece.sized rows)) shape =
      { dialect.assemble pieces shape with
        shape := .returning ((dialect.assemble pieces shape).outs.map (OutBind.sized rows)) } := by
  have same : (pieces.map (Piece.sized rows)).foldl (Assembly.add dialect.markerStyle) {} =
      (pieces.foldl (Assembly.add dialect.markerStyle) {}).sized rows :=
    (Assembly.sized_foldl dialect.markerStyle rows pieces {}).symm
  unfold assemble Statement.outs
  dsimp only
  rw [same, Assembly.binds_sized]
  cases found : (pieces.foldl (Assembly.add dialect.markerStyle) {}).outs with
  | nil => exact absurd found returns
  | cons first rest => simp [Assembly.sized, found]

theorem Piece.map_sized_of_isText (rows : Nat) {pieces : List Piece}
    (texts : pieces.all isText = true) : pieces.map (sized rows) = pieces := by
  refine (List.map_congr_left fun piece member => ?_).trans (List.map_id pieces)
  have written := List.all_eq_true.mp texts piece member
  cases piece with
  | text sql => rfl
  | _ => cases written

/-! ### What is assembled -/

namespace Assembly

/-- The values that are bound so far, in order. -/
def values (style : MarkerStyle) (assembly : Assembly) : List Value :=
  match style with
  | .numbered => assembly.positional.reverse
  | .named => assembly.named.reverse.map Prod.snd

/-- The values of the pieces are bound in their order. -/
theorem values_foldl (style : MarkerStyle) {pieces : List Piece} (assembly : Assembly)
    (plain : pieces.all Piece.isPlain = true) :
    (pieces.foldl (Assembly.add style) assembly).values style =
      assembly.values style ++ pieces.filterMap Piece.value? := by
  induction pieces generalizing assembly with
  | nil => rw [List.filterMap_nil, List.append_nil, List.foldl_nil]
  | cons piece rest inductionHypothesis =>
    rw [List.all_cons, Bool.and_eq_true] at plain
    rw [List.foldl_cons, inductionHypothesis _ plain.2]
    cases piece with
    | text sql => cases style <;> rfl
    | value bound =>
      cases style <;> simp [values, add, addNumbered, addGenerated, marked, Piece.value?]
    | named name bound => cases plain.1
    | out column columnType rows => cases style <;> rfl

/-- The columns of the pieces are returned in their order. -/
theorem columns_foldl (style : MarkerStyle) (pieces : List Piece) (assembly : Assembly) :
    (pieces.foldl (Assembly.add style) assembly).outs.map OutBind.column =
      assembly.outs.map OutBind.column ++ pieces.filterMap Piece.column? := by
  induction pieces generalizing assembly with
  | nil => rw [List.filterMap_nil, List.append_nil, List.foldl_nil]
  | cons piece rest inductionHypothesis =>
    rw [List.foldl_cons, inductionHypothesis]
    cases piece with
    | text sql => rfl
    | value bound => cases style <;> rfl
    | named name bound =>
      have same : (assembly.add style (.named name bound)).outs = assembly.outs := by
        cases style with
        | numbered => rfl
        | named =>
          show (assembly.addNamed name bound).outs = assembly.outs
          unfold addNamed
          split <;> rfl
      rw [same]
      rfl
    | out column columnType rows =>
      cases style <;> simp [add, addOut, marked, Piece.column?]

end Assembly

/-! ### The parts of an insertion -/

/-- The places of columns take these, and bind nothing. -/
theorem Piece.places_hold {columns : List String} {rows : Nat} {members : List (List Piece)}
    (each : List.Forall₂ (fun column pieces => ∃ columnType,
      pieces = [Piece.out column columnType rows]) columns members) :
    members.flatten.filterMap Piece.value? = [] ∧
      members.flatten.filterMap Piece.column? = columns ∧
      ∀ member ∈ members, member.all Piece.isPlain = true := by
  induction each with
  | nil => exact ⟨rfl, rfl, by simp⟩
  | @cons column _ _ _ head _ inductionHypothesis =>
    obtain ⟨columnType, rfl⟩ := head
    obtain ⟨values, taken, plain⟩ := inductionHypothesis
    have first : Piece.column? (.out column columnType rows) = some column := rfl
    refine ⟨values, ?_, List.forall_mem_cons.mpr ⟨rfl, plain⟩⟩
    rw [List.flatten_cons, List.singleton_append, List.filterMap_cons_some first, taken]

namespace Dialect

variable (dialect : Dialect)

theorem namePiece_isText (name : String) :
    Ensures (fun pieces => pieces.all Piece.isText = true) (dialect.namePiece name) :=
  Ensures.map (Ensures.anything _) fun _ _ => rfl

theorem namePieces_isText (names : List String) :
    Ensures (fun pieces => pieces.all Piece.isText = true) (dialect.namePieces names) :=
  Ensures.map (Ensures.mapM fun name _ => dialect.namePiece_isText name)
    fun members each => Piece.all_join rfl members each

/-- Room for returned rows has no say in whether a column can be returned. -/
theorem outPiece_sized (table : Option Table) (rows : Nat) (column : String) :
    dialect.outPiece table rows column =
      (dialect.outPiece table 0 column).map (List.map (Piece.sized rows)) := by
  unfold outPiece
  split
  · cases Error.ofColumn _ (dialect.columnType _) <;> rfl
  · rfl

theorem returningPieces_sized (table : Option Table) (columns : List String) (rows : Nat) :
    dialect.returningPieces table columns rows =
      (dialect.returningPieces table columns 0).map (List.map (Piece.sized rows)) := by
  have outs (columns : List String) : columns.mapM (dialect.outPiece table rows) =
      (columns.mapM (dialect.outPiece table 0)).map (List.map (List.map (Piece.sized rows))) := by
    induction columns with
    | nil => rfl
    | cons column rest inductionHypothesis =>
      rw [List.mapM_cons, List.mapM_cons, inductionHypothesis, outPiece_sized]
      cases dialect.outPiece table 0 column with
      | error failure => rfl
      | ok pieces => cases rest.mapM (dialect.outPiece table 0) <;> rfl
  unfold returningPieces
  split
  · rfl
  cases named : dialect.namePieces columns with
  | error failure => rfl
  | ok names =>
    rw [outs]
    cases columns.mapM (dialect.outPiece table 0) with
    | error failure => rfl
    | ok members =>
      have texts := dialect.namePieces_isText columns names named
      refine congrArg Except.ok ?_
      rw [List.map_cons, List.map_append, List.map_cons, Piece.map_join rfl,
        Piece.map_sized_of_isText rows texts]
      rfl

/-- The clause that returns columns takes these, and binds nothing. -/
theorem returningPieces_holds (table : Option Table) (columns : List String) (rows : Nat) :
    Ensures (fun pieces => pieces.filterMap Piece.value? = [] ∧
        pieces.filterMap Piece.column? = columns ∧ pieces.all Piece.isPlain = true)
      (dialect.returningPieces table columns rows) := by
  unfold returningPieces
  split
  · rename_i empty
    rw [List.isEmpty_iff.mp empty]
    exact Ensures.ok ⟨rfl, rfl, rfl⟩
  refine Ensures.bind (dialect.namePieces_isText columns) fun names texts => ?_
  intro pieces built
  obtain ⟨members, made, same⟩ := bind_eq_ok.mp built
  cases same
  have each : List.Forall₂ (fun column pieces => ∃ columnType,
      pieces = [Piece.out column columnType rows]) columns members :=
    (mapM_eq_ok_iff.mp made).imp fun column pieces built =>
      dialect.outPiece_eq table rows column pieces built
  obtain ⟨values, columnsTaken, plain⟩ := Piece.places_hold each
  refine ⟨?_, ?_, ?_⟩
  · rw [List.filterMap_cons_none rfl, List.filterMap_append, List.filterMap_cons_none rfl,
      Piece.filterMap_of_isText (fun _ => rfl) texts, Piece.filterMap_join rfl, values]
    rfl
  · rw [List.filterMap_cons_none rfl, List.filterMap_append, List.filterMap_cons_none rfl,
      Piece.filterMap_of_isText (fun _ => rfl) texts, Piece.filterMap_join rfl, columnsTaken]
    rfl
  · rw [List.all_cons, List.all_append, List.all_cons, Piece.isPlain_of_isText texts,
      Piece.all_join rfl members plain]
    rfl

end Dialect

/-- A row binds its values, and takes no columns. -/
theorem Rows.valuePieces_holds (values : List Value) :
    (valuePieces values).filterMap Piece.value? = values ∧
      (valuePieces values).filterMap Piece.column? = [] ∧
      (valuePieces values).all Piece.isPlain = true := by
  unfold valuePieces
  rw [Piece.filterMap_join rfl, Piece.filterMap_join rfl]
  have members : ((values.map fun value => [Piece.value value]).flatten.filterMap Piece.value? =
      values) ∧
      (values.map fun value => [Piece.value value]).flatten.filterMap Piece.column? = [] := by
    induction values with
    | nil => exact ⟨rfl, rfl⟩
    | cons value rest inductionHypothesis =>
      have first : Piece.value? (.value value) = some value := rfl
      rw [List.map_cons, List.flatten_cons, List.singleton_append, List.filterMap_cons_some first,
        inductionHypothesis.1]
      exact ⟨rfl, inductionHypothesis.2⟩
  refine ⟨members.1, members.2, Piece.all_join rfl _ fun member inside => ?_⟩
  obtain ⟨value, _, rfl⟩ := List.mem_map.mp inside
  rfl

theorem Rows.valuePieces_sized (rows : Nat) (values : List Value) :
    (valuePieces values).map (Piece.sized rows) = valuePieces values := by
  unfold valuePieces
  rw [Piece.map_join rfl, List.map_map]
  rfl

theorem Insert.headPieces_isText (dialect : Dialect) (insert : Insert) :
    Ensures (fun pieces => pieces.all Piece.isText = true) (insert.headPieces dialect) := by
  refine Ensures.bind (dialect.namePiece_isText insert.table) fun table named => ?_
  refine Ensures.bind (dialect.namePieces_isText insert.rows.columns) fun columns listed => ?_
  refine Ensures.ok ?_
  rw [List.all_cons, List.all_append, named, Piece.enclosed, List.all_cons, List.all_append, listed]
  rfl

/-! ### The form -/

/-- The binds of a run with these values, under the names of their markers if these have names. -/
def MarkerStyle.bound (style : MarkerStyle) (values : List Value) : Binds :=
  match style with
  | .numbered => .positional values
  | .named => .named ((MarkerStyle.named.markerNames values.length 0).zip values)

theorem Assembly.binds_eq_bound {style : MarkerStyle} {assembly : Assembly} {count : Nat}
    (takes : (assembly.binds style).Takes style count) :
    assembly.binds style = style.bound (assembly.values style) := by
  cases style with
  | numbered => rfl
  | named =>
    have names := takes.2
    have length : (assembly.named.reverse.map Prod.snd).length = count := by
      rw [List.length_map, ← List.length_map, names, MarkerStyle.length_markerNames]
      rfl
    show Binds.named _ = Binds.named _
    rw [values, length, ← names, List.zip_map', List.map_id']

/-- The statement with these binds and with room for so many rows, after so many others. -/
def Statement.filled (statement : Statement) (binds : Binds) (room offset : Nat) : Statement :=
  { statement with
    binds
    shape := .returning (statement.outs.map (OutBind.sized room))
    inputOffset := offset }

theorem Statement.outs_congr {first second : Statement} (same : first.shape = second.shape) :
    first.outs = second.outs := by
  unfold outs
  rw [same]

namespace Insert

/-- The statement of a row of nulls with room for no rows. -/
def blank (dialect : Dialect) (insert : Insert) : Except Error Statement :=
  insert.oneRow dialect 0 (List.replicate insert.rows.columns.length .null)

variable {dialect : Dialect} {insert : Insert}

/-- The pieces of a statement of one row, between its head and its tail. -/
def rowPieces (head tail : List Piece) (values : List Value) : List Piece :=
  head ++ Piece.enclosed " VALUES (" ")" (Rows.valuePieces values) ++ tail

theorem map_sized_rowPieces (room : Nat) {head : List Piece} (texts : head.all Piece.isText = true)
    (tail : List Piece) (values : List Value) :
    (rowPieces head tail values).map (Piece.sized room) =
      rowPieces head (tail.map (Piece.sized room)) values := by
  unfold rowPieces
  rw [List.map_append, List.map_append, Piece.map_sized_of_isText room texts, Piece.enclosed,
    List.map_cons, List.map_append, Rows.valuePieces_sized]
  rfl

theorem rowPieces_alike (head tail : List Piece) {first second : List Value}
    (same : first.length = second.length) :
    Piece.Alike (rowPieces head tail first) (rowPieces head tail second) :=
  ((Piece.Alike.refl head).append
    (Piece.Alike.enclosed _ _ (Rows.valuePieces_alike same))).append (Piece.Alike.refl tail)

/-- The pieces of a statement of one row hold the row and the columns, under made names. -/
theorem rowPieces_holds (room : Nat) (values : List Value) {head tail : List Piece}
    (headed : insert.headPieces dialect = .ok head)
    (returned : dialect.returningPieces insert.declared insert.returning room = .ok tail) :
    (rowPieces head tail values).filterMap Piece.value? = values ∧
      (rowPieces head tail values).filterMap Piece.column? = insert.returning ∧
      (rowPieces head tail values).all Piece.isPlain = true := by
  have texts := insert.headPieces_isText dialect head headed
  obtain ⟨unbound, columns, plain⟩ := dialect.returningPieces_holds _ _ _ tail returned
  obtain ⟨bound, untaken, plainRow⟩ := Rows.valuePieces_holds values
  have silent : ∀ sql, Piece.value? (.text sql) = none := fun _ => rfl
  have silentToo : ∀ sql, Piece.column? (.text sql) = none := fun _ => rfl
  refine ⟨?_, ?_, ?_⟩
  · rw [rowPieces, List.filterMap_append, List.filterMap_append, Piece.enclosed,
      List.filterMap_cons_none (silent _), List.filterMap_append,
      List.filterMap_cons_none (silent _), bound, unbound, Piece.filterMap_of_isText silent texts,
      List.filterMap_nil, List.append_nil, List.append_nil, List.nil_append]
  · rw [rowPieces, List.filterMap_append, List.filterMap_append, Piece.enclosed,
      List.filterMap_cons_none (silentToo _), List.filterMap_append,
      List.filterMap_cons_none (silentToo _), untaken, columns,
      Piece.filterMap_of_isText silentToo texts, List.filterMap_nil]
    rfl
  · rw [rowPieces, List.all_append, List.all_append, Piece.enclosed, List.all_cons, List.all_append,
      plainRow, plain, Piece.isPlain_of_isText texts]
    rfl

/-- The pieces of a statement of one row bind the row and return the columns. -/
theorem rowPieces_assembled (room : Nat) (values : List Value) {head tail : List Piece}
    (headed : insert.headPieces dialect = .ok head)
    (returned : dialect.returningPieces insert.declared insert.returning room = .ok tail) :
    let assembly := (rowPieces head tail values).foldl (Assembly.add dialect.markerStyle) {}
    assembly.values dialect.markerStyle = values ∧
      assembly.outs.map OutBind.column = insert.returning := by
  obtain ⟨bound, columns, plain⟩ := rowPieces_holds room values headed returned
  constructor
  · rw [Assembly.values_foldl _ _ plain, bound]
    cases dialect.markerStyle <;> rfl
  · rw [Assembly.columns_foldl, columns]
    rfl

/-- A statement for a row is the blank one, filled in. -/
theorem oneRow_eq (wanted : insert.returning ≠ []) (room : Nat) {values : List Value}
    (wide : values.length = insert.rows.columns.length) :
    insert.oneRow dialect room values = (insert.blank dialect).map fun blank =>
      blank.filled (dialect.markerStyle.bound values) room 0 := by
  have takes : Ensures _ (insert.oneRow dialect 0 values) := oneRow_hasMarkers dialect 0 values
  unfold blank oneRow at *
  rw [dialect.returningPieces_sized insert.declared insert.returning room]
  cases headed : insert.headPieces dialect with
  | error failure => rfl
  | ok head =>
    cases returned : dialect.returningPieces insert.declared insert.returning 0 with
    | error failure => rfl
    | ok tail =>
      rw [headed, returned] at takes
      obtain ⟨bound, columns⟩ := rowPieces_assembled 0 values headed returned
      have texts := insert.headPieces_isText dialect head headed
      have returns : ((rowPieces head tail values).foldl
          (Assembly.add dialect.markerStyle) {}).outs ≠ [] := by
        intro none
        rw [none] at columns
        exact wanted columns.symm
      obtain ⟨⟨_, marked⟩, _⟩ := takes _ rfl
      have binds := Assembly.binds_eq_bound marked.2.1
      rw [← rowPieces, bound] at binds
      -- Values show in nothing but the binds, and room for returned rows in nothing but the shape.
      have width : values.length =
          (List.replicate insert.rows.columns.length Value.null).length :=
        wide.trans List.length_replicate.symm
      have written := dialect.assemble_withoutBinds .rowsAffected (rowPieces_alike head tail width)
      rw [Statement.withoutBinds, Statement.withoutBinds, Statement.mk.injEq] at written
      obtain ⟨sql, -, shape, -⟩ := written
      have outs := congrArg (List.map (OutBind.sized room)) (Statement.outs_congr shape)
      refine congrArg Except.ok ?_
      show insert.statement dialect (rowPieces head (tail.map (Piece.sized room)) values) =
        (insert.statement dialect (rowPieces head tail _)).filled _ room 0
      rw [← map_sized_rowPieces room texts, statement,
        dialect.assemble_sized room .rowsAffected returns, Statement.filled, Statement.mk.injEq]
      exact ⟨sql, binds, congrArg Shape.returning outs, rfl, rfl, rfl⟩

end Insert

end OracleSql
