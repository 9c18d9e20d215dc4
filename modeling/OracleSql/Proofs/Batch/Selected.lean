/-
This file follows the rows of a statement into its text. `Piece.Writes` says of pieces, where so many
markers stand before them, which text they become and which values they bind; both go along with
every way of putting pieces together. So rows that are selected from nothing stand in the text in
their order, and the markers count through them, from one row into the next. A label that stands
behind a marker, as in the first row of a merger, does not disturb the count.
-/

import OracleSql.Proofs.Listing.Statements
import OracleSql.Proofs.Returning.Form

namespace OracleSql

/-! ### Texts with the values they bind -/

/-- The statement with more text, in which the next markers stand for the values. -/
def Assembly.extended (style : MarkerStyle) (assembly : Assembly) (text : String)
    (values : List Value) : Assembly :=
  let names := (List.range' (assembly.markers + 1) values.length).map style.valueName
  { assembly with
    sql := assembly.sql ++ text
    markers := assembly.markers + values.length
    positional := match style with
      | .numbered => values.reverse ++ assembly.positional
      | .named => assembly.positional
    named := match style with
      | .numbered => assembly.named
      | .named => (names.zip values).reverse ++ assembly.named }

namespace Piece

/-- Behind so many markers, the pieces write the text and bind the values: text as it stands, and
the marker with the next number for each value. -/
inductive Writes (style : MarkerStyle) :
    (before : Nat) → List Piece → List Value → String → Prop
  | nil (before : Nat) : Writes style before [] [] ""
  | text {before : Nat} (sql : String) {rest : List Piece} {values : List Value} {written : String}
    (others : Writes style before rest values written) :
    Writes style before (.text sql :: rest) values (sql ++ written)
  | value {before : Nat} (bound : Value) {rest : List Piece} {values : List Value}
    {written : String} (others : Writes style (before + 1) rest values written) :
    Writes style before (.value bound :: rest) (bound :: values)
      (":" ++ style.valueName (before + 1) ++ written)

/-- Behind so many markers, the members write the texts one after the other, and bind the values. -/
inductive WritesEach (style : MarkerStyle) :
    (before : Nat) → List (List Piece) → List (List Value) → List String → Prop
  | nil (before : Nat) : WritesEach style before [] [] []
  | cons {before : Nat} {member : List Piece} {values : List Value} {written : String}
    {members : List (List Piece)} {rows : List (List Value)} {texts : List String}
    (first : Writes style before member values written)
    (others : WritesEach style (before + values.length) members rows texts) :
    WritesEach style before (member :: members) (values :: rows) (written :: texts)

variable {style : MarkerStyle} {before : Nat} {pieces others : List Piece}
  {values more : List Value} {written rest : String}

namespace Writes

theorem single (before : Nat) (sql : String) : Writes style before [.text sql] [] sql := by
  have written : Writes style before [.text sql] [] (sql ++ "") := .text sql (.nil before)
  rwa [String.append_empty] at written

/-- Pieces one after the other write one after the other. -/
theorem append (first : Writes style before pieces values written)
    (second : Writes style (before + values.length) others more rest) :
    Writes style before (pieces ++ others) (values ++ more) (written ++ rest) := by
  induction first with
  | nil before =>
    rw [String.empty_append]
    exact second
  | text sql _ inductionHypothesis =>
    rw [String.append_assoc]
    exact .text sql (inductionHypothesis second)
  | value bound _ inductionHypothesis =>
    rw [List.length_cons, Nat.add_comm _ 1, ← Nat.add_assoc] at second
    rw [String.append_assoc]
    exact .value bound (inductionHypothesis second)

/-- Text in front binds nothing. -/
theorem after (first : Writes style before others [] rest)
    (second : Writes style before pieces values written) :
    Writes style before (others ++ pieces) values (rest ++ written) :=
  first.append second

/-- Text behind binds nothing. -/
theorem followed (first : Writes style before pieces values written)
    (second : Writes style (before + values.length) others [] rest) :
    Writes style before (pieces ++ others) values (written ++ rest) := by
  have appended := first.append second
  rwa [List.append_nil] at appended

theorem enclosed (opening closing : String) (inner : Writes style before pieces values written) :
    Writes style before (Piece.enclosed opening closing pieces) values
      (opening ++ (written ++ closing)) :=
  .text opening (inner.followed (single _ closing))

end Writes

/-- Joined members write their texts, joined. -/
theorem WritesEach.join (separator : String) {members : List (List Piece)}
    {rows : List (List Value)} {texts : List String}
    (each : WritesEach style before members rows texts) :
    Writes style before (Piece.join separator members) rows.flatten
      (Text.join separator texts) := by
  induction each with
  | nil before => exact .nil before
  | cons first others inductionHypothesis =>
    cases others with
    | nil =>
      rw [List.flatten_cons, List.flatten_nil, List.append_nil, Text.join,
        String.intercalate_singleton]
      exact first
    | cons =>
      rw [Text.join, String.intercalate_cons_cons, String.append_assoc, Piece.join_cons_cons,
        List.flatten_cons]
      exact first.append (.text separator inductionHypothesis)

/-- Text has one way to be written. -/
theorem exists_writes_of_isText (style : MarkerStyle) (texts : pieces.all isText = true) :
    ∃ written, ∀ before, Writes style before pieces [] written := by
  induction pieces with
  | nil => exact ⟨"", .nil⟩
  | cons piece rest inductionHypothesis =>
    rw [List.all_cons, Bool.and_eq_true] at texts
    obtain ⟨written, others⟩ := inductionHypothesis texts.2
    cases piece with
    | text sql => exact ⟨sql ++ written, fun before => .text sql (others before)⟩
    | _ => cases texts.1

namespace Writes

/-- What is written binds the values and returns no column. -/
theorem holds (writes : Writes style before pieces values written) :
    pieces.filterMap value? = values ∧ pieces.filterMap column? = [] ∧
      pieces.all isPlain = true := by
  induction writes with
  | nil => exact ⟨rfl, rfl, rfl⟩
  | text sql _ inductionHypothesis => exact inductionHypothesis
  | value bound _ inductionHypothesis =>
    obtain ⟨bounds, columns, plain⟩ := inductionHypothesis
    refine ⟨?_, columns, plain⟩
    have first : value? (.value bound) = some bound := rfl
    rw [List.filterMap_cons_some first, bounds]

/-- What is written extends the statement by its text and its values. -/
theorem foldl_eq (writes : Writes style before pieces values written) (assembly : Assembly)
    (counted : assembly.markers = before) :
    pieces.foldl (Assembly.add style) assembly = assembly.extended style written values := by
  induction writes generalizing assembly with
  | nil =>
    cases style <;> simp [Assembly.extended]
  | text sql _ inductionHypothesis =>
    rw [List.foldl_cons, inductionHypothesis (assembly.add style (.text sql)) counted]
    simp only [Assembly.extended, Assembly.add, String.append_assoc]
  | value bound _ inductionHypothesis =>
    have next : (assembly.add style (.value bound)).markers = assembly.markers + 1 := by
      cases style <;> rfl
    rw [List.foldl_cons, inductionHypothesis _ (next.trans (congrArg Nat.succ counted))]
    subst counted
    cases style <;> simp [Assembly.extended, Assembly.add, Assembly.addNumbered,
      Assembly.addGenerated, Assembly.marked, MarkerStyle.valueName, List.range'_succ,
      String.append_assoc, Nat.add_assoc, Nat.add_comm 1]

end Writes

end Piece

/-- Text around what is written binds nothing. -/
theorem Piece.exists_writes_between {style : MarkerStyle} {front inner back : List Piece}
    {values : List Value} {written : String} (opened : front.all isText = true)
    (writes : Writes style 0 inner values written) (closed : back.all isText = true) :
    ∃ first last, Writes style 0 (front ++ inner ++ back) values (first ++ written ++ last) := by
  obtain ⟨first, before⟩ := exists_writes_of_isText style opened
  obtain ⟨last, behind⟩ := exists_writes_of_isText style closed
  exact ⟨first, last, ((before 0).after writes).followed (behind _)⟩

/-- Bound values are as many as a run takes. -/
theorem MarkerStyle.length_of_takes {style : MarkerStyle} {values : List Value} {count : Nat}
    (takes : (style.bound values).Takes style count) : values.length = count := by
  cases style with
  | numbered => exact takes.2
  | named =>
    have lengths := congrArg List.length takes.2
    rw [List.length_map, List.length_zip, length_markerNames, length_markerNames] at lengths
    omega

/-- A statement that is made of what is written has the text and binds the values, and the reader
finds the markers of these. -/
theorem Dialect.assemble_writes (dialect : Dialect) {pieces : List Piece} {values : List Value}
    {written : String} (writes : Piece.Writes dialect.markerStyle 0 pieces values written)
    {operation : String} {table : Option String}
    (agrees : ({ dialect.assemble pieces .rowsAffected with operation, table } :
      Statement).Agrees dialect.markerStyle) :
    (dialect.assemble pieces .rowsAffected).sql = written ∧
      (dialect.assemble pieces .rowsAffected).binds = dialect.markerStyle.bound values ∧
      Marker.nativeNames written = .ok (dialect.markerStyle.markerNames values.length 0) := by
  obtain ⟨⟨count, outs, marked⟩, _⟩ := agrees
  obtain ⟨held, columns, plain⟩ := writes.holds
  have sql : (dialect.assemble pieces .rowsAffected).sql = written :=
    (congrArg Assembly.sql (writes.foldl_eq {} rfl)).trans String.empty_append
  have takes : ((pieces.foldl (Assembly.add dialect.markerStyle) {}).binds
      dialect.markerStyle).Takes dialect.markerStyle count := marked.2.1
  have binds := Assembly.binds_eq_bound takes
  have bound : (pieces.foldl (Assembly.add dialect.markerStyle) {}).values dialect.markerStyle =
      values := by
    rw [Assembly.values_foldl _ _ plain, held]
    cases dialect.markerStyle <;> rfl
  rw [bound] at binds
  rw [binds] at takes
  have length : values.length = count := MarkerStyle.length_of_takes takes
  have none : outs = 0 := by
    have returned := Assembly.columns_foldl dialect.markerStyle pieces {}
    rw [columns, ← dialect.outs_assemble (Or.inr rfl)] at returned
    have lengths := congrArg List.length returned
    rw [List.length_map] at lengths
    exact marked.length_outs.symm.trans lengths
  refine ⟨sql, binds, ?_⟩
  rw [← sql, length, ← none]
  exact marked.1

/-! ### Rows of markers -/

namespace Rows

/-- The markers of a row behind so many rows of one width. -/
def markers (style : MarkerStyle) (width row : Nat) : List String :=
  (List.range' (row * width + 1) width).map fun number => ":" ++ style.valueName number

/-- Rows that are selected from nothing, one under the other, with a label for each column behind
the markers of the first row. -/
def selection (style : MarkerStyle) (labels : List String) (count : Nat) : String :=
  Text.join " UNION ALL " ((List.range count).map fun row =>
    let markers := Rows.markers style labels.length row
    Listing.selectText (if row = 0 then List.zipWith (· ++ ·) markers labels else markers))

variable (style : MarkerStyle)

theorem valuePieces_writes (before : Nat) (values : List Value) :
    Piece.Writes style before (valuePieces values) values (Text.join ", "
      ((List.range' (before + 1) values.length).map fun number => ":" ++ style.valueName number)) := by
  have each (before : Nat) : Piece.WritesEach style before
      (values.map fun value => [Piece.value value]) (values.map fun value => [value])
      ((List.range' (before + 1) values.length).map fun number => ":" ++ style.valueName number) := by
    induction values generalizing before with
    | nil => exact .nil before
    | cons value rest inductionHypothesis =>
      have first : Piece.Writes style before [.value value] [value]
          (":" ++ style.valueName (before + 1) ++ "") := .value value (.nil _)
      rw [String.append_empty] at first
      exact .cons first (inductionHypothesis (before + 1))
  have joined := (each before).join ", "
  rwa [← List.flatMap_def, List.flatMap_singleton'] at joined

/-- Selected rows without labels, behind so many others. -/
theorem selectPieces_writes {width : Nat} (start : Nat) {rows : List (List Value)}
    (wide : ∀ values ∈ rows, values.length = width) :
    Piece.WritesEach style (start * width) (rows.map Insert.selectPieces) rows
      ((List.range' start rows.length).map fun row =>
        Listing.selectText (markers style width row)) := by
  induction rows generalizing start with
  | nil => exact .nil _
  | cons values rest inductionHypothesis =>
    obtain ⟨first, others⟩ := List.forall_mem_cons.mp wide
    have row := (valuePieces_writes style (start * width) values).enclosed
      "SELECT " " FROM DUAL"
    rw [first, ← String.append_assoc] at row
    refine .cons row ?_
    rw [first, ← Nat.succ_mul]
    exact inductionHypothesis (start + 1) others

/-- Only the first row has labels. -/
theorem selection_succ (labels : List String) (count : Nat) :
    selection style labels (count + 1) = Text.join " UNION ALL "
      (Listing.selectText (List.zipWith (· ++ ·) (markers style labels.length 0) labels) ::
        (List.range' 1 count).map fun row =>
          Listing.selectText (markers style labels.length row)) := by
  have later : (List.range' 1 count).map (fun row => Listing.selectText (if row = 0 then
      List.zipWith (· ++ ·) (markers style labels.length row) labels
        else markers style labels.length row)) =
      (List.range' 1 count).map fun row => Listing.selectText (markers style labels.length row) :=
    List.map_congr_left fun row member => by
      rw [if_neg (Nat.one_le_iff_ne_zero.mp (List.mem_range'_1.mp member).1)]
  unfold selection
  rw [List.range_eq_range', List.range'_succ, List.map_cons, later]
  rfl

/-- Labels without letters leave nothing behind the markers. -/
theorem selection_unlabelled (columns : List String) (count : Nat) :
    selection style (columns.map fun _ => "") count = Text.join " UNION ALL "
      ((List.range' 0 count).map fun row =>
        Listing.selectText (markers style columns.length row)) := by
  have same (row : Nat) : List.zipWith (· ++ ·) (markers style columns.length row)
      (columns.map fun _ => "") = markers style columns.length row := by
    have length : (markers style columns.length row).length = columns.length := by
      rw [markers, List.length_map, List.length_range']
    simp only [List.zipWith_map_right, String.append_empty]
    rw [← List.map_uncurry_zip_eq_zipWith]
    exact List.map_fst_zip length.le
  unfold selection
  simp only [List.length_map, same, ite_self, List.range_eq_range']

end Rows

/-! ### Insertions and mergers -/

section

variable {dialect : Dialect}

/-- The pieces of several inserted rows write the selection of the rows behind the head. -/
theorem Insert.selected_writes {insert : Insert} {head : List Piece} {rows : List (List Value)}
    (headed : insert.headPieces dialect = .ok head)
    (wide : ∀ values ∈ rows, values.length = insert.rows.columns.length) :
    ∃ front, Piece.Writes dialect.markerStyle 0
      (head ++ (.text " " :: Piece.join " UNION ALL " (rows.map selectPieces))) rows.flatten
      (front ++ Rows.selection dialect.markerStyle (insert.rows.columns.map fun _ => "")
        rows.length) := by
  obtain ⟨first, before⟩ := Piece.exists_writes_of_isText dialect.markerStyle
    (insert.headPieces_isText dialect head headed)
  have selected := (Rows.selectPieces_writes dialect.markerStyle 0 wide).join
    " UNION ALL "
  rw [Nat.zero_mul, ← Rows.selection_unlabelled] at selected
  refine ⟨first ++ " ", ?_⟩
  rw [String.append_assoc]
  exact (before 0).after (.text " " selected)

namespace Merge

/-- The first row of a merger writes its markers with the names of the columns behind them. -/
theorem namedRowPieces_writes (style : MarkerStyle) {columns names : List String}
    {values : List Value} {pieces : List Piece}
    (built : namedRowPieces dialect columns values = .ok pieces)
    (named : columns.mapM dialect.nameText = .ok names) (wide : values.length = columns.length) :
    Piece.Writes style 0 pieces values (Text.join ", " (List.zipWith (· ++ ·)
      (Rows.markers style columns.length 0) (names.map (" " ++ ·)))) := by
  obtain ⟨members, made, rfl⟩ := map_eq_ok.mp built
  have each (before : Nat) : Piece.WritesEach style before members (values.map fun value => [value])
      (List.zipWith (· ++ ·) ((List.range' (before + 1) columns.length).map fun number =>
        ":" ++ style.valueName number) (names.map (" " ++ ·))) := by
    have own := mapM_eq_ok_iff.mp named
    have cells := mapM_eq_ok_iff.mp made
    clear built made named
    induction own generalizing values members before with
    | nil =>
      cases List.eq_nil_of_length_eq_zero wide
      cases cells
      exact .nil before
    | @cons column name _ _ first _ inductionHypothesis =>
      obtain ⟨value, others, rfl⟩ := List.exists_cons_of_length_eq_add_one wide
      cases cells with
      | cons cell further =>
        obtain ⟨text, found, rfl⟩ := map_eq_ok.mp cell
        cases found.symm.trans first
        refine .cons ?_ (inductionHypothesis (Nat.succ.inj wide) _ _ further)
        exact .value value (.single _ _)
  have joined := (each 0).join ", "
  rw [Rows.markers, Nat.zero_mul]
  rwa [← List.flatMap_def, List.flatMap_singleton'] at joined

/-- The rows of a merger write their selection, in which the first row names the columns. -/
theorem sourcePieces_writes (style : MarkerStyle) {columns names : List String}
    {rows : List (List Value)} {pieces : List Piece}
    (built : sourcePieces dialect columns rows = .ok pieces)
    (named : columns.mapM dialect.nameText = .ok names) (some : rows ≠ [])
    (wide : ∀ values ∈ rows, values.length = columns.length) :
    Piece.Writes style 0 pieces rows.flatten
      (Rows.selection style (names.map (" " ++ ·)) rows.length) := by
  obtain ⟨first, rest, rfl⟩ := List.exists_cons_of_ne_nil some
  obtain ⟨wideFirst, wideRest⟩ := List.forall_mem_cons.mp wide
  obtain ⟨labelled, made, same⟩ := bind_eq_ok.mp built
  cases same
  have length : (names.map (" " ++ ·)).length = columns.length := by
    rw [List.length_map, (mapM_eq_ok_iff.mp named).length_eq]
  have head := (namedRowPieces_writes style made named wideFirst).enclosed
    "SELECT " " FROM DUAL"
  have others := Rows.selectPieces_writes style 1 wideRest
  rw [Nat.one_mul, ← Nat.zero_add columns.length, ← wideFirst] at others
  have joined := (Piece.WritesEach.cons head others).join " UNION ALL "
  rw [← String.append_assoc, wideFirst, Nat.zero_add, ← length] at joined
  rw [List.length_cons, Rows.selection_succ, List.map_cons, List.map_map]
  exact joined

theorem equalPieces_isText (column : String) :
    Ensures (fun pieces => pieces.all Piece.isText = true) (equalPieces dialect column) :=
  Ensures.map (Ensures.anything _) fun _ _ => rfl

theorem sidePieces_isText (side column : String) :
    Ensures (fun pieces => pieces.all Piece.isText = true) (sidePieces dialect side column) :=
  Ensures.map (Ensures.anything _) fun _ _ => rfl

theorem matchedPieces_isText (updated : List String) :
    Ensures (fun pieces => pieces.all Piece.isText = true) (matchedPieces dialect updated) := by
  unfold matchedPieces
  split
  · exact Ensures.ok rfl
  · refine Ensures.bind (Ensures.mapM fun column _ => equalPieces_isText column)
      fun changes each => Ensures.ok ?_
    rw [List.all_cons, Piece.all_join rfl changes each]
    rfl

/-- The pieces of a merger write the selection of its rows between texts that bind nothing. -/
theorem statement_writes {merge : Merge} {updated : List String} {rows : List (List Value)}
    {statement : Statement} (built : merge.statement dialect updated rows = .ok statement)
    (some : rows ≠ []) (wide : ∀ values ∈ rows, values.length = merge.rows.columns.length) :
    ∃ names pieces front back, merge.rows.columns.mapM dialect.nameText = .ok names ∧
      Piece.Writes dialect.markerStyle 0 pieces rows.flatten
        (front ++ Rows.selection dialect.markerStyle (names.map (" " ++ ·)) rows.length ++ back) ∧
      statement = { dialect.assemble pieces .rowsAffected with
        operation := "merge", table := Option.some merge.table } := by
  unfold Merge.statement at built
  simp only [bind_eq_ok] at built
  obtain ⟨tablePieces, tableNamed, source, selected, keyPieces, met, matched, changed, namePieces,
    listed, valuePieces, taken, same⟩ := built
  cases same
  obtain ⟨names, named, _⟩ := Dialect.namePieces_spells listed
  have rowsWritten := sourcePieces_writes dialect.markerStyle selected named some wide
  have tableText := dialect.namePiece_isText merge.table tablePieces tableNamed
  have keyText : (Piece.join " AND " keyPieces).all Piece.isText = true := Piece.all_join rfl _
    (Ensures.mapM (fun column _ => equalPieces_isText column) keyPieces met)
  have metText := matchedPieces_isText updated matched changed
  have nameText := dialect.namePieces_isText merge.rows.columns namePieces listed
  have valueText : (Piece.join ", " valuePieces).all Piece.isText = true := Piece.all_join rfl _
    (Ensures.mapM (fun column _ => sidePieces_isText "s" column) valuePieces taken)
  have opened : (.text "MERGE INTO " :: (tablePieces ++ [.text " t USING ("])).all
      Piece.isText = true := by
    rw [List.all_cons, List.all_append, tableText]
    rfl
  have closed : (.text ") s ON (" :: (Piece.join " AND " keyPieces ++ (.text ")" :: matched) ++
      Piece.enclosed " WHEN NOT MATCHED THEN INSERT (" ") VALUES (" namePieces ++
      Piece.join ", " valuePieces ++ [.text ")"])).all Piece.isText = true := by
    simp only [List.all_cons, List.all_append, Piece.enclosed, keyText, metText, nameText,
      valueText]
    rfl
  obtain ⟨front, back, written⟩ := Piece.exists_writes_between opened rowsWritten closed
  refine ⟨names, _, front, back, named, written, ?_⟩
  simp [Piece.enclosed]

end Merge

end

end OracleSql
