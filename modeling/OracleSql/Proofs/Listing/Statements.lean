/-
This file says which statements name a column twice. Insertions, updates, mergers and definitions of
tables list columns, and each of them compares the columns that are declared for it in its own way:
rows and tables by their spelling, mergers in part, updates not at all. What counts for the database
is how the names are written. Each of these statements is taken apart into its lists, and these have
every name once exactly if the declared columns stay apart when they are written.
-/

import OracleSql.Migration.Migrator
import OracleSql.Proofs.Listing.Repeats
import OracleSql.Proofs.Listing.Spelling
import OracleSql.Proofs.Migration.Written
import OracleSql.Proofs.Returning.Tiling

namespace OracleSql

/-! ### Lists of columns -/

/-- The lists of columns in a statement, with the names as they are written. -/
structure ColumnLists where
  /-- The columns that are put in, or that are defined. -/
  columns : List String := []
  /-- The columns of the rows that are selected. -/
  source : List String := []
  /-- The columns that are set. -/
  set : List String := []
  /-- The columns by which a row is met. -/
  keys : List String := []

/-- No list names a column twice, and no column is set by which a row is met. -/
def ColumnLists.NamesOnce (lists : ColumnLists) : Prop :=
  lists.columns.Nodup ∧ lists.source.Nodup ∧ lists.set.Nodup ∧ ∀ name ∈ lists.set, name ∉ lists.keys

/-- What lists columns: a change that puts rows in or changes them, or the definition of a table. -/
inductive Listing where
  | insertion (change : Insert)
  | update (change : Update)
  | merger (change : Merge)
  | creation (table : Table)

namespace Listing

/-- The declared name of the table. -/
def table : Listing → String
  | insertion change => change.table
  | update change => change.table
  | merger change => change.table
  | creation table => table.name

/-- The texts of the statements, if the declaration is accepted. -/
def texts (dialect : Dialect) : Listing → Except Error (List String)
  | insertion change => (change.plan dialect).map fun plan => plan.statements.map Statement.sql
  | update change => (change.plan dialect).map fun plan => plan.statements.map Statement.sql
  | merger change => (change.plan dialect).map fun plan => plan.statements.map Statement.sql
  | creation table => do
    dialect.checkTable table
    let text ← (Definition.createTable table).sql dialect
    .ok [text]

/-- The lists of columns, as they are written. -/
def lists (dialect : Dialect) : Listing → Except Error ColumnLists
  | insertion change => do
    let columns ← change.rows.columns.mapM dialect.nameText
    .ok { columns }
  | update change => do
    let set ← (change.assignments.map Prod.fst).mapM dialect.nameText
    .ok { set }
  | merger change => do
    let updated ← change.updatedColumns.mapError fun fault => .validation (.merge fault)
    let columns ← change.rows.columns.mapM dialect.nameText
    let set ← updated.mapM dialect.nameText
    let keys ← change.keys.mapM dialect.nameText
    .ok { columns, source := columns, set, keys }
  | creation table => do
    let columns ← (table.columns.map Column.name).mapM dialect.nameText
    .ok { columns }

/-- Texts that are markers for values. -/
def AreMarkers (markers : List String) : Prop :=
  ∀ marker ∈ markers, ∃ name, marker = ":" ++ name

/-- A row that is selected from nothing. -/
def selectText (members : List String) : String :=
  "SELECT " ++ Text.join ", " members ++ " FROM DUAL"

/-- What puts rows in behind the columns: the values of one row, with room for what it returns, or
selected rows. -/
def PutsIn (source : String) : Prop :=
  (∃ markers rest, AreMarkers markers ∧
      source = " VALUES (" ++ Text.join ", " markers ++ ")" ++ rest) ∨
    ∃ rows : List (List String), (∀ markers ∈ rows, AreMarkers markers) ∧
      source = " " ++ Text.join " UNION ALL " (rows.map selectText)

/-- The same columns of both sides of a merger with equals signs between them. -/
def equalTexts (columns : List String) : List String :=
  columns.map fun name => "t." ++ name ++ " = s." ++ name

/-- What a merger says about rows that are met. -/
def metText (set : List String) : String :=
  if set.isEmpty then ""
  else " WHEN MATCHED THEN UPDATE SET " ++ Text.join ", " (equalTexts set)

/-- The text has these lists in the places where a statement of the kind lists columns. -/
def Shows (table : String) (lists : ColumnLists) (text : String) : Listing → Prop
  | insertion _ => ∃ source, PutsIn source ∧
      text = "INSERT INTO " ++ table ++ " (" ++ Text.join ", " lists.columns ++ ")" ++ source
  | update _ => ∃ contents rest, contents.length = lists.set.length ∧
      text = "UPDATE " ++ table ++ " SET " ++
        Text.join ", " (List.zipWith (fun name content => name ++ " = " ++ content)
          lists.set contents) ++ rest
  | merger _ => ∃ markers others, markers.length = lists.source.length ∧ AreMarkers markers ∧
      text = "MERGE INTO " ++ table ++ " t USING (" ++
        Text.join " UNION ALL " (selectText (List.zipWith (fun name marker => marker ++ " " ++ name)
          lists.source markers) :: others) ++
        ") s ON (" ++ Text.join " AND " (equalTexts lists.keys) ++ ")" ++ metText lists.set ++
        " WHEN NOT MATCHED THEN INSERT (" ++ Text.join ", " lists.columns ++ ") VALUES (" ++
        Text.join ", " (lists.columns.map ("s." ++ ·)) ++ ")"
  | creation _ => ∃ rests key, rests.length = lists.columns.length ∧ List.length key ≤ 1 ∧
      text = "CREATE TABLE " ++ table ++ " (" ++
        Text.join ", " (List.zipWith (fun name rest => name ++ " " ++ rest)
          lists.columns rests ++ key) ++ ")"

/-- The declared columns stay apart when they are written. Rows and tables have been checked for
columns that are spelled alike; the columns of an update and those that a merger is told to change
have not. -/
def Apart (dialect : Dialect) : Listing → Prop
  | insertion change => dialect.SpellsApart change.rows.columns
  | update change => (change.assignments.map Prod.fst).Pairwise fun column other =>
      dialect.nameText column ≠ dialect.nameText other
  | merger change => dialect.SpellsApart change.rows.columns ∧
      (change.insertOnly = false → ∀ names ∈ change.updated, Text.Distinct names) ∧
      ∀ updated, change.updatedColumns = .ok updated → ∀ column ∈ updated, ∀ key ∈ change.keys,
        dialect.nameText column ≠ dialect.nameText key
  | creation table => dialect.SpellsApart (table.columns.map Column.name)

end Listing

/-! ### Insertions -/

section

variable {dialect : Dialect}

open Piece (Spells)

/-- Values are written as markers with commas between them. -/
theorem Rows.valuePieces_spells {values : List Value} {written : String}
    (spelled : Spells (valuePieces values) written) :
    ∃ markers, markers.length = values.length ∧ Listing.AreMarkers markers ∧
      written = Text.join ", " markers := by
  obtain ⟨markers, each, rfl⟩ := spelled.of_join
  rw [List.forall₂_map_left_iff] at each
  refine ⟨markers, each.length_eq.symm, fun marker member => ?_, rfl⟩
  obtain ⟨value, _, own⟩ := exists_of_forall₂ each.flip member
  obtain ⟨name, others, rest, rfl⟩ := own.of_value
  exact ⟨name, by rw [rest.of_nil, String.append_empty]⟩

namespace Insert

variable {insert : Insert}

/-- The text of an insertion, whatever its rows are. -/
def Shows (dialect : Dialect) (insert : Insert) (text : String) : Prop :=
  ∃ table lists, dialect.nameText insert.table = .ok table ∧
    (Listing.insertion insert).lists dialect = .ok lists ∧
    (Listing.insertion insert).Shows table lists text

theorem headPieces_spells {pieces : List Piece} (built : insert.headPieces dialect = .ok pieces) :
    ∃ table columns, dialect.nameText insert.table = .ok table ∧
      insert.rows.columns.mapM dialect.nameText = .ok columns ∧
      ∀ written, Spells pieces written →
        written = "INSERT INTO " ++ table ++ " (" ++ Text.join ", " columns ++ ")" := by
  obtain ⟨tablePieces, tableNamed, rest⟩ := bind_eq_ok.mp built
  obtain ⟨columnPieces, columnsNamed, same⟩ := bind_eq_ok.mp rest
  cases same
  obtain ⟨table, named, tableFixed⟩ := Dialect.namePiece_spells tableNamed
  obtain ⟨columns, listed, columnsFixed⟩ := Dialect.namePieces_spells columnsNamed
  refine ⟨table, columns, named, listed, fun written spelled => ?_⟩
  obtain ⟨_, behind, rfl⟩ := spelled.of_text
  obtain ⟨_, _, first, second, rfl⟩ := behind.of_append
  obtain ⟨inner, inside, rfl⟩ := second.of_enclosed
  rw [tableFixed _ first, columnsFixed _ inside]
  simp only [String.append_assoc]

/-- An insertion shows its columns once the pieces behind the head put rows in. -/
theorem shows_of_head {head tail pieces : List Piece}
    (built : insert.headPieces dialect = .ok head) (whole : pieces = head ++ tail)
    (puts : ∀ written, Spells tail written → Listing.PutsIn written) :
    insert.Shows dialect (insert.statement dialect pieces).sql := by
  obtain ⟨table, columns, named, listed, fixed⟩ := headPieces_spells built
  have spelled := Spells.assemble dialect (head ++ tail) .rowsAffected
  obtain ⟨_, source, first, second, same⟩ := spelled.of_append
  refine ⟨table, { columns }, named, ?_, source, puts source second, ?_⟩
  · show (insert.rows.columns.mapM dialect.nameText >>= fun columns => _) = _
    rw [listed]
    rfl
  · rw [whole, ← fixed _ first]
    exact same

theorem oneRow_shows (returned : Nat) (values : List Value) :
    Ensures (fun statement => insert.Shows dialect statement.sql)
      (insert.oneRow dialect returned values) := by
  intro statement built
  obtain ⟨head, opened, rest⟩ := bind_eq_ok.mp built
  obtain ⟨tail, _, same⟩ := bind_eq_ok.mp rest
  cases same
  refine shows_of_head opened (List.append_assoc _ _ _) fun written spelled => ?_
  obtain ⟨_, room, first, _, rfl⟩ := spelled.of_append
  obtain ⟨_, inside, rfl⟩ := first.of_enclosed
  obtain ⟨markers, _, areMarkers, rfl⟩ := Rows.valuePieces_spells inside
  exact .inl ⟨markers, room, areMarkers, rfl⟩

theorem severalRows_shows (rows : List (List Value)) :
    Ensures (fun statement => insert.Shows dialect statement.sql)
      (insert.severalRows dialect rows) := by
  intro statement built
  obtain ⟨head, opened, same⟩ := bind_eq_ok.mp built
  cases same
  refine shows_of_head opened rfl fun written spelled => .inr ?_
  obtain ⟨_, behind, rfl⟩ := spelled.of_text
  obtain ⟨selected, each, rfl⟩ := behind.of_join
  rw [List.forall₂_map_left_iff] at each
  have marked : List.Forall₂ (fun _ text => ∃ markers, Listing.AreMarkers markers ∧
      Listing.selectText markers = text) rows selected := by
    refine each.imp fun values text own => ?_
    obtain ⟨_, inside, rfl⟩ := own.of_enclosed
    obtain ⟨markers, _, areMarkers, rfl⟩ := Rows.valuePieces_spells inside
    exact ⟨markers, areMarkers, rfl⟩
  obtain ⟨members, areMarkers, same⟩ := forall₂_middle marked
  refine ⟨members, fun markers member => ?_, ?_⟩
  · obtain ⟨_, _, own⟩ := exists_of_forall₂ areMarkers.flip member
    exact own
  · have texts : members.map Listing.selectText = selected.map id :=
      (map_eq_map_iff members selected).mpr same
    rw [texts, List.map_id]

theorem Makes.shows {statement : Statement} (makes : insert.Makes dialect statement) :
    insert.Shows dialect statement.sql := by
  cases makes with
  | oneRow offset built | batch offset _ built =>
    have shows := oneRow_shows _ _ _ built
    exact shows
  | severalRows built => exact severalRows_shows _ _ built

/-- Every statement of a planned insertion shows its columns. -/
theorem plan_shows {plan : Plan} (built : insert.planUnplaced dialect = .ok plan) :
    ∀ statement ∈ plan.statements, insert.Shows dialect statement.sql :=
  fun statement member => (makes_of_planUnplaced built statement member).shows

end Insert

/-! ### Updates -/

/-- An update shows the columns that it sets. -/
theorem Update.shows_of_build {update : Update} {statement : Statement}
    (built : update.build dialect = .ok statement) :
    ∃ table lists, dialect.nameText update.table = .ok table ∧
      (Listing.update update).lists dialect = .ok lists ∧
      (Listing.update update).Shows table lists statement.sql := by
  obtain ⟨_, tablePieces, changes, rows, tail, tableNamed, changed, _, _, rfl⟩ :=
    parts_of_build built
  obtain ⟨table, named, tableFixed⟩ := Dialect.namePiece_spells tableNamed
  have leading : List.Forall₂ (fun (assignment : String × Assignment) pieces =>
      ∃ name, dialect.nameText assignment.1 = .ok name ∧
        ∀ written, Spells pieces written → ∃ content, written = name ++ " = " ++ content)
      update.assignments changes := by
    refine (mapM_eq_ok_iff.mp changed).imp fun assignment pieces own => ?_
    obtain ⟨name, own, rest⟩ := bind_eq_ok.mp own
    refine ⟨name, own, fun written spelled => ?_⟩
    cases assigned : assignment.2 with
    | value value =>
      rw [assigned] at rest
      obtain ⟨content, _, same⟩ := bind_eq_ok.mp rest
      cases same
      obtain ⟨content, _, rfl⟩ := spelled.of_text
      exact ⟨content, rfl⟩
    | expression sql =>
      rw [assigned] at rest
      obtain ⟨content, _, same⟩ := bind_eq_ok.mp rest
      cases same
      obtain ⟨content, _, rfl⟩ := spelled.of_text
      exact ⟨content, rfl⟩
  obtain ⟨set, listed, behind⟩ := forall₂_middle leading
  have spelled := Spells.assemble dialect (.text "UPDATE " :: (tablePieces ++ (.text " SET " ::
    (Piece.join ", " changes ++ rows ++ tail)))) .rowsAffected
  obtain ⟨_, afterVerb, whole⟩ := spelled.of_text
  obtain ⟨_, _, tableText, afterTable, rfl⟩ := afterVerb.of_append
  obtain ⟨_, afterSet, rfl⟩ := afterTable.of_text
  obtain ⟨_, last, filtered, _, rfl⟩ := afterSet.of_append
  obtain ⟨_, middle, joined, _, rfl⟩ := filtered.of_append
  obtain ⟨texts, each, rfl⟩ := joined.of_join_each behind
  obtain ⟨contents, length, rfl⟩ :=
    exists_zipWith_of_forall₂ (fun name content => name ++ " = " ++ content) each
  refine ⟨table, { set }, named, ?_, contents, middle ++ last, length, ?_⟩
  · show ((update.assignments.map Prod.fst).mapM dialect.nameText >>= fun set => _) = _
    rw [mapM_eq_ok_iff.mpr (List.forall₂_map_left_iff.mpr listed)]
    rfl
  · rw [← tableFixed _ tableText]
    refine whole.trans ?_
    simp only [String.append_assoc]

/-! ### Mergers -/

namespace Merge

/-- Columns of both sides with equals signs between them are written with their names. -/
theorem equalPieces_spells {columns : List String} {members : List (List Piece)}
    (built : columns.mapM (equalPieces dialect) = .ok members) :
    ∃ names, columns.mapM dialect.nameText = .ok names ∧
      List.Forall₂ (fun text member => ∀ written, Spells member written → written = text)
        (Listing.equalTexts names) members :=
  Dialect.members_spell (fun _ => rfl) built

/-- The columns of a side are written behind its name. -/
theorem sidePieces_spells {side : String} {columns names : List String}
    {members : List (List Piece)} (built : columns.mapM (sidePieces dialect side) = .ok members)
    (named : columns.mapM dialect.nameText = .ok names) :
    List.Forall₂ (fun text member => ∀ written, Spells member written → written = text)
      (names.map fun name => side ++ "." ++ name) members := by
  obtain ⟨others, own, fixed⟩ := Dialect.members_spell (fun _ => rfl) built
  cases own.symm.trans named
  exact fixed

/-- The first row is written as markers with the names of the columns behind them. -/
theorem namedRowPieces_spells {columns names : List String} {values : List Value}
    {pieces : List Piece} {written : String}
    (built : namedRowPieces dialect columns values = .ok pieces)
    (named : columns.mapM dialect.nameText = .ok names)
    (wide : values.length = columns.length) (spelled : Spells pieces written) :
    ∃ markers, markers.length = names.length ∧ Listing.AreMarkers markers ∧
      written = Text.join ", "
        (List.zipWith (fun name marker => marker ++ " " ++ name) names markers) := by
  obtain ⟨members, made, rfl⟩ := map_eq_ok.mp built
  have each : List.Forall₂ (fun (cell : Value × String) member =>
      ∃ name, dialect.nameText cell.2 = .ok name ∧ ∀ written, Spells member written →
        ∃ marker, written = ":" ++ marker ++ " " ++ name) (values.zip columns) members := by
    refine (mapM_eq_ok_iff.mp made).imp fun cell member own => ?_
    obtain ⟨name, named, rfl⟩ := map_eq_ok.mp own
    refine ⟨name, named, fun written spelled => ?_⟩
    obtain ⟨marker, _, behind, rfl⟩ := spelled.of_value
    rw [behind.of_single]
    exact ⟨marker, String.append_assoc.symm⟩
  obtain ⟨others, own, behind⟩ := forall₂_middle each
  have listed : ((values.zip columns).map Prod.snd).mapM dialect.nameText = .ok others :=
    mapM_eq_ok_iff.mpr (List.forall₂_map_left_iff.mpr own)
  rw [List.map_snd_zip wide.ge, named] at listed
  cases listed
  obtain ⟨texts, rows, rfl⟩ := spelled.of_join_each behind
  obtain ⟨markers, length, rfl⟩ :=
    exists_zipWith_of_forall₂ (fun name marker => ":" ++ marker ++ " " ++ name) rows
  refine ⟨markers.map (":" ++ ·), by rw [List.length_map, length], ?_, ?_⟩
  · exact List.forall_mem_map.mpr fun marker _ => ⟨marker, rfl⟩
  · rw [List.zipWith_map_right]

/-- The selected rows start with one that names the columns. -/
theorem sourcePieces_spells {columns names : List String} {rows : List (List Value)}
    {pieces : List Piece} {written : String}
    (built : sourcePieces dialect columns rows = .ok pieces)
    (named : columns.mapM dialect.nameText = .ok names) (some : rows ≠ [])
    (wide : ∀ values ∈ rows, values.length = columns.length) (spelled : Spells pieces written) :
    ∃ markers others, markers.length = names.length ∧ Listing.AreMarkers markers ∧
      written = Text.join " UNION ALL " (Listing.selectText
        (List.zipWith (fun name marker => marker ++ " " ++ name) names markers) :: others) := by
  cases rows with
  | nil => exact absurd rfl some
  | cons first rest =>
    obtain ⟨row, made, same⟩ := bind_eq_ok.mp built
    cases same
    obtain ⟨texts, each, rfl⟩ := spelled.of_join
    cases each with
    | cons head _ =>
      obtain ⟨_, inside, rfl⟩ := head.of_enclosed
      obtain ⟨markers, length, areMarkers, rfl⟩ :=
        namedRowPieces_spells made named (wide first List.mem_cons_self) inside
      exact ⟨markers, _, length, areMarkers, rfl⟩

theorem matchedPieces_spells {updated : List String} {pieces : List Piece}
    (built : matchedPieces dialect updated = .ok pieces) :
    ∃ names, updated.mapM dialect.nameText = .ok names ∧
      ∀ written, Spells pieces written → written = Listing.metText names := by
  unfold matchedPieces at built
  cases updated with
  | nil =>
    cases built
    exact ⟨[], rfl, fun _ => Spells.of_nil⟩
  | cons column rest =>
    obtain ⟨members, made, same⟩ := bind_eq_ok.mp built
    cases same
    obtain ⟨names, named, fixed⟩ := equalPieces_spells made
    refine ⟨names, named, fun written spelled => ?_⟩
    obtain ⟨_, joined, rfl⟩ := spelled.of_text
    rw [joined.of_join_fixed fixed]
    cases names with
    | nil => cases mapM_eq_ok_iff.mp named
    | cons => rfl

/-- A statement of a merger shows its columns. -/
theorem shows_of_statement {merge : Merge} {updated : List String} {rows : List (List Value)}
    {statement : Statement} (chosen : merge.updatedColumns = .ok updated) (some : rows ≠ [])
    (wide : ∀ values ∈ rows, values.length = merge.rows.columns.length)
    (built : merge.statement dialect updated rows = .ok statement) :
    ∃ table lists, dialect.nameText merge.table = .ok table ∧
      (Listing.merger merge).lists dialect = .ok lists ∧
      (Listing.merger merge).Shows table lists statement.sql := by
  unfold Merge.statement at built
  simp only [bind_eq_ok] at built
  obtain ⟨tablePieces, tableNamed, source, selected, keyPieces, met, matched, changed, namePieces,
    listed, valuePieces, taken, same⟩ := built
  cases same
  obtain ⟨table, named, tableFixed⟩ := Dialect.namePiece_spells tableNamed
  obtain ⟨keys, keysNamed, keysFixed⟩ := equalPieces_spells met
  obtain ⟨set, setNamed, setFixed⟩ := matchedPieces_spells changed
  obtain ⟨columns, columnsNamed, columnsFixed⟩ := Dialect.namePieces_spells listed
  have valuesFixed := sidePieces_spells taken columnsNamed
  have spelled := Spells.assemble dialect (.text "MERGE INTO " :: (tablePieces ++
    Piece.enclosed " t USING (" ") s ON (" source ++ Piece.join " AND " keyPieces ++
    (.text ")" :: matched) ++
    Piece.enclosed " WHEN NOT MATCHED THEN INSERT (" ") VALUES (" namePieces ++
    Piece.join ", " valuePieces ++ [.text ")"])) .rowsAffected
  obtain ⟨_, all, whole⟩ := spelled.of_text
  -- The appended parts come off one by one, the last of them first.
  obtain ⟨_, _, toValues, closing, rfl⟩ := all.of_append
  obtain ⟨_, _, toInsertion, values, rfl⟩ := toValues.of_append
  obtain ⟨_, _, toChanges, inserted, rfl⟩ := toInsertion.of_append
  obtain ⟨_, _, toCondition, changing, rfl⟩ := toChanges.of_append
  obtain ⟨_, _, toRows, condition, rfl⟩ := toCondition.of_append
  obtain ⟨_, _, head, sourced, rfl⟩ := toRows.of_append
  obtain ⟨_, rows, rfl⟩ := sourced.of_enclosed
  obtain ⟨_, changes, rfl⟩ := changing.of_text
  obtain ⟨_, names, rfl⟩ := inserted.of_enclosed
  obtain ⟨markers, others, length, areMarkers, rfl⟩ :=
    sourcePieces_spells selected columnsNamed some wide rows
  refine ⟨table, { columns, source := columns, set, keys }, named, ?_, markers, others, length,
    areMarkers, ?_⟩
  · show ((merge.updatedColumns.mapError fun fault => Error.validation (.merge fault)) >>=
      fun updated => merge.rows.columns.mapM dialect.nameText >>= fun columns =>
        updated.mapM dialect.nameText >>= fun set => merge.keys.mapM dialect.nameText >>=
          fun keys => _) = _
    rw [chosen, columnsNamed]
    show (updated.mapM dialect.nameText >>= fun set => merge.keys.mapM dialect.nameText >>=
      fun keys => _) = _
    rw [setNamed, keysNamed]
    rfl
  · rw [← tableFixed _ head]
    refine whole.trans ?_
    rw [condition.of_join_fixed keysFixed, setFixed _ changes, columnsFixed _ names,
      values.of_join_fixed valuesFixed, closing.of_single]
    simp only [String.append_assoc]
    rfl

/-- Every statement of a planned merger shows its columns. -/
theorem plan_shows {merge : Merge} {plan : Plan} (built : merge.planUnplaced dialect = .ok plan) :
    ∀ statement ∈ plan.statements, ∃ table lists, dialect.nameText merge.table = .ok table ∧
      (Listing.merger merge).lists dialect = .ok lists ∧
      (Listing.merger merge).Shows table lists statement.sql := by
  obtain ⟨checked, updated, rows, size, statements, chosen, stored, _, made, rfl⟩ :=
    parts_of_planUnplaced built
  have wide := Rows.stored_widths checked rows stored
  refine Ensures.mapM (fun chunk part statement => ?_) statements made
  exact shows_of_statement chosen (ne_nil_of_mem_chunks size rows chunk part)
    fun values member => wide values (mem_of_mem_chunks size rows chunk part values member)

end Merge

/-! ### Definitions of tables -/

/-- The definition of a column starts with its name. -/
theorem Dialect.columnText_leads {table : Table} {column : Column} {text : String}
    (built : dialect.columnText table column = .ok text) :
    ∃ name, dialect.nameText column.name = .ok name ∧ ∃ rest, text = name ++ " " ++ rest := by
  obtain ⟨name, columnType, default, named, _, _, _, rfl⟩ := columnText_eq_ok_iff.mp built
  exact ⟨name, named, _, by simp only [String.append_assoc]; rfl⟩

/-- The definition of a table shows its columns. -/
theorem Definition.tableText_shows {table : Table} {text : String}
    (built : Definition.tableText dialect table = .ok text) :
    ∃ name lists, dialect.nameText table.name = .ok name ∧
      (Listing.creation table).lists dialect = .ok lists ∧
      (Listing.creation table).Shows name lists text := by
  obtain ⟨texts, columns, rest⟩ := bind_eq_ok.mp built
  obtain ⟨key, keyed, rest⟩ := bind_eq_ok.mp rest
  obtain ⟨name, named, same⟩ := bind_eq_ok.mp rest
  cases same
  obtain ⟨names, own, behind⟩ := forall₂_middle
    ((mapM_eq_ok_iff.mp columns).imp fun _ _ each => dialect.columnText_leads each)
  obtain ⟨rests, length, rfl⟩ :=
    exists_zipWith_of_forall₂ (fun name rest => name ++ " " ++ rest) behind
  refine ⟨name, { columns := names }, named, ?_, rests, key, length, ?_, rfl⟩
  · show ((table.columns.map Column.name).mapM dialect.nameText >>= fun columns => _) = _
    rw [mapM_eq_ok_iff.mpr (List.forall₂_map_left_iff.mpr own)]
    rfl
  · rw [← (mapM_eq_ok_iff.mp keyed).length_eq]
    exact Option.length_toList_le

/-! ### Names that are listed once -/

namespace Merge

variable {merge : Merge} {updated : List String}

theorem updatedColumn_eq_ok {name column : String}
    (chosen : merge.updatedColumn name = .ok column) :
    column ∈ merge.rows.columns ∧ Text.sameFolded column name = true := by
  unfold updatedColumn at chosen
  split at chosen
  · cases chosen
  · split at chosen
    next found =>
      cases chosen
      exact ⟨List.mem_of_find?_eq_some found, by simpa using List.find?_some found⟩
    · cases chosen

/-- Two names stand for the same column of the rows just if they are spelled alike. -/
theorem updatedColumn_eq_iff (distinct : Text.Distinct merge.rows.columns)
    {name column other another : String} (chosen : merge.updatedColumn name = .ok column)
    (again : merge.updatedColumn other = .ok another) :
    column = another ↔ Text.sameFolded name other = true := by
  obtain ⟨listed, spelled⟩ := updatedColumn_eq_ok chosen
  obtain ⟨listedToo, spelledToo⟩ := updatedColumn_eq_ok again
  constructor
  · rintro rfl
    exact Text.sameFolded_trans (Text.sameFolded_symm spelled) spelledToo
  · intro folded
    exact distinct.eq_of_sameFolded listed listedToo (Text.sameFolded_trans
      (Text.sameFolded_trans spelled folded) (Text.sameFolded_symm spelledToo))

/-- What a met row takes over are columns of the rows. -/
theorem updatedColumns_subset (chosen : merge.updatedColumns = .ok updated) :
    ∀ column ∈ updated, column ∈ merge.rows.columns := by
  unfold updatedColumns at chosen
  split at chosen
  · cases chosen
    exact fun _ member => absurd member List.not_mem_nil
  · split at chosen
    · cases chosen
      exact fun _ => List.mem_of_mem_filter
    · intro column member
      obtain ⟨name, _, own⟩ := exists_of_forall₂ (mapM_eq_ok_iff.mp chosen).flip member
      exact (updatedColumn_eq_ok own).1

/-- A met row takes over every column once just if the columns it is told to take over are spelled
differently. -/
theorem updatedColumns_nodup_iff (distinct : Text.Distinct merge.rows.columns)
    (chosen : merge.updatedColumns = .ok updated) :
    updated.Nodup ↔ (merge.insertOnly = false → ∀ names ∈ merge.updated, Text.Distinct names) := by
  have once : merge.rows.columns.Nodup := distinct.imp fun apart same => by
    rw [same, Text.sameFolded_refl] at apart
    cases apart
  unfold updatedColumns at chosen
  cases insertOnly : merge.insertOnly with
  | true =>
    rw [insertOnly] at chosen
    cases chosen
    exact ⟨fun _ impossible => (nomatch impossible), fun _ => List.nodup_nil⟩
  | false =>
    rw [insertOnly] at chosen
    cases told : merge.updated with
    | none =>
      rw [told] at chosen
      cases chosen
      exact ⟨fun _ _ _ impossible => (nomatch impossible), fun _ => once.filter _⟩
    | some names =>
      rw [told] at chosen
      obtain ⟨pairs, rfl, rfl, each⟩ := exists_pairs_of_forall₂ (mapM_eq_ok_iff.mp chosen)
      have apart : (pairs.map Prod.snd).Nodup ↔ Text.Distinct (pairs.map Prod.fst) := by
        unfold List.Nodup Text.Distinct
        rw [List.pairwise_map, List.pairwise_map]
        refine List.Pairwise.iff_of_mem fun member also => ?_
        rw [ne_eq, updatedColumn_eq_iff distinct (each _ member) (each _ also), Bool.not_eq_true]
      rw [apart]
      exact ⟨fun known _ _ some => Option.some.inj some ▸ known, fun known => known rfl _ rfl⟩

end Merge

end

namespace Listing

variable {dialect : Dialect} {lists : ColumnLists}

/-- Where only the columns are listed, they alone count. -/
theorem namesOnce_of_columns (columns : List String) :
    ({ columns } : ColumnLists).NamesOnce ↔ columns.Nodup := by
  simp [ColumnLists.NamesOnce]

theorem namesOnce_insertion {change : Insert} {operation : String}
    (checked : change.rows.check operation = .ok ())
    (listed : (insertion change).lists dialect = .ok lists) :
    lists.NamesOnce ↔ (insertion change).Apart dialect := by
  obtain ⟨columns, named, same⟩ := bind_eq_ok.mp listed
  cases same
  rw [namesOnce_of_columns]
  exact Dialect.nodup_written_iff_spellsApart named (Rows.distinct_of_check checked)

theorem namesOnce_update {change : Update}
    (listed : (update change).lists dialect = .ok lists) :
    lists.NamesOnce ↔ (update change).Apart dialect := by
  obtain ⟨set, named, same⟩ := bind_eq_ok.mp listed
  cases same
  have only : ({ set } : ColumnLists).NamesOnce ↔ set.Nodup := by simp [ColumnLists.NamesOnce]
  rw [only]
  exact Dialect.nodup_written_iff named

theorem namesOnce_creation {declared : Table} (checked : dialect.checkTable declared = .ok ())
    (listed : (creation declared).lists dialect = .ok lists) :
    lists.NamesOnce ↔ (creation declared).Apart dialect := by
  obtain ⟨columns, named, same⟩ := bind_eq_ok.mp listed
  cases same
  obtain ⟨_, accepted, _⟩ := bind_eq_ok.mp checked
  rw [namesOnce_of_columns]
  exact Dialect.nodup_written_iff_spellsApart named
    (Table.distinct_of_check (mapError_eq_ok.mp (mapError_eq_ok.mp accepted)))

theorem namesOnce_merger {change : Merge} {operation : String}
    (checked : change.rows.check operation = .ok ())
    (listed : (merger change).lists dialect = .ok lists) :
    lists.NamesOnce ↔ (merger change).Apart dialect := by
  obtain ⟨updated, chosen, rest⟩ := bind_eq_ok.mp listed
  obtain ⟨columns, columnsNamed, rest⟩ := bind_eq_ok.mp rest
  obtain ⟨set, setNamed, rest⟩ := bind_eq_ok.mp rest
  obtain ⟨keys, keysNamed, same⟩ := bind_eq_ok.mp rest
  cases same
  have chosen := mapError_eq_ok.mp chosen
  have distinct := Rows.distinct_of_check checked
  have inside := Merge.updatedColumns_subset chosen
  have listedOnce := Dialect.nodup_written_iff_spellsApart columnsNamed distinct
  -- Once the columns stay apart, those that are set are repeated only where they were chosen twice.
  have setOnce (apart : dialect.SpellsApart change.rows.columns) : set.Nodup ↔
      (change.insertOnly = false → ∀ names ∈ change.updated, Text.Distinct names) := by
    rw [Dialect.nodup_written_iff setNamed, ← Merge.updatedColumns_nodup_iff distinct chosen]
    refine List.Pairwise.iff_of_mem fun {column other} member also => not_congr ⟨fun same => ?_, ?_⟩
    · exact distinct.eq_of_sameFolded (inside column member) (inside other also)
        (apart column (inside column member) other (inside other also) same)
    · exact congrArg dialect.nameText
  have keysApart : (∀ name ∈ set, name ∉ keys) ↔ ∀ updated, change.updatedColumns = .ok updated →
      ∀ column ∈ updated, ∀ key ∈ change.keys,
        dialect.nameText column ≠ dialect.nameText key := by
    rw [Dialect.disjoint_written_iff setNamed keysNamed, chosen]
    exact ⟨fun apart _ same => Except.ok.inj same ▸ apart, fun apart => apart updated rfl⟩
  show columns.Nodup ∧ columns.Nodup ∧ set.Nodup ∧ (∀ name ∈ set, name ∉ keys) ↔ _ ∧ _ ∧ _
  rw [keysApart, listedOnce]
  constructor
  · rintro ⟨apart, _, once, other⟩
    exact ⟨apart, (setOnce apart).mp once, other⟩
  · rintro ⟨apart, once, other⟩
    exact ⟨apart, apart, (setOnce apart).mpr once, other⟩

/-- **Names are listed once exactly where they stay apart.** Every statement of an insertion, an
update, a merger or a definition of a table shows lists of columns, written for the declared ones.
They name no column twice, and set no column by which a row is met, exactly if the declared columns
stay apart when they are written. -/
theorem names_once_iff (dialect : Dialect) (listing : Listing) (texts : List String)
    (built : listing.texts dialect = .ok texts) :
    ∀ text ∈ texts, ∃ table lists, dialect.nameText listing.table = .ok table ∧
      listing.lists dialect = .ok lists ∧ listing.Shows table lists text ∧
      (lists.NamesOnce ↔ listing.Apart dialect) := by
  intro text member
  cases listing with
  | insertion change =>
    obtain ⟨plan, planned, rfl⟩ := map_eq_ok.mp built
    obtain ⟨statement, inside, rfl⟩ := List.mem_map.mp member
    have planned := mapError_eq_ok.mp planned
    obtain ⟨table, lists, named, listed, shown⟩ := Insert.plan_shows planned statement inside
    exact ⟨table, lists, named, listed, shown,
      namesOnce_insertion (Insert.parts_of_planUnplaced planned).1 listed⟩
  | update change =>
    obtain ⟨plan, planned, rfl⟩ := map_eq_ok.mp built
    obtain ⟨statement, inside, rfl⟩ := List.mem_map.mp member
    obtain ⟨own, made, rfl⟩ := map_eq_ok.mp (mapError_eq_ok.mp planned)
    rw [List.mem_singleton.mp inside]
    obtain ⟨table, lists, named, listed, shown⟩ := Update.shows_of_build made
    exact ⟨table, lists, named, listed, shown, namesOnce_update listed⟩
  | merger change =>
    obtain ⟨plan, planned, rfl⟩ := map_eq_ok.mp built
    obtain ⟨statement, inside, rfl⟩ := List.mem_map.mp member
    have planned := mapError_eq_ok.mp planned
    obtain ⟨table, lists, named, listed, shown⟩ := Merge.plan_shows planned statement inside
    exact ⟨table, lists, named, listed, shown,
      namesOnce_merger (Merge.parts_of_planUnplaced planned).1 listed⟩
  | creation declared =>
    obtain ⟨_, checked, rest⟩ := bind_eq_ok.mp built
    obtain ⟨written, made, same⟩ := bind_eq_ok.mp rest
    cases same
    rw [List.mem_singleton.mp member]
    obtain ⟨table, lists, named, listed, shown⟩ := Definition.tableText_shows made
    exact ⟨table, lists, named, listed, shown, namesOnce_creation checked listed⟩

/-- An insertion of one row under these columns. -/
def insertionUnder (columns : List String) : Listing :=
  insertion { table := "t", rows := { form := .many columns [columns.map fun _ => .int 0] } }

/-- A merger of one row under these columns, which is met by the keys. -/
def mergerUnder (keys columns : List String) (updated : Option (List String)) : Listing :=
  merger { table := "t", keys, updated
           rows := { form := .many columns [columns.map fun _ => .int 0] } }

/-- The definition of a table with these columns. -/
def creationOf (columns : List String) : Listing :=
  creation { name := "t", columns := columns.map fun name => { name, fieldType := .int64 } }

/-- Columns of which one is quoted and has a letter outside of ASCII are listed once. -/
theorem names_once_iff_two_columns :
    (insertionUnder ["a", "\"é\""]).texts {} =
        .ok ["INSERT INTO \"T\" (\"A\", \"é\") VALUES (:1, :2)"] ∧
      ∃ lists, (insertionUnder ["a", "\"é\""]).lists {} = .ok lists ∧ lists.NamesOnce := by
  have built : (insertionUnder ["a", "\"é\""]).texts {} =
      .ok ["INSERT INTO \"T\" (\"A\", \"é\") VALUES (:1, :2)"] := by decide +kernel
  obtain ⟨_, lists, _, listed, _, once⟩ := names_once_iff {} _ _ built _ List.mem_cons_self
  have apart : ({} : Dialect).SpellsApart ["a", "\"é\""] := by decide +kernel
  exact ⟨built, lists, listed, once.mpr apart⟩

/-- **Columns are listed twice.** A quoted name, or one with a letter outside of ASCII in another
case, is spelled in another way and written alike. Updates compare their columns not at all. Mergers
do not compare those that they are told to change, and keys by their spelling only, so that a column
by which a row is met can be changed. -/
theorem names_listed_twice :
    ({} : Dialect).check = .ok () ∧
      (insertionUnder ["a", "\"A\""]).texts {} =
        .ok ["INSERT INTO \"T\" (\"A\", \"A\") VALUES (:1, :2)"] ∧
      (insertionUnder ["é", "É"]).texts {} =
        .ok ["INSERT INTO \"T\" (\"É\", \"É\") VALUES (:1, :2)"] ∧
      (update { table := "t", allowAll := true
                assignments := [("a", .value (.int 1)), ("a", .value (.int 2))] }).texts {} =
        .ok ["UPDATE \"T\" SET \"A\" = :1, \"A\" = :2"] ∧
      (mergerUnder ["id"] ["id", "a"] (some ["a", "a"])).texts {} =
        .ok ["MERGE INTO \"T\" t USING (SELECT :1 \"ID\", :2 \"A\" FROM DUAL) s ON " ++
          "(t.\"ID\" = s.\"ID\") WHEN MATCHED THEN UPDATE SET " ++
          "t.\"A\" = s.\"A\", t.\"A\" = s.\"A\" " ++
          "WHEN NOT MATCHED THEN INSERT (\"ID\", \"A\") VALUES (s.\"ID\", s.\"A\")"] ∧
      (mergerUnder ["a"] ["a", "\"A\""] none).texts {} =
        .ok ["MERGE INTO \"T\" t USING (SELECT :1 \"A\", :2 \"A\" FROM DUAL) s ON " ++
          "(t.\"A\" = s.\"A\") WHEN MATCHED THEN UPDATE SET t.\"A\" = s.\"A\" " ++
          "WHEN NOT MATCHED THEN INSERT (\"A\", \"A\") VALUES (s.\"A\", s.\"A\")"] ∧
      (creationOf ["a", "\"A\""]).texts {} =
        .ok ["CREATE TABLE \"T\" (\"A\" NUMBER(19), \"A\" NUMBER(19))"] := by
  decide +kernel

end Listing

end OracleSql
