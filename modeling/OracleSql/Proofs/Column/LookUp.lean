/-
This file shows that a row is found by what was stored in it. An insertion lowers a value for the
declared column, and a condition, which knows no column, lowers it by its form alone. For the
contents that a column keeps whole both give the same value: decimals are the same number, and
everything else is equal. So a query for the rows whose column equals a content binds what the
insertion bound in the place of this content.
-/

import OracleSql.Proofs.Batch.Carried
import OracleSql.Proofs.Column.RoundTrip
import OracleSql.Proofs.Query.Body

namespace OracleSql

/-! ### Lowering with and without a column -/

/-- The values are the same, where decimals are compared as numbers. -/
def Value.Same : Value → Value → Prop
  | .decimal first, .decimal second => first.value = second.value
  | first, second => first = second

theorem Value.Same.refl (value : Value) : value.Same value := by
  cases value <;> rfl

/-- The column keeps the content whole: a decimal has no places beyond the scale, and a text is no
longer than the size. -/
def Column.Fits (column : Column) : (fieldType : FieldType) → fieldType.Content → Prop
  | .decimal, given =>
    ∀ precision ∈ column.precision, HasPlaces (column.scale.getD 0) (Decimal.value given)
  | .string, given => ∀ limit ∈ column.size, (String.toList given).length ≤ limit
  | _, _ => True

/-- No content of a type is the null. -/
theorem FieldType.isNull_toValue (fieldType : FieldType) (given : fieldType.Content) :
    (toValue given).isNull = false := by
  cases fieldType
  case uint64 =>
    show (Value.ofNat64 given).isNull = false
    unfold Value.ofNat64
    split <;> rfl
  all_goals rfl

namespace Column

variable {column : Column} {stored : Value}

/-- A column of whole numbers stores a number of 64 bits as it is. -/
theorem encodeInteger_int {number : Int64}
    (encoded : column.encodeInteger (.int number) = .ok stored) : stored = .int number := by
  obtain ⟨-, fits⟩ := guarded_eq_ok.mp encoded
  rw [if_pos ⟨number.minValue_le_toInt, number.toInt_le⟩, Int64.ofInt_toInt] at fits
  exact (Except.ok.inj fits).symm

/-- It stores a decimal beyond these numbers as a decimal of the same number. -/
theorem encodeInteger_decimal {number : Decimal} (beyond : Int64.maxValue.toInt < number.toInt)
    (encoded : column.encodeInteger (.decimal number) = .ok stored) :
    (Value.decimal number).Same stored := by
  simp only [encodeInteger] at encoded
  split at encoded
  next whole =>
    obtain ⟨-, fits⟩ := guarded_eq_ok.mp encoded
    rw [if_neg fun inside => absurd inside.2 (Int.not_le.mpr beyond)] at fits
    split at fits
    next decimal made =>
      cases fits
      show number.value = decimal.value
      rw [Decimal.value_of_isWhole whole, Decimal.value_of_ofInt? made]
    next => cases fits
  next => cases encoded

theorem toInt_of_writes {number : Decimal} {whole : Int}
    (writes : (Value.decimal number).Writes whole) : number.toInt = whole := by
  cases writes
  rfl

/-- A natural of 64 bits is lifted to such a number or to such a decimal. -/
theorem encodeInteger_ofNat64 {number : UInt64}
    (encoded : column.encodeInteger (.ofNat64 number) = .ok stored) :
    (Value.ofNat64 number).Same stored := by
  have writes := Value.writes_ofNat64 number
  unfold Value.ofNat64 at *
  split at encoded
  next narrow =>
    rw [if_pos narrow, encodeInteger_int encoded]
    exact .refl _
  next wide =>
    rw [if_neg wide] at writes ⊢
    refine encodeInteger_decimal ?_ encoded
    rw [toInt_of_writes writes]
    exact Int.not_le.mp wide

end Column

namespace Dialect

variable {dialect : Dialect} {column : Column} {stored : Value}

/-- A text that is no longer than the size is stored as it is. -/
theorem fitText_of_short (dialect : Dialect) {content : String}
    (short : ∀ limit ∈ column.size, content.toList.length ≤ limit) :
    dialect.fitText column content = .ok (.text content) := by
  unfold fitText
  split
  · rfl
  next limit sized => exact if_pos (short limit sized)

/-- What is stored in a column for a content that it keeps whole is what the value of the content
becomes without the column. -/
theorem same_of_encode (given : column.fieldType.Content)
    (fits : column.Fits column.fieldType given)
    (encoded : dialect.encode column (toValue given) = .ok stored) :
    (dialect.lower (toValue given)).Same stored := by
  have some := column.fieldType.isNull_toValue given
  -- Only long numbers, decimals and texts could be changed for the column; that it keeps the
  -- content whole is needed for the last two.
  revert given
  cases kind : column.fieldType <;> intro given fits encoded some <;>
    simp only [encode, some, kind, Bool.false_eq_true, if_false] at encoded
  case bool =>
    obtain ⟨flag, reads, rfl⟩ := encodeBool_eq_ok encoded
    cases Except.ok.inj reads
    exact .refl _
  case int8 | int16 | int32 | int64 | uint8 | uint16 | uint32 =>
    rw [Column.encodeInteger_int encoded]
    exact .refl _
  case uint64 =>
    have same : dialect.lower (.ofNat64 given) = .ofNat64 given := by
      unfold Value.ofNat64
      split <;> rfl
    show (dialect.lower (.ofNat64 given)).Same stored
    rw [same]
    exact Column.encodeInteger_ofNat64 encoded
  case float32 | float64 =>
    obtain ⟨number, reads, rfl, -⟩ := Column.encodeFloat_eq_ok encoded
    cases Except.ok.inj reads
    exact .refl _
  case decimal =>
    obtain ⟨kept, rfl, -, whole⟩ := Column.fitDecimal_eq_ok encoded
    exact (whole fits).symm
  case string =>
    cases encoded.symm.trans (fitText_of_short dialect fits)
    exact .refl _
  case bytes =>
    obtain ⟨content, same, rfl, -⟩ := Column.encodeBytes_eq_ok encoded
    cases same
    exact .refl _
  case instant | localTimestamp =>
    cases encoded
    exact .refl _
  case uuid =>
    cases encoded
    exact .refl _
  case json =>
    obtain ⟨content, document, same, rfl, -⟩ := Column.encodeJson_eq_ok encoded
    cases same
    exact .refl _

end Dialect

/-! ### Values that plans bind -/

/-- A statement that is assembled without names binds the values of its pieces in one run. -/
theorem Dialect.runs_assemble (dialect : Dialect) {pieces : List Piece}
    (plain : pieces.all Piece.isPlain = true) (shape : Shape) :
    (dialect.assemble pieces shape).binds.runs = [pieces.filterMap Piece.value?] := by
  have values := Assembly.values_foldl dialect.markerStyle {} plain
  have runs (assembly : Assembly) (style : MarkerStyle) :
      (assembly.binds style).runs = [assembly.values style] := by
    cases style <;> rfl
  have none : ({} : Assembly).values dialect.markerStyle = [] := by
    cases dialect.markerStyle <;> rfl
  rw [none, List.nil_append] at values
  exact (runs _ _).trans (congrArg (fun values => [values]) values)

/-- The values that the statements of a plan bind, in order. -/
def Plan.values (plan : Plan) : List Value :=
  plan.statements.flatMap fun statement => statement.binds.runs.flatten

namespace Insert

variable {dialect : Dialect} {insert : Insert}

/-- The statement of one row binds the row. -/
theorem oneRow_runs (returned : Nat) (values : List Value) :
    Ensures (fun statement => statement.binds.runs = [values])
      (insert.oneRow dialect returned values) := by
  intro statement built
  obtain ⟨head, headed, built⟩ := bind_eq_ok.mp built
  obtain ⟨tail, returning, same⟩ := bind_eq_ok.mp built
  obtain ⟨bound, -, plain⟩ := rowPieces_holds returned values headed returning
  cases same
  exact (dialect.runs_assemble plain .rowsAffected).trans (congrArg (fun values => [values]) bound)

/-- An insertion from which nothing is wanted back binds its rows. -/
theorem plainPlan_values {rows : List (List Value)}
    (wide : ∀ values ∈ rows, values.length = insert.rows.columns.length) :
    Ensures (fun plan => plan.values = rows.flatten) (insert.plainPlan dialect rows) := by
  intro plan planned
  by_cases single : rows.length = 1
  · obtain ⟨values, rfl⟩ := List.length_eq_one_iff.mp single
    obtain ⟨statement, built, rfl⟩ := map_eq_ok.mp planned
    show statement.binds.runs.flatten ++ [] = [values].flatten
    rw [oneRow_runs 0 values statement built, List.append_nil]
  · rw [plainPlan_several dialect insert single] at planned
    obtain ⟨size, -, planned⟩ := bind_eq_ok.mp planned
    obtain ⟨statements, made, same⟩ := bind_eq_ok.mp planned
    cases same
    have each := ((List.forall₂_and_left _ _).mpr ⟨fun part member values inside =>
      wide values (mem_of_mem_chunks size rows part member values inside),
      mapM_eq_ok_iff.mp made⟩).imp fun part statement own =>
        severalRows_carries own.1 statement own.2
    exact (Statement.flatMap_runs_of_carries each).trans
      (congrArg List.flatten (flatten_chunks size rows))

/-- Whatever is wanted back, and in however many statements, an insertion binds the values of its
rows as they are stored, one row behind the other. -/
theorem plan_values : Ensures (fun plan => ∃ rows,
      insert.rows.stored dialect insert.declared = .ok rows ∧
        (∀ values ∈ rows, values.length = insert.rows.columns.length) ∧
        plan.values = rows.flatten)
    (insert.plan dialect) := by
  refine Ensures.mapError _ fun plan built => ?_
  obtain ⟨checked, rows, stored, planned⟩ := parts_of_planUnplaced built
  have wide := Rows.stored_widths checked rows stored
  refine ⟨rows, stored, wide, ?_⟩
  by_cases unwanted : insert.returning = []
  · rw [unwanted, List.isEmpty_nil, if_pos rfl] at planned
    exact plainPlan_values wide plan planned
  · rw [if_neg fun empty => unwanted (List.isEmpty_iff.mp empty)] at planned
    obtain ⟨_, -, filling, -⟩ := returningPlan_filling unwanted
      (Rows.stored_ne_nil checked rows stored) wide plan planned
    rw [← filling.flatMap_runs, Plan.values, List.flatMap_def, List.flatMap_def,
      List.flatten_flatten, List.map_map]
    rfl

end Insert

/-! ### Cells -/

/-- What is related to a member of a list stands at its place. -/
theorem exists_getElem?_of_forall₂ {α β : Type} {relation : α → β → Prop} {items : List α}
    {others : List β} (each : List.Forall₂ relation items others) {place : Nat} {item : α}
    (found : items[place]? = some item) :
    ∃ other, others[place]? = some other ∧ relation item other := by
  induction each generalizing place with
  | nil => cases found
  | cons related rest inductionHypothesis =>
    cases place with
    | zero =>
      cases found
      exact ⟨_, rfl, related⟩
    | succ place => exact inductionHypothesis found

/-- A value of the rows is stored for the column at its place. -/
theorem Rows.exists_stored {dialect : Dialect} {table : Option Table} {rows : Rows}
    {content : List (List Value)} (stored : rows.stored dialect table = .ok content)
    {row place : Nat} {values : List Value} {name : String} {value : Value}
    (placed : rows.content[row]? = some values) (named : rows.columns[place]? = some name)
    (given : values[place]? = some value) :
    ∃ cells cell, content[row]? = some cells ∧ cells[place]? = some cell ∧
      dialect.store table name value = .ok cell := by
  obtain ⟨cells, found, each⟩ := exists_getElem?_of_forall₂ (mapM_eq_ok_iff.mp stored) placed
  have paired : (values.zip rows.columns)[place]? = some (value, name) :=
    List.getElem?_zip_eq_some.mpr ⟨given, named⟩
  obtain ⟨cell, inside, own⟩ := exists_getElem?_of_forall₂ (mapM_eq_ok_iff.mp each) paired
  exact ⟨cells, cell, found, inside, own⟩

/-! ### Looking up -/

/-- The query for the rows of a source in which a column equals a value. -/
def Select.equals (source column : String) (value : Value) : Select :=
  { source, filter := ⟨[.compare column .equal value]⟩ }

/-- The clause for an equal column has the value as it is lowered without a column. -/
theorem Filter.clause_equal (dialect : Dialect) (keyword column : String) (value : Value) :
    clause dialect keyword ⟨[.compare column .equal value]⟩ =
      (dialect.nameText column).map fun name =>
        [.text keyword, .text (name ++ " " ++ Comparison.equal.operator ++ " "),
          .value (dialect.lower value)] := by
  simp only [clause, isEmpty, pieces, Condition.partPieces, Condition.pieces,
    Condition.comparePieces]
  cases dialect.nameText column with
  | error failure => rfl
  | ok name => rfl

/-- The query binds just this value. -/
theorem Select.equals_runs (dialect : Dialect) (source column : String) (value : Value) :
    Ensures (fun statement => statement.binds.runs = [[dialect.lower value]])
      ((equals source column value).build dialect) := by
  intro statement built
  obtain ⟨pieces, paged, same⟩ := bind_eq_ok.mp built
  cases same
  obtain ⟨columns, body, order, listed, restricted, sorted, rfl⟩ := parts_of_allPieces paged
  cases listed
  cases sorted
  obtain ⟨named, sourced, restricted⟩ := bind_eq_ok.mp restricted
  obtain ⟨joins, joined, restricted⟩ := bind_eq_ok.mp restricted
  cases joined
  obtain ⟨rows, filtered, restricted⟩ := bind_eq_ok.mp restricted
  cases restricted
  obtain ⟨name, -, rfl⟩ := map_eq_ok.mp ((Filter.clause_equal dialect _ _ _).symm.trans filtered)
  have texts := TableReference.pieces_isText dialect source named sourced
  have unbound : named.filterMap Piece.value? = [] :=
    Piece.filterMap_of_isText (fun _ => rfl) texts
  refine (dialect.runs_assemble ?_ .rows).trans ?_
  · simp [equals, Piece.isPlain, Piece.isPlain_of_isText texts]
  · simp only [equals, List.flatten_nil, List.reverse_nil, List.append_nil]
    show [List.filterMap Piece.value? (named ++ [_, _, _] ++ [])] = _
    rw [List.append_nil, List.filterMap_append, unbound]
    rfl

/-- **What is stored is what conditions compare with.** Whatever the settings and the column, a
content that the column keeps whole is lowered to the same value with the column and without it, if
the column takes it. So where an insertion into a declared table gives the column this content, the
value that its plan binds for the cell is the one value that a query for the rows with this content
binds, whichever way the query names the column. -/
theorem Column.stored_is_looked_up (dialect : Dialect) (column : Column)
    (given : column.fieldType.Content) (fits : column.Fits column.fieldType given) :
    (∀ stored, dialect.encode column (toValue given) = .ok stored →
      (dialect.lower (toValue given)).Same stored) ∧
    ∀ (table : Table) (name : String), table.column? name = some column →
      ∀ (insert : Insert) (plan : Plan), insert.declared = some table →
        insert.plan dialect = .ok plan →
      ∀ (row place : Nat) (values : List Value), insert.rows.content[row]? = some values →
        insert.rows.columns[place]? = some name → values[place]? = some (toValue given) →
      ∃ stored, plan.values[row * insert.rows.columns.length + place]? = some stored ∧
        dialect.encode column (toValue given) = .ok stored ∧
        ∀ (source reference : String) (query : Statement),
          (Select.equals source reference (toValue given)).build dialect = .ok query →
            ∃ bound, query.binds.runs = [[bound]] ∧ bound.Same stored := by
  refine ⟨fun stored encoded => Dialect.same_of_encode given fits encoded, ?_⟩
  intro table name found insert plan declared planned row place values placed named cell
  obtain ⟨rows, stored, wide, bound⟩ := Insert.plan_values plan planned
  obtain ⟨cells, kept, inside, there, taken⟩ := Rows.exists_stored stored placed named cell
  have looked : declaredColumn? insert.declared name = some column := by
    rw [declared]
    exact found
  rw [Dialect.store, looked] at taken
  have encoded : dialect.encode column (toValue given) = .ok kept := mapError_eq_ok.mp taken
  refine ⟨kept, ?_, encoded, fun source reference query built => ?_⟩
  · rw [bound]
    exact getElem?_flatten_of_width wide inside there
  · exact ⟨_, Select.equals_runs dialect source reference _ query built,
      Dialect.same_of_encode given fits encoded⟩

/-- In a column with one place a price of 1.50 is stored as 1.5, and looked up as 1.50. -/
theorem Column.stored_is_looked_up_price :
    let column : Column :=
      { name := "price", fieldType := .decimal, precision := some 5, scale := some 1 }
    let table : Table := { name := "items", columns := [column] }
    let price : Decimal := ⟨false, 150, 2, by decide, by decide⟩
    let insert : Insert := (Insert.into table).set "PRICE" price
    ∃ plan query bound stored, insert.plan {} = .ok plan ∧ plan.values = [stored] ∧
      (Select.equals "items" "price" (toValue price)).build {} = .ok query ∧
      query.binds.runs = [[bound]] ∧ bound ≠ stored ∧ bound.Same stored := by
  intro column table price insert
  have fits : column.Fits .decimal price := by
    intro precision _
    exact ⟨15, by norm_num [column, price, Decimal.value, Decimal.signed]⟩
  have possible : (insert.plan {}).map Plan.values =
      .ok [.decimal ⟨false, 15, 1, by decide, by decide⟩] := by
    decide +kernel
  have possibleToo : ((Select.equals "items" "price" (toValue price)).build {}).map
      (·.binds.runs) = .ok [[.decimal price]] := by
    decide +kernel
  obtain ⟨plan, planned, values⟩ := map_eq_ok.mp possible
  obtain ⟨query, built, runs⟩ := map_eq_ok.mp possibleToo
  obtain ⟨-, cells⟩ := Column.stored_is_looked_up {} column price fits
  obtain ⟨stored, there, -, looked⟩ := cells table "PRICE" (by decide +kernel) insert plan rfl
    planned 0 0 [toValue price] rfl rfl rfl
  obtain ⟨bound, bindings, same⟩ := looked "items" "price" query built
  rw [values] at there
  cases there
  cases runs.symm.trans bindings
  exact ⟨plan, query, _, _, planned, values, built, bindings, by decide, same⟩

end OracleSql
