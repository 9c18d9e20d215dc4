/-
This file says which definitions can be written. The text of a definition is put together from the
texts of names, and of a column that is made also from its type and its default. So a definition can
be written where its names can be read, the columns that it numbers can be stored, and its new
columns have defaults that have a form; how the names of keys and indexes are cased makes no
difference, since these are names of columns in some case.
-/

import OracleSql.Proofs.Identifier.Readable
import OracleSql.Proofs.Migration.Naming
import OracleSql.Proofs.Migration.Replanning

namespace OracleSql

open Identifier (Readable Storable)

/-! ### Names -/

namespace Dialect

variable {dialect : Dialect}

theorem ne_star_of_storedSegment {text kept : String} {part : IdentifierPart}
    (stored : dialect.storedSegment text part = .ok kept) : part ≠ .star := by
  rintro rfl
  cases stored

/-- Where a table is found under its name, the name can be stored. -/
theorem storable_of_storedTable {name : String} {stored : StoredTable}
    (found : dialect.storedTable name = .ok stored) : Storable name := by
  obtain ⟨⟨parts⟩, read, found⟩ := bind_eq_ok.mp found
  have read := mapError_eq_ok.mp read
  match parts with
  | [] => cases found
  | [part] =>
    obtain ⟨_, _, found⟩ := bind_eq_ok.mp found
    obtain ⟨_, kept, _⟩ := bind_eq_ok.mp found
    exact ⟨_, part, read, rfl, ne_star_of_storedSegment kept⟩
  | [_, part] =>
    obtain ⟨_, _, found⟩ := bind_eq_ok.mp found
    obtain ⟨_, kept, _⟩ := bind_eq_ok.mp found
    exact ⟨_, part, read, rfl, ne_star_of_storedSegment kept⟩
  | _ :: _ :: _ :: _ => cases found

/-- A text that can be quoted is a name in its quotes. -/
theorem exists_storedExactly (dialect : Dialect) {name : String}
    (quotable : Identifier.Quotable name) (present : name ≠ "") :
    ∃ kept, dialect.storedExactly name = .ok kept :=
  (exists_stored_iff dialect).mpr
    ⟨_, _, Identifier.parse_inQuotes quotable present, rfl, IdentifierPart.noConfusion⟩

/-- An object of a column has a name where the names of the table and of the column have stored
spellings. -/
theorem exists_columnObject_iff (dialect : Dialect) {table column ending : String}
    (numbers : ending = "seq" ∨ ending = "trg") :
    (∃ name, dialect.columnObject table column ending = .ok name) ↔
      Storable table ∧ Storable column := by
  rw [← exists_stored_iff dialect, ← exists_stored_iff dialect]
  constructor
  · rintro ⟨name, made⟩
    obtain ⟨storedTable, tableStored, made⟩ := bind_eq_ok.mp made
    obtain ⟨storedColumn, columnStored, _⟩ := bind_eq_ok.mp made
    exact ⟨⟨_, tableStored⟩, _, columnStored⟩
  · rintro ⟨⟨storedTable, tableStored⟩, storedColumn, columnStored⟩
    have stored : dialect.storedColumn table column = .ok ⟨storedTable, storedColumn⟩ :=
      bind_eq_ok.mpr ⟨_, tableStored, bind_eq_ok.mpr ⟨_, columnStored, rfl⟩⟩
    obtain ⟨same, quotable, present⟩ := columnObject_eq_storedExactly numbers stored
    rw [same]
    exact exists_storedExactly dialect quotable present

/-- A primary key has a name where its own name has a stored spelling, if it has one. -/
theorem exists_primaryKeyName_iff (dialect : Dialect) {table : String} {key : PrimaryKey}
    (kept : Storable table) :
    (∃ name, dialect.primaryKeyName table key = .ok name) ↔ ∀ name ∈ key.name, Storable name := by
  unfold primaryKeyName
  cases given : key.name with
  | some name => simp [exists_stored_iff]
  | none =>
    obtain ⟨stored, tableStored⟩ := (exists_stored_iff dialect).mpr kept
    have word : Identifier.Quotable (dialect.casedWord "pk") := by
      unfold casedWord Identifier.Quotable
      cases dialect.identifierCase <;> decide +kernel
    obtain ⟨quotable, present⟩ := word.underscore (quotable_stored tableStored)
    have made := exists_storedExactly dialect quotable present
    simp only [tableStored, Option.mem_def, reduceCtorEq, false_implies, implies_true, iff_true]
    exact made

end Dialect

/-! ### Columns -/

/-- Whether a default can be written: a number has to be finite. -/
def ColumnDefault.hasForm : ColumnDefault → Bool
  | float number => number.isFinite
  | _ => true

/-- The column has no default, or one that can be written and no numbers besides. -/
def Column.DefaultFits (column : Column) : Prop :=
  ∀ default ∈ column.default, column.identity = false ∧ default.hasForm = true

instance {column : Column} : Decidable column.DefaultFits :=
  inferInstanceAs (Decidable (∀ default ∈ column.default,
    column.identity = false ∧ default.hasForm = true))

namespace Dialect

variable {dialect : Dialect} {table : Table} {column : Column}

/-- A column can be written where its name can, its type is known, it does not have both numbers and
a default, and its default has a form. -/
theorem columnText_eq_ok_iff {text : String} :
    dialect.columnText table column = .ok text ↔
      ∃ name columnType default, dialect.nameText column.name = .ok name ∧
        Error.ofColumn column (dialect.columnType column) = .ok columnType ∧
        (column.identity && column.default.isSome) = false ∧
        dialect.defaultClause table column = .ok default ∧
        text = name ++ " " ++ columnType.sql ++ default ++
          (if table.allowsNull column then "" else " NOT NULL") ++
          (dialect.checkCondition? column name).elim "" fun condition =>
            " CHECK (" ++ condition ++ ")" := by
  unfold columnText
  cases numbered : column.identity && column.default.isSome with
  | true =>
    constructor
    · intro built
      obtain ⟨name, _, rest⟩ := bind_eq_ok.mp built
      obtain ⟨columnType, _, impossible⟩ := bind_eq_ok.mp rest
      cases impossible
    · rintro ⟨_, _, _, _, _, impossible, _⟩
      cases impossible
  | false =>
    constructor
    · intro built
      obtain ⟨name, named, rest⟩ := bind_eq_ok.mp built
      obtain ⟨columnType, typed, rest⟩ := bind_eq_ok.mp rest
      obtain ⟨default, defaults, same⟩ := bind_eq_ok.mp rest
      exact ⟨name, columnType, default, named, typed, rfl, defaults, (Except.ok.inj same).symm⟩
    · rintro ⟨name, columnType, default, named, typed, _, defaults, rfl⟩
      refine bind_eq_ok.mpr ⟨name, named, bind_eq_ok.mpr ⟨columnType, typed, ?_⟩⟩
      exact bind_eq_ok.mpr ⟨default, defaults, rfl⟩

theorem exists_defaultSql_iff (dialect : Dialect) {default : ColumnDefault} :
    (∃ sql, default.sql dialect = .ok sql) ↔ default.hasForm = true := by
  cases default with
  | float number =>
    by_cases finite : number.isFinite = true
    · simp [ColumnDefault.sql, ColumnDefault.hasForm, finite]
    · simp [ColumnDefault.sql, ColumnDefault.hasForm, finite]
  | _ => simp [ColumnDefault.sql, ColumnDefault.hasForm]

/-- The clause of a default, for a column that does not have both numbers and a default. -/
theorem exists_defaultClause_iff (kept : Storable table.name)
    (numbers : column.identity = true → Storable column.name)
    (apart : (column.identity && column.default.isSome) = false) :
    (∃ clause, dialect.defaultClause table column = .ok clause) ↔ column.DefaultFits := by
  unfold defaultClause Column.DefaultFits
  cases identity : column.identity with
  | true =>
    have none : column.default = none := by
      rw [identity, Bool.true_and] at apart
      simpa using apart
    have sequence : ∃ name, dialect.sequenceName table.name column.name = .ok name :=
      (exists_columnObject_iff dialect (.inl rfl)).mpr ⟨kept, numbers identity⟩
    rw [none]
    simp only [Bool.true_and]
    split
    · obtain ⟨name, made⟩ := sequence
      rw [made]
      exact ⟨fun _ => nofun, fun _ => ⟨_, rfl⟩⟩
    · exact ⟨fun _ => nofun, fun _ => ⟨_, rfl⟩⟩
  | false =>
    simp only [Bool.false_and, Bool.false_eq_true, reduceIte]
    cases column.default with
    | none => exact ⟨fun _ => nofun, fun _ => ⟨_, rfl⟩⟩
    | some default =>
      simp only [exists_bind_eq_ok, Option.mem_some_iff, forall_eq', true_and]
      rw [← exists_defaultSql_iff dialect]
      simp [Error.ofColumn, mapError_eq_ok]

/-- A column with a known type can be written where its name can be read and its default fits. -/
theorem exists_columnText_iff (kept : Storable table.name)
    (typed : Error.ofColumn column (dialect.columnType column) = .ok (dialect.typeOf column))
    (numbers : column.identity = true → Storable column.name) :
    (∃ text, dialect.columnText table column = .ok text) ↔
      Readable column.name ∧ column.DefaultFits := by
  simp only [columnText_eq_ok_iff]
  constructor
  · rintro ⟨_, name, _, clause, named, _, apart, built, _⟩
    exact ⟨exists_nameText_iff.mp ⟨name, named⟩,
      (exists_defaultClause_iff kept numbers apart).mp ⟨clause, built⟩⟩
  · rintro ⟨readable, fits⟩
    have apart : (column.identity && column.default.isSome) = false := by
      cases given : column.default with
      | none => rw [Option.isSome_none, Bool.and_false]
      | some default => rw [(fits default given).1, Bool.false_and]
    obtain ⟨name, named⟩ := exists_nameText_iff.mpr readable
    obtain ⟨clause, built⟩ := (exists_defaultClause_iff kept numbers apart).mpr fits
    exact ⟨_, name, _, clause, named, typed, apart, built, rfl⟩

end Dialect

/-! ### Definitions -/

/-- What the target of a foreign key has to be for the key to be written. -/
def ForeignKey.TargetReads (key : ForeignKey) : Prop :=
  Readable key.target ∧ ∀ name ∈ key.targetColumns, Readable name

instance {key : ForeignKey} : Decidable key.TargetReads :=
  inferInstanceAs (Decidable (_ ∧ _))

namespace Definition

variable {dialect : Dialect}

theorem exists_createSequence_iff {table column : String} :
    (∃ sql, (createSequence table column).sql dialect = .ok sql) ↔
      Storable table ∧ Storable column := by
  rw [← Dialect.exists_columnObject_iff dialect (.inl rfl)]
  simp only [sql, exists_bind_eq_ok, Except.ok.injEq, exists_eq', and_true]
  rfl

theorem exists_createTrigger_iff {table column : String} :
    (∃ sql, (createTrigger table column).sql dialect = .ok sql) ↔
      Storable table ∧ Storable column := by
  simp only [sql, triggerText, exists_bind_eq_ok, Except.ok.injEq, exists_eq', and_true,
    exists_and_right, Dialect.exists_nameText_iff]
  rw [show (∃ name, dialect.triggerName table column = .ok name) ↔ _ from
      Dialect.exists_columnObject_iff dialect (.inr rfl),
    show (∃ name, dialect.sequenceName table column = .ok name) ↔ _ from
      Dialect.exists_columnObject_iff dialect (.inl rfl)]
  exact ⟨And.left, fun both => ⟨both, both, both.1.readable, both.2.readable⟩⟩

theorem exists_createTable_iff {table : Table} :
    (∃ sql, (createTable table).sql dialect = .ok sql) ↔
      (∀ column ∈ table.columns, ∃ text, dialect.columnText table column = .ok text) ∧
        (∀ key ∈ table.primaryKey,
          (∃ name, dialect.primaryKeyName table.name key = .ok name) ∧
            ∀ name ∈ key.columns, Readable name) ∧
        Readable table.name := by
  simp only [sql, tableText, exists_bind_eq_ok, Except.ok.injEq, exists_eq', and_true,
    exists_and_right, Dialect.exists_nameText_iff, exists_mapM_eq_ok_iff, primaryKeyText,
    Dialect.exists_nameTexts_iff, Option.mem_toList, Option.mem_def]

theorem exists_createIndex_iff {table : String} {index : Index} :
    (∃ sql, (createIndex table index).sql dialect = .ok sql) ↔
      Readable index.name ∧ Readable table ∧ ∀ name ∈ index.columns, Readable name := by
  simp only [sql, indexText, exists_bind_eq_ok, Except.ok.injEq, exists_eq', and_true,
    exists_and_right, Dialect.exists_nameText_iff, Dialect.exists_nameTexts_iff]

theorem exists_addForeignKey_iff {table : Table} {key : ForeignKey} :
    (∃ sql, (addForeignKey table key).sql dialect = .ok sql) ↔
      table.checkForeignKey key = .ok () ∧ Readable table.name ∧ Readable key.name ∧
        (∀ name ∈ key.columns, Readable name) ∧ key.TargetReads := by
  have only : (∃ accepted, table.checkForeignKey key = .ok accepted) ↔
      table.checkForeignKey key = .ok () :=
    ⟨fun ⟨_, accepted⟩ => accepted, fun accepted => ⟨_, accepted⟩⟩
  simp only [sql, foreignKeyText, exists_bind_eq_ok, Except.ok.injEq, exists_eq', and_true,
    exists_and_right, Dialect.exists_nameText_iff, Dialect.exists_nameTexts_iff,
    ForeignKey.TargetReads, only]

theorem exists_addColumn_iff {table : Table} {column : Column} :
    (∃ sql, (addColumn table column).sql dialect = .ok sql) ↔
      Readable table.name ∧ ∃ text, dialect.columnText table column = .ok text := by
  simp only [sql, exists_bind_eq_ok, Except.ok.injEq, exists_eq', and_true, exists_and_right,
    Dialect.exists_nameText_iff]

theorem exists_addPrimaryKey_iff {table : String} {key : PrimaryKey} :
    (∃ sql, (addPrimaryKey table key).sql dialect = .ok sql) ↔
      Readable table ∧ (∃ name, dialect.primaryKeyName table key = .ok name) ∧
        ∀ name ∈ key.columns, Readable name := by
  simp only [sql, primaryKeyText, exists_bind_eq_ok, Except.ok.injEq, exists_eq', and_true,
    exists_and_right, Dialect.exists_nameText_iff, Dialect.exists_nameTexts_iff]

theorem exists_modifyType_iff {table column : String} {columnType : ColumnType} :
    (∃ sql, (modifyType table column columnType).sql dialect = .ok sql) ↔
      Readable table ∧ Readable column := by
  simp only [sql, modifyText, exists_bind_eq_ok, Except.ok.injEq, exists_eq', and_true,
    exists_and_right, Dialect.exists_nameText_iff]

theorem exists_modifyNullness_iff {table column : String} {nullable : Bool} :
    (∃ sql, (modifyNullness table column nullable).sql dialect = .ok sql) ↔
      Readable table ∧ Readable column := by
  simp only [sql, modifyText, exists_bind_eq_ok, Except.ok.injEq, exists_eq', and_true,
    exists_and_right, Dialect.exists_nameText_iff]

theorem exists_commentTable_iff {table comment : String} :
    (∃ sql, (commentTable table comment).sql dialect = .ok sql) ↔ Readable table := by
  simp only [sql, exists_bind_eq_ok, Except.ok.injEq, exists_eq', and_true,
    Dialect.exists_nameText_iff]

theorem exists_commentColumn_iff {table column comment : String} :
    (∃ sql, (commentColumn table column comment).sql dialect = .ok sql) ↔
      Readable table ∧ Readable column := by
  simp only [sql, pairText, exists_bind_eq_ok, Except.ok.injEq, exists_eq', and_true,
    exists_and_right, Dialect.exists_nameText_iff]

end Definition

/-! ### Declared columns in keys and indexes -/

namespace Table

variable {table : Table}

/-- The keys and indexes of an accepted table are over columns of it. -/
theorem knows_of_check (checked : table.check = .ok ()) :
    (∀ key ∈ table.primaryKey, table.knowsAll key.columns = true) ∧
      (∀ index ∈ table.indexes, table.knowsAll index.columns = true) ∧
      ∀ key ∈ table.foreignKeys, table.knowsAll key.columns = true := by
  have good : table.fault? = none := by
    unfold check at checked
    split at checked
    · cases checked
    · assumption
  unfold fault? at good
  split at good
  · cases good
  split at good
  · cases good
  split at good
  · cases good
  next keys =>
    split at good
    · cases good
    next indexes =>
      have foreignKeys := List.find?_eq_none.mp (Option.map_eq_none_iff.mp good)
      refine ⟨fun key given => ?_, fun index member => ?_, fun key member => ?_⟩
      · rw [Option.mem_def.mp given, Option.any_some, Bool.not_eq_true', Bool.not_eq_false] at keys
        exact keys
      · simpa using List.find?_eq_none.mp indexes index member
      · have pairs : table.pairs key = true := by simpa using foreignKeys key member
        exact (Bool.and_eq_true_iff.mp pairs).2

/-- Where the names of the columns can be read, so can those that a key or an index has for them. -/
theorem readable_of_knowsAll (columns : ∀ column ∈ table.columns, Readable column.name)
    {names : List String} (known : table.knowsAll names = true) :
    ∀ name ∈ names, Readable name := by
  intro name member
  obtain ⟨_, each⟩ := Bool.and_eq_true_iff.mp known
  obtain ⟨column, found⟩ := Option.isSome_iff_exists.mp (List.all_eq_true.mp each name member)
  have same : Text.sameFolded column.name name = true := by simpa using List.find?_some found
  exact (Identifier.readable_congr same).mp (columns column (List.mem_of_find?_eq_some found))

end Table

/-! ### What a declaration asks for -/

namespace Dialect

variable {dialect : Dialect} {table : Table}

theorem writes_nil : dialect.Writes [] :=
  fun _ impossible => absurd impossible List.not_mem_nil

theorem writes_append {first second : List Definition} :
    dialect.Writes (first ++ second) ↔ dialect.Writes first ∧ dialect.Writes second :=
  List.forall_mem_append

theorem writes_single {definition : Definition} :
    dialect.Writes [definition] ↔ ∃ sql, definition.sql dialect = .ok sql :=
  List.forall_mem_singleton

theorem writes_flatMap {α : Type} {items : List α} {definitions : α → List Definition} :
    dialect.Writes (items.flatMap definitions) ↔
      ∀ item ∈ items, dialect.Writes (definitions item) := by
  unfold Writes
  simp only [List.mem_flatMap, forall_exists_index, and_imp]
  exact forall_comm.trans (forall_congr' fun _ => forall_comm)

section

variable {column : Column}

/-- The sequence of a numbered column has a name where the column can be stored. -/
theorem writes_sequenceDefinitions_iff (kept : Storable table.name) :
    dialect.Writes (column.sequenceDefinitions table.name) ↔
      (column.identity = true → Storable column.name) := by
  unfold Column.sequenceDefinitions
  split
  next numbered =>
    rw [writes_single, Definition.exists_createSequence_iff]
    exact ⟨fun both _ => both.2, fun stored => ⟨kept, stored numbered⟩⟩
  next plain => exact ⟨fun _ numbered => absurd numbered plain, fun _ => writes_nil⟩

/-- So has its trigger. -/
theorem writes_triggerDefinitions (kept : Storable table.name)
    (numbers : column.identity = true → Storable column.name) :
    dialect.Writes (dialect.triggerDefinitions table.name column) := by
  unfold triggerDefinitions
  split
  next numbered =>
    rw [writes_single, Definition.exists_createTrigger_iff]
    exact ⟨kept, numbers (Bool.and_eq_true_iff.mp numbered).1⟩
  next => exact writes_nil

theorem writes_commentDefinitions (readable : Readable table.name) (own : Readable column.name) :
    dialect.Writes (column.commentDefinitions table.name) := by
  refine List.forall_mem_map.mpr fun comment _ => ?_
  exact Definition.exists_commentColumn_iff.mpr ⟨readable, own⟩

/-- A missing column can be added where its name can be read, and stored if the column is numbered,
and its default fits. -/
theorem writes_columnDefinitions_iff (kept : Storable table.name)
    (typed : Error.ofColumn column (dialect.columnType column) = .ok (dialect.typeOf column)) :
    dialect.Writes (dialect.columnDefinitions table column) ↔ Readable column.name ∧
      (column.identity = true → Storable column.name) ∧ column.DefaultFits := by
  unfold columnDefinitions
  rw [writes_append, writes_append, writes_append, writes_single,
    writes_sequenceDefinitions_iff kept, Definition.exists_addColumn_iff]
  constructor
  · rintro ⟨⟨⟨numbers, _, text⟩, _⟩, _⟩
    obtain ⟨readable, fits⟩ := (exists_columnText_iff kept typed numbers).mp text
    exact ⟨readable, numbers, fits⟩
  · rintro ⟨readable, numbers, fits⟩
    have text := (exists_columnText_iff kept typed numbers).mpr ⟨readable, fits⟩
    exact ⟨⟨⟨numbers, kept.readable, text⟩, writes_triggerDefinitions kept numbers⟩,
      writes_commentDefinitions kept.readable readable⟩

end

/-- An accepted table that is absent can be made where this holds of all its columns, its key has a
name that can be stored or none of its own, and the names of its indexes can be read. -/
theorem writes_tableDefinitions_iff (kept : Storable table.name)
    (checked : table.check = .ok ())
    (typed : ∀ column ∈ table.columns,
      Error.ofColumn column (dialect.columnType column) = .ok (dialect.typeOf column)) :
    dialect.Writes (dialect.tableDefinitions table) ↔
      (∀ column ∈ table.columns, Readable column.name ∧
        (column.identity = true → Storable column.name) ∧ column.DefaultFits) ∧
      (∀ key ∈ table.primaryKey, ∀ name ∈ key.name, Storable name) ∧
      ∀ index ∈ table.indexes, Readable index.name := by
  obtain ⟨keysKnown, indexesKnown, _⟩ := Table.knows_of_check checked
  unfold tableDefinitions
  rw [writes_append, writes_append, writes_append, writes_append, writes_append, writes_single,
    writes_flatMap, writes_flatMap, writes_flatMap, Definition.exists_createTable_iff]
  simp only [writes_sequenceDefinitions_iff kept, exists_primaryKeyName_iff dialect kept]
  constructor
  · rintro ⟨⟨⟨⟨⟨numbers, texts, keys, _⟩, _⟩, indexes⟩, _⟩, _⟩
    refine ⟨fun column member => ?_, fun key given => (keys key given).1, fun index member => ?_⟩
    · have own := numbers column member
      obtain ⟨readable, fits⟩ :=
        (exists_columnText_iff kept (typed column member) own).mp (texts column member)
      exact ⟨readable, own, fits⟩
    · have written := indexes _ (List.mem_map_of_mem member)
      exact (Definition.exists_createIndex_iff.mp written).1
  · rintro ⟨columns, keys, indexes⟩
    have known {names : List String} (known : table.knowsAll names = true) :
        ∀ name ∈ names, Readable name :=
      Table.readable_of_knowsAll (fun column member => (columns column member).1) known
    refine ⟨⟨⟨⟨⟨fun column member => (columns column member).2.1, fun column member => ?_,
      fun key given => ⟨keys key given, known (keysKnown key given)⟩, kept.readable⟩,
      fun column member => writes_triggerDefinitions kept (columns column member).2.1⟩,
      List.forall_mem_map.mpr fun index member => ?_⟩,
      List.forall_mem_map.mpr fun comment _ => ?_⟩,
      fun column member => writes_commentDefinitions kept.readable (columns column member).1⟩
    · obtain ⟨readable, numbers, fits⟩ := columns column member
      exact (exists_columnText_iff kept (typed column member) numbers).mpr ⟨readable, fits⟩
    · exact Definition.exists_createIndex_iff.mpr
        ⟨indexes index member, kept.readable, known (indexesKnown index member)⟩
    · exact Definition.exists_commentTable_iff.mpr kept.readable

end Dialect

end OracleSql
