/-
This file says which declarations are accepted, given what is there of their tables. Some faults are
found whatever there is. The others are found on the way to a text or to a stored name, and so only
if it is needed: the default of a column and the target of a foreign key are written where these are
missing, and names are looked up where the table is there.
-/

import OracleSql.Proofs.Migration.Recovery
import OracleSql.Proofs.Migration.Written

namespace OracleSql

open Identifier (Readable Storable)

/-! ### Declarations -/

namespace Table

/-- A declaration without those faults that are found whatever there is: it has been checked, the
table can be found, numbered columns and the constraint of the primary key can be stored, and all
other names can be read. -/
structure Sound (dialect : Dialect) (table : Table) : Prop where
  checked : dialect.checkTable table = .ok ()
  found : ∃ stored, dialect.storedTable table.name = .ok stored
  key : ∀ key ∈ table.primaryKey, ∀ name ∈ key.name, Storable name
  numbers : ∀ column ∈ table.columns, column.identity = true → Storable column.name
  columns : ∀ column ∈ table.columns, Readable column.name
  indexes : ∀ index ∈ table.indexes, Readable index.name
  foreignKeys : ∀ key ∈ table.foreignKeys, Readable key.name

/-- All that belongs to the table can be looked up by its stored name. -/
structure LooksUp (table : Table) : Prop where
  columns : ∀ column ∈ table.columns, Storable column.name
  indexes : ∀ index ∈ table.indexes, Storable index.name
  foreignKeys : ∀ key ∈ table.foreignKeys, Storable key.name

/-- Every part of the table can be made where it is missing. -/
structure Makes (table : Table) : Prop where
  defaults : ∀ column ∈ table.columns, column.DefaultFits
  targets : ∀ key ∈ table.foreignKeys, key.TargetReads

end Table

namespace Dialect

/-- There is no column of this declared name. -/
def LacksColumn (dialect : Dialect) (live : Option LiveTable) (name : String) : Prop :=
  ∀ known ∈ live, ∀ kept, dialect.stored name = .ok kept → known.column? kept = none

/-- There is no constraint of this declared name. -/
def LacksConstraint (dialect : Dialect) (live : Option LiveTable) (name : String) : Prop :=
  ∀ known ∈ live, ∀ kept, dialect.stored name = .ok kept → kept ∉ known.constraints

/-- The declaration is accepted where this is there of its table. -/
structure Accepts (dialect : Dialect) (table : Table) (live : Option LiveTable) : Prop where
  sound : table.Sound dialect
  looksUp : live.isSome = true → table.LooksUp
  defaults : ∀ column ∈ table.columns, dialect.LacksColumn live column.name → column.DefaultFits
  targets : ∀ key ∈ table.foreignKeys, dialect.LacksConstraint live key.name → key.TargetReads

variable {dialect : Dialect} {table : Table}

/-! ### Tables that are there -/

theorem exists_ofDefinitions_iff {definitions : List Definition} :
    (∃ difference, Difference.ofDefinitions dialect definitions = .ok difference) ↔
      dialect.Writes definitions := by
  simp only [ofDefinitions_eq_ok_iff, exists_and_left, exists_eq, and_true]

section

variable {known : LiveTable}

/-- A column that is there can be compared, whatever there is to be changed. -/
theorem exists_ofType (dialect : Dialect) {column : String} (readable : Readable table.name)
    (own : Readable column) (live declared : ColumnType) :
    ∃ difference, Difference.ofType dialect table.name column live declared = .ok difference := by
  unfold Difference.ofType
  split
  · exact ⟨_, rfl⟩
  · exact exists_ofDefinitions_iff.mpr
      (writes_single.mpr (Definition.exists_modifyType_iff.mpr ⟨readable, own⟩))
  · exact ⟨_, rfl⟩
  · exact ⟨_, rfl⟩

theorem exists_ofNullness (dialect : Dialect) {column : String}
    (readable : Readable table.name) (own : Readable column) (live declared : Bool) :
    ∃ difference,
      Difference.ofNullness dialect table.name column live declared = .ok difference := by
  unfold Difference.ofNullness
  split
  · exact exists_ofDefinitions_iff.mpr
      (writes_single.mpr (Definition.exists_modifyNullness_iff.mpr ⟨readable, own⟩))
  · split <;> exact ⟨_, rfl⟩

theorem exists_ofComment (dialect : Dialect) {column : String}
    (readable : Readable table.name) (own : Readable column) (live declared : Option String) :
    ∃ difference,
      Difference.ofComment dialect table.name column live declared = .ok difference := by
  unfold Difference.ofComment
  split
  · split
    · exact ⟨_, rfl⟩
    · exact exists_ofDefinitions_iff.mpr
        (writes_single.mpr (Definition.exists_commentColumn_iff.mpr ⟨readable, own⟩))
  · exact ⟨_, rfl⟩

/-- A column can be compared where it can be looked up, and made if it is missing. -/
theorem exists_ofColumn_iff {column : Column} (kept : Storable table.name)
    (typed : Error.ofColumn column (dialect.columnType column) = .ok (dialect.typeOf column)) :
    (∃ difference, Difference.ofColumn dialect table known column = .ok difference) ↔
      Storable column.name ∧
        (dialect.LacksColumn (some known) column.name → column.DefaultFits) := by
  constructor
  · rintro ⟨difference, built⟩
    obtain ⟨name, stored, further⟩ := bind_eq_ok.mp built
    have storable := (exists_stored_iff dialect).mp ⟨name, stored⟩
    refine ⟨storable, fun lacks => ?_⟩
    rw [lacks known rfl name stored] at further
    exact ((writes_columnDefinitions_iff kept typed).mp
      (exists_ofDefinitions_iff.mp ⟨_, further⟩)).2.2
  · rintro ⟨storable, fits⟩
    obtain ⟨name, stored⟩ := (exists_stored_iff dialect).mpr storable
    cases there : known.column? name with
    | none =>
      have lacks : dialect.LacksColumn (some known) column.name := by
        rintro _ ⟨⟩ kept own
        cases stored.symm.trans own
        exact there
      have writes := (writes_columnDefinitions_iff kept typed).mpr
        ⟨storable.readable, fun _ => storable, fits lacks⟩
      obtain ⟨difference, made⟩ := exists_ofDefinitions_iff.mpr writes
      refine ⟨difference, bind_eq_ok.mpr ⟨name, stored, ?_⟩⟩
      rw [there]
      exact made
    | some current =>
      obtain ⟨types, first⟩ := exists_ofType dialect kept.readable storable.readable
        current.columnType (dialect.typeOf column)
      obtain ⟨nulls, second⟩ := exists_ofNullness dialect kept.readable storable.readable
        current.nullable (table.allowsNull column)
      obtain ⟨comment, third⟩ := exists_ofComment dialect kept.readable storable.readable
        (known.columnComment? name) column.comment
      exact ⟨_, (Difference.ofColumn_eq_ok_iff stored there).mpr
        ⟨_, types, nulls, comment, typed, first, second, third, rfl⟩⟩

/-- A primary key is looked up by its own name if it has one; it can be made where it is missing. -/
theorem exists_ofPrimaryKey_iff (kept : Storable table.name) (checked : table.check = .ok ())
    (columns : ∀ column ∈ table.columns, Readable column.name) :
    (∃ difference, Difference.ofPrimaryKey dialect table known = .ok difference) ↔
      ∀ key ∈ table.primaryKey, ∀ name ∈ key.name, Storable name := by
  obtain ⟨keysKnown, _⟩ := Table.knows_of_check checked
  unfold Difference.ofPrimaryKey
  cases given : table.primaryKey with
  | none => exact ⟨fun _ _ impossible => (nomatch impossible), fun _ => ⟨_, rfl⟩⟩
  | some key =>
    have readable := Table.readable_of_knowsAll columns (keysKnown key given)
    simp only [Option.mem_some_iff, forall_eq']
    rw [exists_bind_eq_ok, ← exists_primaryKeyName_iff dialect kept]
    refine exists_congr fun name => ⟨And.left, fun named => ⟨named, ?_⟩⟩
    split
    · exact ⟨_, rfl⟩
    · exact exists_ofDefinitions_iff.mpr (writes_single.mpr
        (Definition.exists_addPrimaryKey_iff.mpr ⟨kept.readable, ⟨name, named⟩, readable⟩))

/-- An index is looked up by its name, and can be made where it is missing. -/
theorem exists_ofIndex_iff {index : Index} (kept : Storable table.name)
    (readable : ∀ name ∈ index.columns, Readable name) :
    (∃ difference, Difference.ofIndex dialect table known index = .ok difference) ↔
      Storable index.name := by
  unfold Difference.ofIndex
  rw [exists_bind_eq_ok, ← exists_stored_iff dialect]
  refine exists_congr fun name => ⟨And.left, fun stored => ⟨stored, ?_⟩⟩
  split
  · exact ⟨_, rfl⟩
  · exact exists_ofDefinitions_iff.mpr (writes_single.mpr (Definition.exists_createIndex_iff.mpr
      ⟨((exists_stored_iff dialect).mp ⟨name, stored⟩).readable, kept.readable, readable⟩))

theorem exists_ofTableComment (readable : Readable table.name) :
    ∃ difference, Difference.ofTableComment dialect table known = .ok difference := by
  unfold Difference.ofTableComment
  split
  · split
    · exact ⟨_, rfl⟩
    · exact exists_ofDefinitions_iff.mpr
        (writes_single.mpr (Definition.exists_commentTable_iff.mpr readable))
  · exact ⟨_, rfl⟩

/-- A foreign key that has been checked can be added where the names can be read. -/
theorem exists_step_foreignKey_iff (dialect : Dialect) {key : ForeignKey}
    (kept : Storable table.name) (checked : table.checkForeignKey key = .ok ())
    (readable : ∀ name ∈ key.columns, Readable name) :
    (∃ steps, dialect.steps [.addForeignKey table key] = .ok steps) ↔
      Readable key.name ∧ key.TargetReads := by
  simp only [steps_eq_ok_iff, exists_and_left, exists_eq, and_true]
  rw [writes_single, Definition.exists_addForeignKey_iff]
  exact ⟨fun written => ⟨written.2.2.1, written.2.2.2.2⟩,
    fun ⟨own, target⟩ => ⟨checked, kept.readable, own, readable, target⟩⟩

end

/-! ### Plans of a table -/

/-- The foreign keys of a table can be planned where those can be looked up that may be there, and
those can be made that are missing. -/
theorem exists_missingForeignKeys_iff {live : Option LiveTable} (kept : Storable table.name)
    (checked : ∀ key ∈ table.foreignKeys, table.checkForeignKey key = .ok ())
    (readable : ∀ key ∈ table.foreignKeys, ∀ name ∈ key.columns, Readable name) :
    (∃ steps, dialect.missingForeignKeys table live = .ok steps) ↔
      ∀ key ∈ table.foreignKeys, Readable key.name ∧
        (live.isSome = true → Storable key.name) ∧
          (dialect.LacksConstraint live key.name → key.TargetReads) := by
  unfold missingForeignKeys
  simp only [exists_bind_eq_ok, Except.ok.injEq, exists_eq', and_true, exists_mapM_eq_ok_iff]
  refine forall₂_congr fun key member => ?_
  have made := exists_step_foreignKey_iff dialect kept (checked key member)
    (readable key member)
  cases live with
  | none =>
    have lacks : dialect.LacksConstraint none key.name := fun _ impossible => (nomatch impossible)
    show (∃ steps, dialect.steps [.addForeignKey table key] = .ok steps) ↔ _
    rw [made]
    exact ⟨fun ⟨own, target⟩ => ⟨own, nofun, fun _ => target⟩,
      fun ⟨own, _, target⟩ => ⟨own, target lacks⟩⟩
  | some known =>
    constructor
    · rintro ⟨steps, built⟩
      obtain ⟨_, looked, built⟩ := bind_eq_ok.mp built
      obtain ⟨name, stored, rfl⟩ := map_eq_ok.mp looked
      have storable := (exists_stored_iff dialect).mp ⟨name, stored⟩
      refine ⟨storable.readable, fun _ => storable, fun lacks => ?_⟩
      have absent : known.constraints.contains name = false := by
        simpa using lacks known rfl name stored
      rw [absent] at built
      exact (made.mp ⟨steps, built⟩).2
    · rintro ⟨_, storable, target⟩
      obtain ⟨name, stored⟩ := (exists_stored_iff dialect).mpr (storable rfl)
      refine exists_bind_eq_ok.mpr ⟨_, map_eq_ok.mpr ⟨name, stored, rfl⟩, ?_⟩
      split
      · exact ⟨_, rfl⟩
      next absent =>
        refine made.mpr ⟨(storable rfl).readable, target ?_⟩
        rintro _ ⟨⟩ other own
        cases stored.symm.trans own
        simpa using absent

/-- A table that is there can be compared where all that belongs to it can be looked up, and those
columns can be made that are missing. -/
theorem exists_ofTable_iff {known : LiveTable} (kept : Storable table.name)
    (checked : table.check = .ok ())
    (typed : ∀ column ∈ table.columns,
      Error.ofColumn column (dialect.columnType column) = .ok (dialect.typeOf column)) :
    (∃ difference, Difference.ofTable dialect table known = .ok difference) ↔
      (∀ column ∈ table.columns, Storable column.name ∧
        (dialect.LacksColumn (some known) column.name → column.DefaultFits)) ∧
      (∀ key ∈ table.primaryKey, ∀ name ∈ key.name, Storable name) ∧
      ∀ index ∈ table.indexes, Storable index.name := by
  obtain ⟨_, indexesKnown, _⟩ := Table.knows_of_check checked
  have each : (∀ column ∈ table.columns, ∃ difference,
        Difference.ofColumn dialect table known column = .ok difference) ↔
      ∀ column ∈ table.columns, Storable column.name ∧
        (dialect.LacksColumn (some known) column.name → column.DefaultFits) :=
    forall₂_congr fun column member => exists_ofColumn_iff kept (typed column member)
  unfold Difference.ofTable
  simp only [exists_bind_eq_ok, Except.ok.injEq, exists_eq', and_true, exists_and_right,
    exists_mapM_eq_ok_iff, exists_ofTableComment kept.readable, each]
  refine and_congr_right fun columns => ?_
  have readable (column : Column) (member : column ∈ table.columns) : Readable column.name :=
    (columns column member).1.readable
  refine and_congr (exists_ofPrimaryKey_iff kept checked readable)
    (forall₂_congr fun index member => ?_)
  exact exists_ofIndex_iff kept (Table.readable_of_knowsAll readable (indexesKnown index member))

/-- An absent table can be planned for where it can be made, and its foreign keys can be. -/
theorem exists_planTable_absent_iff :
    (∃ plan, dialect.planTable table none = .ok plan) ↔
      dialect.Writes (dialect.tableDefinitions table) ∧
        ∃ steps, dialect.missingForeignKeys table none = .ok steps := by
  unfold planTable
  simp only [exists_bind_eq_ok, exists_map_eq_ok, exists_ofDefinitions_iff, Except.ok.injEq,
    exists_eq', and_true, exists_and_right]

/-- A table that is there can be planned for where it can be compared. -/
theorem exists_planTable_present_iff {known : LiveTable} :
    (∃ plan, dialect.planTable table (some known) = .ok plan) ↔
      (∃ difference, Difference.ofTable dialect table known = .ok difference) ∧
        ∃ steps, dialect.missingForeignKeys table (some known) = .ok steps := by
  unfold planTable
  simp only [exists_bind_eq_ok, exists_map_eq_ok, Except.ok.injEq, exists_eq', and_true,
    exists_and_right]

/-- What is known of a table that has been checked. -/
theorem parts_of_checkTable (checked : dialect.checkTable table = .ok ()) :
    table.check = .ok () ∧
      (∀ column ∈ table.columns,
        Error.ofColumn column (dialect.columnType column) = .ok (dialect.typeOf column)) ∧
      ∀ key ∈ table.foreignKeys, table.checkForeignKey key = .ok () := by
  refine ⟨?_, fun column member => (typed_of_checkTable checked member).2, ?_⟩
  · obtain ⟨_, accepted, _⟩ := bind_eq_ok.mp checked
    exact mapError_eq_ok.mp (mapError_eq_ok.mp accepted)
  · obtain ⟨_, _, checked⟩ := bind_eq_ok.mp checked
    obtain ⟨_, _, keys⟩ := bind_eq_ok.mp checked
    exact forM_eq_ok_iff.mp keys

section

variable (checked : dialect.checkTable table = .ok ())
  (found : ∃ stored, dialect.storedTable table.name = .ok stored)

include checked found

/-- The declaration of an absent table is accepted just if it can be planned for. -/
theorem accepts_absent_iff :
    dialect.Accepts table none ↔ ∃ plan, dialect.planTable table none = .ok plan := by
  obtain ⟨good, typed, keysChecked⟩ := parts_of_checkTable checked
  obtain ⟨_, _, known⟩ := Table.knows_of_check good
  have kept : Storable table.name := storable_of_storedTable found.choose_spec
  have absent (name : String) : dialect.LacksColumn none name :=
    fun _ impossible => (nomatch impossible)
  rw [exists_planTable_absent_iff, writes_tableDefinitions_iff kept good typed]
  constructor
  · rintro ⟨sound, _, defaults, targets⟩
    refine ⟨⟨fun column member => ⟨sound.columns column member, sound.numbers column member,
      defaults column member (absent _)⟩, sound.key, sound.indexes⟩, ?_⟩
    refine (exists_missingForeignKeys_iff kept keysChecked fun key member =>
      Table.readable_of_knowsAll sound.columns (known key member)).mpr fun key member => ?_
    exact ⟨sound.foreignKeys key member, nofun, targets key member⟩
  · rintro ⟨⟨columns, key, indexes⟩, planned⟩
    have readable (column : Column) (member : column ∈ table.columns) : Readable column.name :=
      (columns column member).1
    have keys := (exists_missingForeignKeys_iff kept keysChecked fun key member =>
      Table.readable_of_knowsAll readable (known key member)).mp planned
    exact {
      sound := {
        checked, found, key, indexes, columns := readable
        numbers := fun column member => (columns column member).2.1
        foreignKeys := fun key member => (keys key member).1 }
      looksUp := nofun
      defaults := fun column member _ => (columns column member).2.2
      targets := fun key member => (keys key member).2.2 }

/-- So is that of a table that is there. -/
theorem accepts_present_iff {live : LiveTable} :
    dialect.Accepts table (some live) ↔
      ∃ plan, dialect.planTable table (some live) = .ok plan := by
  obtain ⟨good, typed, keysChecked⟩ := parts_of_checkTable checked
  obtain ⟨_, _, known⟩ := Table.knows_of_check good
  have kept : Storable table.name := storable_of_storedTable found.choose_spec
  rw [exists_planTable_present_iff, exists_ofTable_iff kept good typed]
  constructor
  · rintro ⟨sound, looksUp, defaults, targets⟩
    have looksUp := looksUp rfl
    refine ⟨⟨fun column member => ⟨looksUp.columns column member, defaults column member⟩,
      sound.key, looksUp.indexes⟩, ?_⟩
    refine (exists_missingForeignKeys_iff kept keysChecked fun key member =>
      Table.readable_of_knowsAll sound.columns (known key member)).mpr fun key member => ?_
    exact ⟨sound.foreignKeys key member, fun _ => looksUp.foreignKeys key member,
      targets key member⟩
  · rintro ⟨⟨columns, key, indexes⟩, planned⟩
    have readable (column : Column) (member : column ∈ table.columns) : Readable column.name :=
      (columns column member).1.readable
    have keys := (exists_missingForeignKeys_iff kept keysChecked fun key member =>
      Table.readable_of_knowsAll readable (known key member)).mp planned
    exact {
      sound := {
        checked, found, key, columns := readable
        numbers := fun column member _ => (columns column member).1
        indexes := fun index member => (indexes index member).readable
        foreignKeys := fun key member => (keys key member).1 }
      looksUp := fun _ => {
        columns := fun column member => (columns column member).1
        indexes
        foreignKeys := fun key member => (keys key member).2.1 rfl }
      defaults := fun column member => (columns column member).2
      targets := fun key member => (keys key member).2.2 }

end

/-- A declaration is accepted just if it is checked, its table can be found and planned for. -/
theorem accepts_iff {live : Option LiveTable} :
    dialect.Accepts table live ↔ dialect.checkTable table = .ok () ∧
      (∃ stored, dialect.storedTable table.name = .ok stored) ∧
      ∃ plan, dialect.planTable table live = .ok plan := by
  have planned (checked : dialect.checkTable table = .ok ())
      (found : ∃ stored, dialect.storedTable table.name = .ok stored) :
      dialect.Accepts table live ↔ ∃ plan, dialect.planTable table live = .ok plan := by
    cases live with
    | none => exact accepts_absent_iff checked found
    | some _ => exact accepts_present_iff checked found
  constructor
  · intro accepted
    have sound := accepted.sound
    exact ⟨sound.checked, sound.found, (planned sound.checked sound.found).mp accepted⟩
  · rintro ⟨checked, found, made⟩
    exact (planned checked found).mpr made

end Dialect

end OracleSql
