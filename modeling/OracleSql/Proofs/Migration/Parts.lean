/-
This file sorts out what is planned for a table. An absent table is created with all that numbers
its columns; a column that is missing is added in the same way; a column that is there is only made
larger, or allowed to hold nulls. All the rest furnishes the table with keys, indexes and comments,
and comes after its columns.
-/

import OracleSql.Migration.Migrator
import OracleSql.Proofs.Migration.Convergence

namespace OracleSql

/-- Whether a definition gives a key, an index or a comment to a table that is there. -/
def Definition.furnishes : Definition → Bool
  | addPrimaryKey _ _ => true
  | addForeignKey _ _ => true
  | createIndex _ _ => true
  | commentTable _ _ => true
  | commentColumn _ _ _ => true
  | _ => false

/-- The steps only furnish tables. -/
def Furnishing (definitions : List Definition) : Prop :=
  ∀ definition ∈ definitions, definition.furnishes = true

theorem furnishing_commentDefinitions (column : Column) (table : String) :
    Furnishing (column.commentDefinitions table) := by
  intro definition member
  obtain ⟨_, _, rfl⟩ := List.mem_map.mp member
  rfl

/-! ### Live tables -/

namespace Difference

variable {dialect : Dialect} {table : Table} {column : Column} {live : LiveTable}
  {difference : Difference} {definition : Definition}

/-- A comparison that asks for nothing skips nothing. -/
theorem furnishing_empty : Furnishing (definitions {}) ∧ skipped {} = [] :=
  ⟨List.forall_mem_nil _, rfl⟩

/-- A comparison that asks for one definition that furnishes skips nothing. -/
theorem furnishing_of_ofDefinitions
    (built : ofDefinitions dialect [definition] = .ok difference)
    (furnishes : definition.furnishes = true) :
    Furnishing difference.definitions ∧ difference.skipped = [] := by
  obtain ⟨same, none⟩ := of_ofDefinitions built
  refine ⟨?_, none⟩
  rw [same]
  exact List.forall_mem_singleton.mpr furnishes

theorem furnishing_ofPrimaryKey (built : ofPrimaryKey dialect table live = .ok difference) :
    Furnishing difference.definitions ∧ difference.skipped = [] := by
  rcases ofPrimaryKey_cases built with rfl | ⟨key, made⟩
  · exact furnishing_empty
  · exact furnishing_of_ofDefinitions made rfl

theorem furnishing_ofIndex {index : Index}
    (built : ofIndex dialect table live index = .ok difference) :
    Furnishing difference.definitions ∧ difference.skipped = [] := by
  rcases ofIndex_cases built with rfl | made
  · exact furnishing_empty
  · exact furnishing_of_ofDefinitions made rfl

theorem furnishing_ofTableComment
    (built : ofTableComment dialect table live = .ok difference) :
    Furnishing difference.definitions ∧ difference.skipped = [] := by
  rcases ofTableComment_cases built with rfl | ⟨comment, made⟩
  · exact furnishing_empty
  · exact furnishing_of_ofDefinitions made rfl

theorem furnishing_ofComment {name columnName : String} {current declared : Option String}
    (built : ofComment dialect name columnName current declared = .ok difference) :
    Furnishing difference.definitions ∧ difference.skipped = [] := by
  rcases ofComment_cases built with rfl | ⟨comment, made⟩
  · exact furnishing_empty
  · exact furnishing_of_ofDefinitions made rfl

/-- A table that is there is compared column by column, and then furnished. -/
theorem exists_columns_of_ofTable (built : ofTable dialect table live = .ok difference) :
    ∃ columns rest, table.columns.mapM (ofColumn dialect table live) = .ok columns ∧
      difference.definitions = columns.flatMap definitions ++ rest ∧ Furnishing rest ∧
      difference.skipped = columns.flatMap skipped := by
  obtain ⟨columns, key, indexes, comment, compared, first, second, third, rfl⟩ :=
    ofTable_eq_ok_iff.mp built
  obtain ⟨keyFurnishes, keySkips⟩ := furnishing_ofPrimaryKey first
  obtain ⟨commentFurnishes, commentSkips⟩ := furnishing_ofTableComment third
  have each : ∀ part ∈ indexes, Furnishing part.definitions ∧ part.skipped = [] := by
    intro part member
    obtain ⟨index, _, made⟩ := exists_of_forall₂ (mapM_eq_ok_iff.mp second).flip member
    exact furnishing_ofIndex made
  refine ⟨columns, key.definitions ++ (indexes.flatMap definitions ++ comment.definitions),
    compared, ?_, ?_, ?_⟩
  · rw [definitions_foldl]
    simp [List.flatMap_append]
  · refine List.forall_mem_append.mpr ⟨keyFurnishes,
      List.forall_mem_append.mpr ⟨fun definition member => ?_, commentFurnishes⟩⟩
    obtain ⟨part, listed, inside⟩ := List.mem_flatMap.mp member
    exact (each part listed).1 definition inside
  · have nothing : indexes.flatMap skipped = [] :=
      List.flatMap_eq_nil_iff.mpr fun part member => (each part member).2
    rw [foldl_append_eq]
    simp [List.flatMap_append, keySkips, commentSkips, nothing]

end Difference

/-! ### Plans for a table -/

namespace Dialect

variable {dialect : Dialect} {table : Table} {live : Option LiveTable} {plan : TablePlan}

/-- The column is there, and this is what the dictionary reports of it. -/
def Finds (dialect : Dialect) (live : LiveTable) (column : Column) (current : LiveColumn) : Prop :=
  ∃ name, dialect.stored column.name = .ok name ∧ live.column? name = some current

/-- The table is there but not the column. -/
def Misses (dialect : Dialect) (live : LiveTable) (column : Column) : Prop :=
  ∃ name, dialect.stored column.name = .ok name ∧ live.column? name = none

/-- A plan compares a table that is there, and creates one that is not; foreign keys are planned
apart. -/
theorem parts_of_planTable (planned : dialect.planTable table live = .ok plan) :
    (match live with
      | none => Difference.ofDefinitions dialect (dialect.tableDefinitions table)
      | some known => Difference.ofTable dialect table known) = .ok plan.difference ∧
    dialect.missingForeignKeys table live = .ok plan.foreignKeys := by
  cases live with
  | none =>
    obtain ⟨parts, first, rest⟩ := bind_eq_ok.mp planned
    obtain ⟨difference, built, rfl⟩ := map_eq_ok.mp first
    obtain ⟨foreignKeys, missing, same⟩ := bind_eq_ok.mp rest
    cases same
    exact ⟨built, missing⟩
  | some known =>
    obtain ⟨parts, first, rest⟩ := bind_eq_ok.mp planned
    obtain ⟨difference, built, rfl⟩ := map_eq_ok.mp first
    obtain ⟨foreignKeys, missing, same⟩ := bind_eq_ok.mp rest
    cases same
    exact ⟨built, missing⟩

/-- Foreign keys are the last steps, and nothing else is among them. -/
theorem furnishing_foreignKeys (planned : dialect.planTable table live = .ok plan) :
    Furnishing (plan.foreignKeys.map MigrationStep.definition) := by
  obtain ⟨-, missing⟩ := parts_of_planTable planned
  obtain ⟨steps, made, same⟩ := bind_eq_ok.mp missing
  rw [← Except.ok.inj same]
  intro definition member
  obtain ⟨step, inside, rfl⟩ := List.mem_map.mp member
  obtain ⟨some, listed, among⟩ := List.mem_flatten.mp inside
  obtain ⟨key, _, built⟩ := exists_of_forall₂ (mapM_eq_ok_iff.mp made).flip listed
  have single : ∃ present : Bool, (if present = true then .ok [] else
      dialect.steps [.addForeignKey table key]) = .ok some := by
    cases live with
    | none =>
      obtain ⟨present, _, rest⟩ := bind_eq_ok.mp built
      exact ⟨present, rest⟩
    | some known =>
      obtain ⟨present, _, rest⟩ := bind_eq_ok.mp built
      exact ⟨present, rest⟩
  obtain ⟨present, written⟩ := single
  split at written
  · cases written
    exact absurd among List.not_mem_nil
  · have own := List.mem_map_of_mem (f := MigrationStep.definition) among
    rw [Difference.map_definition_of_steps written, List.mem_singleton] at own
    rw [own]
    rfl

/-- What creates a table, the definition itself with what numbers its columns before the rest. -/
theorem exists_rest_of_tableDefinitions (dialect : Dialect) (table : Table) :
    ∃ rest, Furnishing rest ∧ dialect.tableDefinitions table =
      table.columns.flatMap (·.sequenceDefinitions table.name) ++ [.createTable table] ++
        table.columns.flatMap (dialect.triggerDefinitions table.name) ++ rest := by
  refine ⟨table.indexes.map (.createIndex table.name) ++
    (table.comment.toList.map (.commentTable table.name) ++
      table.columns.flatMap (·.commentDefinitions table.name)), ?_, ?_⟩
  · refine List.forall_mem_append.mpr ⟨?_, List.forall_mem_append.mpr ⟨?_, ?_⟩⟩
    · exact List.forall_mem_map.mpr fun _ _ => rfl
    · exact List.forall_mem_map.mpr fun _ _ => rfl
    · intro definition member
      obtain ⟨column, _, inside⟩ := List.mem_flatMap.mp member
      exact furnishing_commentDefinitions column table.name definition inside
  · simp [tableDefinitions]

end Dialect

namespace Difference

variable {dialect : Dialect} {table : Table} {column : Column} {live : LiveTable}
  {difference : Difference}

/-- A column that is missing is added. -/
theorem definitions_of_misses (missing : dialect.Misses live column)
    (built : ofColumn dialect table live column = .ok difference) :
    difference.definitions = dialect.columnDefinitions table column ∧ difference.skipped = [] := by
  obtain ⟨name, stored, absent⟩ := missing
  unfold ofColumn at built
  rw [stored] at built
  simp only [bind, Except.bind, absent] at built
  exact of_ofDefinitions built

/-- A comparison finds the column or misses it. -/
theorem finds_or_misses (built : ofColumn dialect table live column = .ok difference) :
    (∃ current, dialect.Finds live column current) ∨ dialect.Misses live column := by
  obtain ⟨name, stored, _⟩ := bind_eq_ok.mp built
  cases found : live.column? name with
  | some current => exact .inl ⟨current, name, stored, found⟩
  | none => exact .inr ⟨name, stored, found⟩

end Difference

end OracleSql
