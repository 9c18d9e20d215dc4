/-
This file plans a table again that was created and then left unfinished. Indexes, comments and
foreign keys are looked for one by one, and just those are planned that were not made before: what
was made is found under its stored name, and as these names are different, nothing else is taken for
it. The columns themselves are as they were declared, since the creation of a table is one step.
-/

import OracleSql.Proofs.Migration.Catalog
import OracleSql.Proofs.Migration.Convergence

namespace OracleSql

/-! ### Steps -/

namespace Dialect

/-- All of the definitions have texts. -/
def Writes (dialect : Dialect) (definitions : List Definition) : Prop :=
  ∀ definition ∈ definitions, ∃ sql, definition.sql dialect = .ok sql

/-- The step of a definition that has a text. -/
def stepOf (dialect : Dialect) (definition : Definition) : MigrationStep :=
  ⟨definition, (definition.sql dialect).toOption.getD ""⟩

variable {dialect : Dialect} {definitions : List Definition}

theorem step_eq_ok_iff {definition : Definition} {step : MigrationStep} :
    dialect.step definition = .ok step ↔
      (∃ sql, definition.sql dialect = .ok sql) ∧ step = dialect.stepOf definition := by
  unfold Dialect.step stepOf
  cases definition.sql dialect with
  | error failure => simp [Except.map]
  | ok sql => simp [Except.map, Except.toOption, eq_comm]

/-- Definitions become steps where they have texts. -/
theorem steps_eq_ok_iff {steps : List MigrationStep} :
    dialect.steps definitions = .ok steps ↔
      dialect.Writes definitions ∧ steps = definitions.map dialect.stepOf := by
  unfold Dialect.steps
  rw [mapM_eq_ok_iff]
  constructor
  · intro each
    refine ⟨fun definition member => ?_, ?_⟩
    · obtain ⟨step, _, made⟩ := exists_of_forall₂ each member
      exact (step_eq_ok_iff.mp made).1
    · rw [eq_comm, ← List.map_id steps, map_eq_map_iff]
      exact each.imp fun _ _ made => (step_eq_ok_iff.mp made).2.symm
  · rintro ⟨writes, rfl⟩
    rw [List.forall₂_map_right_iff, List.forall₂_same]
    exact fun definition member => step_eq_ok_iff.mpr ⟨writes definition member, rfl⟩

theorem ofDefinitions_eq_ok_iff {difference : Difference} :
    Difference.ofDefinitions dialect definitions = .ok difference ↔
      dialect.Writes definitions ∧ difference = { steps := definitions.map dialect.stepOf } := by
  unfold Difference.ofDefinitions
  rw [map_eq_ok]
  constructor
  · rintro ⟨steps, made, rfl⟩
    obtain ⟨writes, rfl⟩ := steps_eq_ok_iff.mp made
    exact ⟨writes, rfl⟩
  · rintro ⟨writes, rfl⟩
    exact ⟨_, steps_eq_ok_iff.mpr ⟨writes, rfl⟩, rfl⟩

end Dialect

/-- The steps for those of the definitions that were not made. -/
def Difference.missing (dialect : Dialect) (done definitions : List Definition) : Difference :=
  { steps := (definitions.filter (· ∉ done)).map dialect.stepOf }

namespace Difference

variable {dialect : Dialect} {done : List Definition} {definition : Definition}

theorem missing_of_mem (made : definition ∈ done) : missing dialect done [definition] = {} := by
  simp [missing, made]

theorem ofDefinitions_missing (absent : definition ∉ done)
    (writes : dialect.Writes [definition]) :
    ofDefinitions dialect [definition] = .ok (missing dialect done [definition]) := by
  rw [Dialect.ofDefinitions_eq_ok_iff]
  exact ⟨writes, by simp [missing, absent]⟩

/-- What is missing of several lists is missing of the whole. -/
theorem foldl_append_missing (dialect : Dialect) (done : List Definition)
    (parts : List (List Definition)) :
    (parts.map (missing dialect done)).foldl append {} = missing dialect done parts.flatten := by
  rw [foldl_append_eq]
  simp [missing, List.flatMap_def, List.filter_flatten, List.map_flatten,
    Function.comp_def]

end Difference

/-! ### What a table asks for after its creation -/

namespace Table

/-- The sequences that the columns of a table take their numbers from. -/
def sequences (table : Table) : List Definition :=
  table.columns.flatMap (·.sequenceDefinitions table.name)

/-- What completes a table that was created, but for its foreign keys. -/
def furnishings (table : Table) : List Definition :=
  table.indexes.map (.createIndex table.name) ++
    (table.comment.toList.map (.commentTable table.name) ++
      table.columns.flatMap (·.commentDefinitions table.name))

/-- The stored name of the primary key, if there is one. -/
def keyNames (dialect : Dialect) (table : Table) : List (Except Error String) :=
  table.primaryKey.toList.map (dialect.primaryKeyName table.name)

/-- The stored names of a table are different: those of its columns, those of its indexes, and those
of its constraints; the index of a primary key has the name of its constraint. -/
structure NamesApart (dialect : Dialect) (table : Table) : Prop where
  columns : dialect.StoredApart (table.columns.map Column.name)
  indexes : DistinctNames (table.keyNames dialect ++
    table.indexes.map fun index => dialect.stored index.name)
  constraints : DistinctNames (table.keyNames dialect ++
    table.foreignKeys.map fun key => dialect.stored key.name)

variable {dialect : Dialect} {table : Table}

/-- Where a column takes its numbers from a sequence by default, there are no triggers. -/
theorem tableDefinitions_eq (identity : dialect.identity = .sequenceDefault) (table : Table) :
    dialect.tableDefinitions table =
      table.sequences ++ .createTable table :: table.furnishings := by
  have triggers : table.columns.flatMap (dialect.triggerDefinitions table.name) = [] := by
    simp [Dialect.triggerDefinitions, identity]
  simp [Dialect.tableDefinitions, triggers, sequences, furnishings]

theorem mem_commentDefinitions {column : Column} {name : String} {definition : Definition} :
    definition ∈ column.commentDefinitions name ↔
      ∃ comment, column.comment = some comment ∧
        definition = .commentColumn name column.name comment := by
  simp [Column.commentDefinitions, eq_comm]

theorem mem_furnishings {definition : Definition} :
    definition ∈ table.furnishings ↔
      (∃ index ∈ table.indexes, definition = .createIndex table.name index) ∨
      (∃ comment, table.comment = some comment ∧
        definition = .commentTable table.name comment) ∨
      ∃ column ∈ table.columns, ∃ comment, column.comment = some comment ∧
        definition = .commentColumn table.name column.name comment := by
  simp [furnishings, mem_commentDefinitions, eq_comm]

/-- A stored name is that of one column. -/
theorem NamesApart.eq_of_stored (apart : table.NamesApart dialect) {first second : Column}
    (member : first ∈ table.columns) (also : second ∈ table.columns)
    (same : dialect.stored first.name = dialect.stored second.name) : first = second := by
  have distinct := apart.columns.nodup
  rw [List.map_map] at distinct
  exact List.inj_on_of_nodup_map distinct member also same

/-- The other columns have other stored names. -/
theorem NamesApart.ne_of_split (apart : table.NamesApart dialect) {front back : List Column}
    {column : Column} (split : table.columns = front ++ column :: back) :
    ∀ other ∈ front ++ back, dialect.stored other.name ≠ dialect.stored column.name := by
  have distinct := apart.columns.nodup
  rw [split, List.map_map, List.map_append, List.map_cons, List.nodup_middle, List.nodup_cons,
    ← List.map_append] at distinct
  exact fun other member same => distinct.1 (List.mem_map.mpr ⟨other, member, same⟩)

end Table

/-- A column of a table that was just created is as it was declared, and without a comment. -/
theorem LiveTable.view_created {dialect : Dialect} {table : Table}
    (apart : table.NamesApart dialect) {column : Column} (member : column ∈ table.columns)
    {name : String} (stored : dialect.stored column.name = .ok name) :
    (created dialect table).view name =
      (some ⟨name, dialect.typeOf column, table.allowsNull column⟩, none) := by
  obtain ⟨front, back, split⟩ := List.append_of_mem member
  have others (part : List Column) (fewer : part ⊆ front ++ back) :
      ∀ definition ∈ part.map (Definition.addColumn table), ∀ other,
        definition.columnName? = some other → dialect.stored other ≠ .ok name := by
    intro definition made other about
    obtain ⟨listed, inside, rfl⟩ := List.mem_map.mp made
    cases about
    exact stored ▸ apart.ne_of_split split listed (fewer inside)
  have keyOther : ∀ definition ∈ table.primaryKey.toList.map (Definition.addPrimaryKey table.name),
      ∀ other, definition.columnName? = some other → dialect.stored other ≠ .ok name := by
    intro definition made other about
    obtain ⟨key, _, rfl⟩ := List.mem_map.mp made
    cases about
  obtain ⟨absent, silent⟩ := view_eq_iff.mp
    (view_afterAll_other (others front (List.subset_append_left _ _)) {})
  unfold created
  rw [split, List.map_append, List.map_cons, List.append_assoc, List.cons_append,
    afterAll_append, afterAll_cons, afterAll_append, view_afterAll_other keyOther,
    view_afterAll_other (others back (List.subset_append_right _ _)),
    view_addColumn table stored absent, silent]
  rfl

/-! ### Foreign keys and absent tables -/

namespace Dialect

variable {dialect : Dialect} {table : Table}

/-- Just the foreign keys are planned that are not found. -/
theorem missingForeignKeys_eq (live : Option LiveTable) (keys : List Definition)
    (writes : dialect.Writes table.foreignKeyDefinitions)
    (found : ∀ key ∈ table.foreignKeys,
      (match live with
        | some known => (dialect.stored key.name).map known.constraints.contains
        | none => .ok false) = .ok (decide (.addForeignKey table key ∈ keys))) :
    dialect.missingForeignKeys table live =
      .ok ((table.foreignKeyDefinitions.filter (· ∉ keys)).map dialect.stepOf) := by
  unfold Dialect.missingForeignKeys
  refine bind_eq_ok.mpr ⟨table.foreignKeys.map fun key =>
    ([Definition.addForeignKey table key].filter (· ∉ keys)).map dialect.stepOf, ?_, ?_⟩
  · rw [mapM_eq_ok_iff, List.forall₂_map_right_iff, List.forall₂_same]
    intro key member
    have decided : (if decide (.addForeignKey table key ∈ keys) = true then .ok []
        else dialect.steps [.addForeignKey table key]) =
        .ok (([Definition.addForeignKey table key].filter (· ∉ keys)).map dialect.stepOf) := by
      by_cases made : .addForeignKey table key ∈ keys
      · simp [made]
      · have written : dialect.Writes [.addForeignKey table key] :=
          List.forall_mem_singleton.mpr (writes _ (List.mem_map_of_mem member))
        simp [made, Dialect.steps_eq_ok_iff.mpr ⟨written, rfl⟩]
    cases live with
    | none => exact bind_eq_ok.mpr ⟨_, found key member, decided⟩
    | some known => exact bind_eq_ok.mpr ⟨_, found key member, decided⟩
  · rw [Table.foreignKeyDefinitions]
    congr 1
    induction table.foreignKeys with
    | nil => rfl
    | cons key rest inductionHypothesis =>
      rw [List.map_cons, List.flatten_cons, inductionHypothesis, List.map_cons, ← List.map_append,
        ← List.filter_append]
      rfl

/-- An absent table is planned with all that belongs to it. -/
theorem planTable_absent (writes : dialect.Writes (dialect.tableDefinitions table))
    (writesKeys : dialect.Writes table.foreignKeyDefinitions) :
    dialect.planTable table none =
      .ok ⟨.creating, { steps := (dialect.tableDefinitions table).map dialect.stepOf },
        table.foreignKeyDefinitions.map dialect.stepOf⟩ := by
  have created := ofDefinitions_eq_ok_iff.mpr ⟨writes, rfl⟩
  have keys : dialect.missingForeignKeys table none =
      .ok (table.foreignKeyDefinitions.map dialect.stepOf) := by
    rw [missingForeignKeys_eq none [] writesKeys fun _ _ => by simp]
    simp
  exact bind_eq_ok.mpr ⟨_, map_eq_ok.mpr ⟨_, created, rfl⟩, bind_eq_ok.mpr ⟨_, keys, rfl⟩⟩

/-- What is planned for an absent table has texts. -/
theorem writes_of_planTable_absent {plan : TablePlan}
    (planned : dialect.planTable table none = .ok plan) :
    dialect.Writes (dialect.tableDefinitions table) ∧
      dialect.Writes table.foreignKeyDefinitions := by
  obtain ⟨_, first, planned⟩ := bind_eq_ok.mp planned
  obtain ⟨_, created, _⟩ := map_eq_ok.mp first
  obtain ⟨_, keys, _⟩ := bind_eq_ok.mp planned
  obtain ⟨_, each, _⟩ := bind_eq_ok.mp keys
  refine ⟨(ofDefinitions_eq_ok_iff.mp created).1, fun definition member => ?_⟩
  obtain ⟨key, listed, rfl⟩ := List.mem_map.mp member
  obtain ⟨_, _, made⟩ := exists_of_forall₂ (mapM_eq_ok_iff.mp each) listed
  exact (steps_eq_ok_iff.mp made).1 _ List.mem_cons_self

end Dialect

/-! ### A table that was left unfinished -/

/-- A table that was created, with some of what completes it. -/
structure Table.Unfinished (dialect : Dialect) (table : Table) (done keys : List Definition) :
    Prop where
  apart : table.NamesApart dialect
  typed : ∀ column ∈ table.columns,
    Error.ofColumn column (dialect.columnType column) = .ok (dialect.typeOf column)
  writes : dialect.Writes table.furnishings
  writesKeys : dialect.Writes table.foreignKeyDefinitions
  done : done ⊆ table.furnishings
  keys : keys ⊆ table.foreignKeyDefinitions

namespace Table.Unfinished

variable {dialect : Dialect} {table : Table} {done keys : List Definition}

/-- What the dictionary shows of the table. -/
def live (dialect : Dialect) (table : Table) (done keys : List Definition) : LiveTable :=
  (LiveTable.created dialect table).afterAll dialect (done ++ keys)

theorem mem_added (unfinished : table.Unfinished dialect done keys) {definition : Definition}
    (member : definition ∈ done ++ keys) :
    definition ∈ table.furnishings ∨ ∃ key ∈ table.foreignKeys,
      definition = .addForeignKey table key := by
  rcases List.mem_append.mp member with made | made
  · exact Or.inl (unfinished.done made)
  · obtain ⟨key, listed, rfl⟩ := List.mem_map.mp (unfinished.keys made)
    exact Or.inr ⟨key, listed, rfl⟩

/-- What completes a table leaves its columns as they are. -/
theorem columns_live (unfinished : table.Unfinished dialect done keys) :
    (live dialect table done keys).columns = (LiveTable.created dialect table).columns := by
  refine LiveTable.columns_afterAll_others (fun definition made => ?_) _
  rcases unfinished.mem_added made with furnishing | ⟨key, _, rfl⟩
  · rcases Table.mem_furnishings.mp furnishing with
      ⟨_, _, rfl⟩ | ⟨_, _, rfl⟩ | ⟨_, _, _, _, rfl⟩ <;> rfl
  · rfl

/-- The columns are there as they were declared. -/
theorem column?_live (unfinished : table.Unfinished dialect done keys) {column : Column}
    (member : column ∈ table.columns) {name : String}
    (stored : dialect.stored column.name = .ok name) :
    (live dialect table done keys).column? name =
      some ⟨name, dialect.typeOf column, table.allowsNull column⟩ := by
  unfold LiveTable.column?
  rw [unfinished.columns_live]
  exact (LiveTable.view_eq_iff.mp (LiveTable.view_created unfinished.apart member stored)).1

/-- No columns are there but those that were declared. -/
theorem declared_of_mem_live (unfinished : table.Unfinished dialect done keys) {column : LiveColumn}
    (member : column ∈ (live dialect table done keys).columns) :
    ∃ declared ∈ table.columns, column.columnType = dialect.typeOf declared := by
  let Declared (known : LiveTable) : Prop := ∀ column ∈ known.columns,
    ∃ declared ∈ table.columns, column.columnType = dialect.typeOf declared
  rw [unfinished.columns_live] at member
  refine LiveTable.afterAll_keeps Declared (fun definition made known each => ?_) {}
    (fun _ absurdly => nomatch absurdly) column member
  rcases List.mem_append.mp made with made | made
  · obtain ⟨declared, listed, rfl⟩ := List.mem_map.mp made
    refine LiveTable.forStored_holds Declared each fun name stored column inside => ?_
    rcases List.mem_append.mp inside with earlier | added
    · exact each column earlier
    · rw [List.mem_singleton.mp added]
      exact ⟨declared, listed, rfl⟩
  · obtain ⟨key, _, rfl⟩ := List.mem_map.mp made
    show ∀ column ∈ (known.after dialect _).columns, _
    rw [LiveTable.columns_after_other known rfl]
    exact each

/-- A comment of a column that was made is the declared one. -/
theorem mem_done_of_commentColumn (unfinished : table.Unfinished dialect done keys)
    {column : Column} (member : column ∈ table.columns) {name : String}
    (stored : dialect.stored column.name = .ok name) {comment : String}
    (declared : column.comment = some comment) {owner other text : String}
    (made : .commentColumn owner other text ∈ done ++ keys)
    (same : dialect.stored other = .ok name) :
    text = comment ∧ .commentColumn table.name column.name comment ∈ done := by
  have inside : Definition.commentColumn owner other text ∈ done := by
    refine (List.mem_append.mp made).resolve_right fun among => ?_
    obtain ⟨key, _, impossible⟩ := List.mem_map.mp (unfinished.keys among)
    cases impossible
  rcases Table.mem_furnishings.mp (unfinished.done inside) with
    ⟨_, _, impossible⟩ | ⟨_, _, impossible⟩ | ⟨listed, also, written, known, is⟩
  · cases impossible
  · cases impossible
  · cases is
    obtain rfl := unfinished.apart.eq_of_stored also member (same.trans stored.symm)
    cases declared.symm.trans known
    exact ⟨rfl, inside⟩

/-- A column has its comment just if it was made. -/
theorem columnComment?_live (unfinished : table.Unfinished dialect done keys) {column : Column}
    (member : column ∈ table.columns) {name : String}
    (stored : dialect.stored column.name = .ok name) {comment : String}
    (declared : column.comment = some comment) :
    (live dialect table done keys).columnComment? name =
      if .commentColumn table.name column.name comment ∈ done then some comment else none := by
  by_cases made : .commentColumn table.name column.name comment ∈ done
  · rw [if_pos made]
    refine LiveTable.columnComment?_afterAll_of_mem stored (fun _ _ _ also same => ?_)
      (List.mem_append_left _ made) _
    exact (unfinished.mem_done_of_commentColumn member stored declared also same).1
  · rw [if_neg made]
    refine LiveTable.columnComment?_afterAll_keeps (fun _ _ _ also same => ?_) ?_
    · exact absurd (unfinished.mem_done_of_commentColumn member stored declared also same).2 made
    · exact (LiveTable.view_eq_iff.mp
        (LiveTable.view_created unfinished.apart member stored)).2

/-- Of the columns just the comments are planned that were not made. -/
theorem ofColumn_live (unfinished : table.Unfinished dialect done keys) {column : Column}
    (member : column ∈ table.columns) :
    Difference.ofColumn dialect table (live dialect table done keys) column =
      .ok (.missing dialect done (column.commentDefinitions table.name)) := by
  obtain ⟨name, stored⟩ := unfinished.apart.columns.exists_name
    (List.mem_map_of_mem (List.mem_map_of_mem (f := Column.name) member))
  refine (Difference.ofColumn_eq_ok_iff stored (unfinished.column?_live member stored)).mpr
    ⟨_, {}, {}, .missing dialect done (column.commentDefinitions table.name),
      unfinished.typed column member, ?_, ?_, ?_, ?_⟩
  · rw [Difference.ofType, ColumnType.compare_self]
  · cases table.allowsNull column <;> rfl
  · cases declared : column.comment with
    | none =>
      rw [Column.commentDefinitions, declared]
      rfl
    | some comment =>
      have asked : column.commentDefinitions table.name =
          [.commentColumn table.name column.name comment] := by
        rw [Column.commentDefinitions, declared]
        rfl
      rw [unfinished.columnComment?_live member stored declared, asked, Difference.ofComment]
      by_cases made : .commentColumn table.name column.name comment ∈ done
      · rw [if_pos made, if_pos rfl, Difference.missing_of_mem made]
      · rw [if_neg made, if_neg (by simp), Difference.ofDefinitions_missing made]
        refine List.forall_mem_singleton.mpr (unfinished.writes _ ?_)
        exact Table.mem_furnishings.mpr (Or.inr (Or.inr ⟨column, member, comment, declared, rfl⟩))
  · simp [Difference.append, Difference.missing]

/-- The primary key was made with the table. -/
theorem ofPrimaryKey_live (unfinished : table.Unfinished dialect done keys) :
    Difference.ofPrimaryKey dialect table (live dialect table done keys) = .ok {} := by
  unfold Difference.ofPrimaryKey
  cases declared : table.primaryKey with
  | none => rfl
  | some key =>
    have listed : dialect.primaryKeyName table.name key ∈ table.keyNames dialect := by
      rw [Table.keyNames, declared]
      exact List.mem_cons_self
    obtain ⟨name, named⟩ := unfinished.apart.constraints.exists_name
      (List.mem_append_left _ listed)
    have made : Definition.addPrimaryKey table.name key ∈
        table.primaryKey.toList.map (.addPrimaryKey table.name) := by
      rw [declared]
      exact List.mem_cons_self
    have present : name ∈ (live dialect table done keys).constraints :=
      LiveTable.mem_constraints_afterAll.mpr (Or.inl (LiveTable.mem_constraints_afterAll.mpr
        (Or.inr ⟨_, List.mem_append_right _ made, named⟩)))
    exact bind_eq_ok.mpr ⟨name, named, if_pos (List.contains_iff_mem.mpr present)⟩

/-- An index is there just if it was made. -/
theorem mem_indexes_live (unfinished : table.Unfinished dialect done keys) {index : Index}
    (member : index ∈ table.indexes) {name : String}
    (stored : dialect.stored index.name = .ok name) :
    name ∈ (live dialect table done keys).indexes ↔ .createIndex table.name index ∈ done := by
  obtain ⟨_, distinct, disjoint⟩ := List.nodup_append.mp unfinished.apart.indexes.nodup
  refine ⟨fun known => ?_, fun made => LiveTable.mem_indexes_afterAll.mpr
    (Or.inr ⟨_, List.mem_append_left _ made, stored⟩)⟩
  rcases LiveTable.mem_indexes_afterAll.mp known with known | ⟨definition, made, adds⟩
  · rcases LiveTable.mem_indexes_afterAll.mp known with impossible | ⟨definition, made, adds⟩
    · cases impossible
    · rcases List.mem_append.mp made with made | made
      · obtain ⟨_, _, rfl⟩ := List.mem_map.mp made
        cases adds
      · obtain ⟨key, declared, rfl⟩ := List.mem_map.mp made
        exact absurd (adds.trans stored.symm)
          (disjoint _ (List.mem_map_of_mem declared) _ (List.mem_map_of_mem member))
  · rcases unfinished.mem_added made with furnishing | ⟨_, _, rfl⟩
    · rcases Table.mem_furnishings.mp furnishing with
        ⟨other, also, rfl⟩ | ⟨_, _, rfl⟩ | ⟨_, _, _, _, rfl⟩
      · obtain rfl := List.inj_on_of_nodup_map distinct also member (adds.trans stored.symm)
        refine (List.mem_append.mp made).resolve_right fun among => ?_
        obtain ⟨_, _, impossible⟩ := List.mem_map.mp (unfinished.keys among)
        cases impossible
      · cases adds
      · cases adds
    · cases adds

/-- Just the indexes are planned that were not made. -/
theorem ofIndex_live (unfinished : table.Unfinished dialect done keys) {index : Index}
    (member : index ∈ table.indexes) :
    Difference.ofIndex dialect table (live dialect table done keys) index =
      .ok (.missing dialect done [.createIndex table.name index]) := by
  obtain ⟨name, stored⟩ := unfinished.apart.indexes.exists_name
    (List.mem_append_right _ (List.mem_map_of_mem member))
  have known := unfinished.mem_indexes_live member stored
  unfold Difference.ofIndex
  rw [stored]
  simp only [bind, Except.bind, List.contains_iff_mem, known]
  by_cases made : .createIndex table.name index ∈ done
  · rw [if_pos made, Difference.missing_of_mem made]
  · rw [if_neg made, Difference.ofDefinitions_missing made]
    refine List.forall_mem_singleton.mpr (unfinished.writes _ ?_)
    exact Table.mem_furnishings.mpr (Or.inl ⟨index, member, rfl⟩)

/-- A comment of the table that was made is the declared one. -/
theorem mem_done_of_commentTable (unfinished : table.Unfinished dialect done keys)
    {comment : String} (declared : table.comment = some comment) {owner text : String}
    (made : .commentTable owner text ∈ done ++ keys) :
    text = comment ∧ .commentTable table.name comment ∈ done := by
  have inside : Definition.commentTable owner text ∈ done := by
    refine (List.mem_append.mp made).resolve_right fun among => ?_
    obtain ⟨key, _, impossible⟩ := List.mem_map.mp (unfinished.keys among)
    cases impossible
  rcases Table.mem_furnishings.mp (unfinished.done inside) with
    ⟨_, _, impossible⟩ | ⟨written, known, is⟩ | ⟨_, _, _, _, impossible⟩
  · cases impossible
  · cases is
    cases declared.symm.trans known
    exact ⟨rfl, inside⟩
  · cases impossible

/-- A table that was just created has no comment. -/
theorem comment_created (dialect : Dialect) (table : Table) :
    (LiveTable.created dialect table).comment = none := by
  refine LiveTable.comment_afterAll_keeps (fun owner other made => ?_) rfl
  rcases List.mem_append.mp made with made | made <;>
    obtain ⟨_, _, impossible⟩ := List.mem_map.mp made <;> cases impossible

/-- The comment of the table is planned if it was not made. -/
theorem ofTableComment_live (unfinished : table.Unfinished dialect done keys) :
    Difference.ofTableComment dialect table (live dialect table done keys) =
      .ok (.missing dialect done (table.comment.toList.map (.commentTable table.name))) := by
  unfold Difference.ofTableComment
  cases declared : table.comment with
  | none => rfl
  | some comment =>
    have asked : (some comment).toList.map (Definition.commentTable table.name) =
        [.commentTable table.name comment] := rfl
    rw [asked]
    by_cases made : .commentTable table.name comment ∈ done
    · have present : (live dialect table done keys).comment = some comment :=
        LiveTable.comment_afterAll_of_mem
          (fun owner other also => (unfinished.mem_done_of_commentTable declared also).1)
          (List.mem_append_left _ made) _
      rw [Difference.missing_of_mem made]
      exact if_pos present
    · have absent : (live dialect table done keys).comment = none :=
        LiveTable.comment_afterAll_keeps
          (fun owner other also =>
            absurd (unfinished.mem_done_of_commentTable declared also).2 made)
          (comment_created dialect table)
      rw [← Difference.ofDefinitions_missing made]
      · exact if_neg (by simp [absent])
      · refine List.forall_mem_singleton.mpr (unfinished.writes _ ?_)
        exact Table.mem_furnishings.mpr (Or.inr (Or.inl ⟨comment, declared, rfl⟩))

/-- A foreign key is there just if it was made. -/
theorem mem_constraints_live (unfinished : table.Unfinished dialect done keys) {key : ForeignKey}
    (member : key ∈ table.foreignKeys) {name : String}
    (stored : dialect.stored key.name = .ok name) :
    name ∈ (live dialect table done keys).constraints ↔ .addForeignKey table key ∈ keys := by
  obtain ⟨_, distinct, disjoint⟩ := List.nodup_append.mp unfinished.apart.constraints.nodup
  refine ⟨fun known => ?_, fun made => LiveTable.mem_constraints_afterAll.mpr
    (Or.inr ⟨_, List.mem_append_right _ made, stored⟩)⟩
  rcases LiveTable.mem_constraints_afterAll.mp known with known | ⟨definition, made, adds⟩
  · rcases LiveTable.mem_constraints_afterAll.mp known with impossible | ⟨definition, made, adds⟩
    · cases impossible
    · rcases List.mem_append.mp made with made | made
      · obtain ⟨_, _, rfl⟩ := List.mem_map.mp made
        cases adds
      · obtain ⟨primary, declared, rfl⟩ := List.mem_map.mp made
        exact absurd (adds.trans stored.symm)
          (disjoint _ (List.mem_map_of_mem declared) _ (List.mem_map_of_mem member))
  · rcases List.mem_append.mp made with made | made
    · rcases Table.mem_furnishings.mp (unfinished.done made) with
        ⟨_, _, rfl⟩ | ⟨_, _, rfl⟩ | ⟨_, _, _, _, rfl⟩ <;> cases adds
    · obtain ⟨other, also, rfl⟩ := List.mem_map.mp (unfinished.keys made)
      obtain rfl := List.inj_on_of_nodup_map distinct also member (adds.trans stored.symm)
      exact made

/-- Just the foreign keys are planned that were not made. -/
theorem missingForeignKeys_live (unfinished : table.Unfinished dialect done keys) :
    dialect.missingForeignKeys table (some (live dialect table done keys)) =
      .ok ((table.foreignKeyDefinitions.filter (· ∉ keys)).map dialect.stepOf) := by
  refine Dialect.missingForeignKeys_eq _ _ unfinished.writesKeys fun key member => ?_
  obtain ⟨name, stored⟩ := unfinished.apart.constraints.exists_name
    (List.mem_append_right _ (List.mem_map_of_mem member))
  have known := unfinished.mem_constraints_live member stored
  simp only [stored, Except.map, List.contains_eq_mem, known]

/-- Just what was not made is planned, though in the order of a comparison. -/
theorem planTable_live (unfinished : table.Unfinished dialect done keys) :
    ∃ plan, dialect.planTable table (some (live dialect table done keys)) = .ok plan ∧
      plan.difference.steps.Perm ((table.furnishings.filter (· ∉ done)).map dialect.stepOf) ∧
      plan.foreignKeys = (table.foreignKeyDefinitions.filter (· ∉ keys)).map dialect.stepOf := by
  have compared : Difference.ofTable dialect table (live dialect table done keys) =
      .ok (.missing dialect done (table.columns.flatMap (·.commentDefinitions table.name) ++
        (table.indexes.map (.createIndex table.name) ++
          table.comment.toList.map (.commentTable table.name)))) := by
    refine Difference.ofTable_eq_ok_iff.mpr
      ⟨table.columns.map fun column => .missing dialect done (column.commentDefinitions table.name),
        .missing dialect done [],
        table.indexes.map fun index => .missing dialect done [.createIndex table.name index],
        _, ?_, unfinished.ofPrimaryKey_live, ?_, unfinished.ofTableComment_live, ?_⟩
    · rw [mapM_eq_ok_iff, List.forall₂_map_right_iff, List.forall₂_same]
      exact fun column member => unfinished.ofColumn_live member
    · rw [mapM_eq_ok_iff, List.forall₂_map_right_iff, List.forall₂_same]
      exact fun index member => unfinished.ofIndex_live member
    · have parts := Difference.foldl_append_missing dialect done
        (table.columns.map (·.commentDefinitions table.name) ++ [[]] ++
          table.indexes.map (fun index => [.createIndex table.name index]) ++
          [table.comment.toList.map (.commentTable table.name)])
      rw [List.map_eq_flatMap (f := Definition.createIndex table.name)]
      simpa [Function.comp_def, List.flatMap_def] using parts.symm
  refine ⟨⟨_, _, _⟩, bind_eq_ok.mpr ⟨_, map_eq_ok.mpr ⟨_, compared, rfl⟩,
    bind_eq_ok.mpr ⟨_, unfinished.missingForeignKeys_live, rfl⟩⟩, ?_, rfl⟩
  refine List.Perm.map _ (List.Perm.filter _ ?_)
  rw [furnishings, ← List.append_assoc (table.indexes.map _)]
  exact List.perm_append_comm

end Table.Unfinished

end OracleSql
