/-
This file shows that a migration converges. The steps that a comparison of a declared table with a
live one asks for are taken, and then the same comparison asks for nothing more; what it skipped at
first it skips again. A comparison looks at one thing after the other, and each thing is put right
by its own steps and by no others: a column through its view, the names of keys and indexes because
they stay, and the comment of the table because nothing else writes it.
-/

import OracleSql.Proofs.Migration.Effect

namespace OracleSql

theorem ColumnType.compare_self (columnType : ColumnType) : columnType.compare columnType = .same :=
  if_pos rfl

namespace Difference

/-! ### Steps of comparisons -/

/-- What the steps do, in order. -/
def definitions (difference : Difference) : List Definition :=
  difference.steps.map MigrationStep.definition

/-- What is left of a comparison once its steps are taken. -/
def remainder (difference : Difference) : Difference :=
  { skipped := difference.skipped }

variable {dialect : Dialect} {table : Table} {column : Column} {live : LiveTable}
  {difference : Difference} {name : String}

theorem definitions_append (first second : Difference) :
    (first.append second).definitions = first.definitions ++ second.definitions :=
  List.map_append

theorem foldl_append_eq (parts : List Difference) (start : Difference) :
    parts.foldl append start =
      ⟨start.steps ++ parts.flatMap steps, start.skipped ++ parts.flatMap skipped⟩ := by
  induction parts generalizing start with
  | nil => simp
  | cons part rest inductionHypothesis =>
    rw [List.foldl_cons, inductionHypothesis]
    simp [append]

theorem flatMap_definitions (parts : List Difference) :
    (parts.flatMap steps).map MigrationStep.definition = parts.flatMap definitions :=
  List.map_flatMap

/-- The steps of definitions are these definitions with their texts. -/
theorem map_definition_of_steps {definitions : List Definition} {steps : List MigrationStep}
    (built : dialect.steps definitions = .ok steps) :
    steps.map MigrationStep.definition = definitions := by
  have each := mapM_eq_ok_iff.mp built
  rw [← List.map_id definitions, eq_comm, map_eq_map_iff]
  refine each.imp fun definition step made => ?_
  obtain ⟨sql, _, rfl⟩ := map_eq_ok.mp made
  rfl

theorem of_ofDefinitions {definitions : List Definition}
    (built : ofDefinitions dialect definitions = .ok difference) :
    difference.definitions = definitions ∧ difference.skipped = [] := by
  obtain ⟨steps, made, rfl⟩ := map_eq_ok.mp built
  exact ⟨map_definition_of_steps made, rfl⟩

/-- What steps are made of can be written. -/
theorem sql_of_ofDefinitions {definitions : List Definition}
    (built : ofDefinitions dialect definitions = .ok difference) {definition : Definition}
    (member : definition ∈ definitions) : ∃ sql, definition.sql dialect = .ok sql := by
  obtain ⟨steps, made, _⟩ := map_eq_ok.mp built
  obtain ⟨step, _, each⟩ := exists_of_forall₂ (mapM_eq_ok_iff.mp made) member
  obtain ⟨sql, written, _⟩ := map_eq_ok.mp each
  exact ⟨sql, written⟩

theorem remainder_of_ofDefinitions {definitions : List Definition}
    (built : ofDefinitions dialect definitions = .ok difference) : difference.remainder = {} := by
  rw [remainder, (of_ofDefinitions built).2]

/-! ### One column -/

/-- A comparison of a column looks at nothing but its view. -/
theorem ofColumn_congr {other : LiveTable} (stored : dialect.stored column.name = .ok name)
    (same : live.view name = other.view name) :
    ofColumn dialect table live column = ofColumn dialect table other column := by
  obtain ⟨found, comment⟩ := LiveTable.view_eq_iff.mp same
  unfold ofColumn
  rw [stored]
  simp only [bind, Except.bind, found, comment]

/-- After the steps for its type a column has one that asks for no more. -/
theorem ofType_after {current : LiveColumn} {declared : ColumnType}
    (stored : dialect.stored column.name = .ok name)
    (found : live.column? name = some current)
    (built : ofType dialect table.name column.name current.columnType declared =
      .ok difference) :
    ∃ columnType,
      (live.afterAll dialect difference.definitions).view name =
        (some { current with columnType }, live.columnComment? name) ∧
      ofType dialect table.name column.name columnType declared = .ok difference.remainder := by
  have unchanged : live.view name = (some current, live.columnComment? name) :=
    Prod.ext found rfl
  cases change : current.columnType.compare declared with
  | same =>
    have none : ofType dialect table.name column.name current.columnType declared = .ok {} := by
      rw [ofType, change]
    cases built.symm.trans none
    exact ⟨current.columnType, unchanged, none⟩
  | widen =>
    rw [ofType, change] at built
    rw [(of_ofDefinitions built).1, remainder_of_ofDefinitions built]
    refine ⟨declared, ?_, by rw [ofType, ColumnType.compare_self]⟩
    have step : live.afterAll dialect [.modifyType table.name column.name declared] =
        live.changeColumn name fun column => { column with columnType := declared } := by
      simp only [LiveTable.afterAll, List.foldl_cons, List.foldl_nil, LiveTable.after, stored,
        LiveTable.forStored]
    rw [step]
    refine (LiveTable.view_changeColumn live name ?_).trans ?_
    · exact fun _ => rfl
    · rw [found]
      rfl
  | narrow =>
    have skipped : ofType dialect table.name column.name current.columnType declared =
        .ok (skip table.name column.name (.narrowing current.columnType declared)) := by
      rw [ofType, change]
    cases built.symm.trans skipped
    exact ⟨current.columnType, unchanged, skipped⟩
  | incompatible =>
    have skipped : ofType dialect table.name column.name current.columnType declared =
        .ok (skip table.name column.name (.changing current.columnType declared)) := by
      rw [ofType, change]
    cases built.symm.trans skipped
    exact ⟨current.columnType, unchanged, skipped⟩

/-- After the steps for its nulls a column asks for no more of them. -/
theorem ofNullness_after {current : LiveColumn} {declared : Bool}
    (stored : dialect.stored column.name = .ok name)
    (found : live.column? name = some current)
    (built : ofNullness dialect table.name column.name current.nullable declared =
      .ok difference) :
    ∃ nullable,
      (live.afterAll dialect difference.definitions).view name =
        (some { current with nullable }, live.columnComment? name) ∧
      ofNullness dialect table.name column.name nullable declared = .ok difference.remainder := by
  have unchanged : live.view name = (some current, live.columnComment? name) :=
    Prod.ext found rfl
  by_cases relaxed : (declared && !current.nullable) = true
  · obtain ⟨rfl, required⟩ := Bool.and_eq_true_iff.mp relaxed
    rw [ofNullness, if_pos relaxed] at built
    rw [(of_ofDefinitions built).1, remainder_of_ofDefinitions built]
    refine ⟨true, ?_, rfl⟩
    have step : live.afterAll dialect [.modifyNullness table.name column.name true] =
        live.changeColumn name fun column => { column with nullable := true } := by
      simp only [LiveTable.afterAll, List.foldl_cons, List.foldl_nil, LiveTable.after, stored,
        LiveTable.forStored]
    rw [step]
    refine (LiveTable.view_changeColumn live name ?_).trans ?_
    · exact fun _ => rfl
    · rw [found]
      rfl
  · have none : difference.definitions = [] ∧ difference.remainder = difference := by
      rw [ofNullness, if_neg relaxed] at built
      by_cases tightened : (!declared && current.nullable) = true
      · rw [if_pos tightened] at built
        cases built
        exact ⟨rfl, rfl⟩
      · rw [if_neg tightened] at built
        cases built
        exact ⟨rfl, rfl⟩
    rw [none.1, none.2]
    exact ⟨current.nullable, unchanged, built⟩

/-- After the steps for its comment a column asks for no other one. -/
theorem ofComment_after {declared : Option String}
    (stored : dialect.stored column.name = .ok name)
    (built : ofComment dialect table.name column.name (live.columnComment? name) declared =
      .ok difference) :
    ∃ comment,
      (live.afterAll dialect difference.definitions).view name = (live.column? name, comment) ∧
      ofComment dialect table.name column.name comment declared = .ok difference.remainder := by
  cases declared with
  | none =>
    cases built
    exact ⟨live.columnComment? name, rfl, rfl⟩
  | some comment =>
    by_cases same : live.columnComment? name = some comment
    · have none : ofComment dialect table.name column.name (live.columnComment? name)
          (some comment) = .ok {} := if_pos same
      cases built.symm.trans none
      exact ⟨live.columnComment? name, rfl, none⟩
    · rw [ofComment, if_neg same] at built
      rw [(of_ofDefinitions built).1, remainder_of_ofDefinitions built]
      refine ⟨some comment, ?_, if_pos rfl⟩
      have step : live.afterAll dialect [.commentColumn table.name column.name comment] =
          live.commentColumn name comment := by
        simp only [LiveTable.afterAll, List.foldl_cons, List.foldl_nil, LiveTable.after, stored,
          LiveTable.forStored]
      rw [step, LiveTable.view_commentColumn]

/-- After the definitions that add a column it is there as it was declared. -/
theorem view_columnDefinitions (table : Table) (stored : dialect.stored column.name = .ok name)
    (absent : live.column? name = none) :
    ∃ comment, (live.afterAll dialect (dialect.columnDefinitions table column)).view name =
        (some ⟨name, dialect.typeOf column, table.allowsNull column⟩, comment) ∧
      ofComment dialect table.name column.name comment column.comment = .ok {} := by
  have numbered (live : LiveTable) :
      live.afterAll dialect (column.sequenceDefinitions table.name) = live := by
    unfold Column.sequenceDefinitions
    split <;> rfl
  have triggered (live : LiveTable) :
      live.afterAll dialect (dialect.triggerDefinitions table.name column) = live := by
    unfold Dialect.triggerDefinitions
    split <;> rfl
  have added : (live.afterAll dialect [.addColumn table column]).view name =
      (some ⟨name, dialect.typeOf column, table.allowsNull column⟩, live.columnComment? name) :=
    LiveTable.view_addColumn table stored absent
  obtain ⟨present, _⟩ := LiveTable.view_eq_iff.mp added
  unfold Dialect.columnDefinitions
  rw [LiveTable.afterAll_append, LiveTable.afterAll_append, LiveTable.afterAll_append, numbered,
    triggered]
  unfold Column.commentDefinitions
  cases declared : column.comment with
  | none => exact ⟨live.columnComment? name, added, rfl⟩
  | some comment =>
    refine ⟨some comment, ?_, if_pos rfl⟩
    simp only [Option.toList, List.map_cons, List.map_nil]
    rw [LiveTable.afterAll_cons]
    simp only [LiveTable.after, stored, LiveTable.forStored]
    exact (LiveTable.view_commentColumn _ name comment).trans (by rw [present])

/-- The parts of a comparison of a column that is there. -/
theorem ofColumn_eq_ok_iff {current : LiveColumn} (stored : dialect.stored column.name = .ok name)
    (found : live.column? name = some current) :
    ofColumn dialect table live column = .ok difference ↔
      ∃ declared types nulls comment, Error.ofColumn column (dialect.columnType column) =
          .ok declared ∧
        ofType dialect table.name column.name current.columnType declared = .ok types ∧
        ofNullness dialect table.name column.name current.nullable (table.allowsNull column) =
          .ok nulls ∧
        ofComment dialect table.name column.name (live.columnComment? name) column.comment =
          .ok comment ∧
        difference = (types.append nulls).append comment := by
  unfold ofColumn
  rw [stored]
  simp only [bind, Except.bind, found]
  constructor
  · intro built
    obtain ⟨declared, typed, built⟩ := bind_eq_ok.mp built
    obtain ⟨types, first, built⟩ := bind_eq_ok.mp built
    obtain ⟨nulls, second, built⟩ := bind_eq_ok.mp built
    obtain ⟨comment, third, same⟩ := bind_eq_ok.mp built
    exact ⟨declared, types, nulls, comment, typed, first, second, third,
      (Except.ok.inj same).symm⟩
  · rintro ⟨declared, types, nulls, comment, typed, first, second, third, rfl⟩
    refine bind_eq_ok.mpr ⟨declared, typed, ?_⟩
    refine bind_eq_ok.mpr ⟨types, first, ?_⟩
    refine bind_eq_ok.mpr ⟨nulls, second, ?_⟩
    exact bind_eq_ok.mpr ⟨comment, third, rfl⟩

/-- A column whose text can be written has a type. -/
theorem columnType_of_columnText {text : String}
    (written : dialect.columnText table column = .ok text) :
    Error.ofColumn column (dialect.columnType column) = .ok (dialect.typeOf column) := by
  obtain ⟨_, _, further⟩ := bind_eq_ok.mp written
  obtain ⟨columnType, typed, _⟩ := bind_eq_ok.mp further
  have plain := mapError_eq_ok.mp typed
  rw [typed]
  unfold Dialect.columnType at plain
  cases fault : column.fault? with
  | some fault => simp [fault] at plain
  | none =>
    rw [fault] at plain
    cases plain
    rfl

/-- After its own steps a column asks for no more. -/
theorem ofColumn_after (stored : dialect.stored column.name = .ok name)
    (built : ofColumn dialect table live column = .ok difference) :
    ofColumn dialect table (live.afterAll dialect difference.definitions) column =
      .ok difference.remainder := by
  cases found : live.column? name with
  | none =>
    have added : ofDefinitions dialect (dialect.columnDefinitions table column) =
        .ok difference := by
      simpa only [ofColumn, stored, bind, Except.bind, found] using built
    obtain ⟨comment, view, settled⟩ := view_columnDefinitions table stored found
    have asked : Definition.addColumn table column ∈ dialect.columnDefinitions table column := by
      simp [Dialect.columnDefinitions]
    obtain ⟨text, written⟩ := sql_of_ofDefinitions added asked
    obtain ⟨_, _, rest⟩ := bind_eq_ok.mp written
    obtain ⟨_, columnWritten, _⟩ := bind_eq_ok.mp rest
    rw [(of_ofDefinitions added).1, remainder_of_ofDefinitions added]
    obtain ⟨present, commented⟩ := LiveTable.view_eq_iff.mp view
    refine (ofColumn_eq_ok_iff stored present).mpr ⟨_, {}, {}, {},
      columnType_of_columnText columnWritten, ?_, ?_, ?_, rfl⟩
    · rw [ofType, ColumnType.compare_self]
    · cases table.allowsNull column <;> rfl
    · exact commented ▸ settled
  | some current =>
    obtain ⟨declared, types, nulls, comment, typed, first, second, third, rfl⟩ :=
      (ofColumn_eq_ok_iff stored found).mp built
    obtain ⟨columnType, view, firstLeft⟩ := ofType_after stored found first
    obtain ⟨present, commented⟩ := LiveTable.view_eq_iff.mp view
    obtain ⟨nullable, view, secondLeft⟩ := ofNullness_after stored present second
    obtain ⟨present, same⟩ := LiveTable.view_eq_iff.mp view
    rw [← commented, ← same] at third
    obtain ⟨text, view, thirdLeft⟩ := ofComment_after stored third
    obtain ⟨last, commented⟩ := LiveTable.view_eq_iff.mp view
    rw [definitions_append, definitions_append, LiveTable.afterAll_append,
      LiveTable.afterAll_append]
    exact (ofColumn_eq_ok_iff stored (last.trans present)).mpr
      ⟨declared, _, _, _, typed, firstLeft, secondLeft, commented ▸ thirdLeft, rfl⟩

/-! ### Keys, indexes and the comment of the table -/

variable {definitions : List Definition}

/-- What asks for a definition unless its name is known. -/
def ofNamed (dialect : Dialect) (outcome : Except Error String) (known : List String)
    (definition : Definition) : Except Error Difference := do
  let name ← outcome
  if known.contains name then .ok {} else ofDefinitions dialect [definition]

section

variable {outcome : Except Error String} {known : List String} {definition : Definition}

/-- It asks for nothing or for the one definition. -/
theorem ofNamed_cases (built : ofNamed dialect outcome known definition = .ok difference) :
    difference = {} ∨ ofDefinitions dialect [definition] = .ok difference := by
  obtain ⟨name, _, built⟩ := bind_eq_ok.mp built
  split at built
  · exact .inl (Except.ok.inj built).symm
  · exact .inr built

/-- Once the definition makes its name known, nothing more is asked for. -/
theorem ofNamed_after {later : List String}
    (built : ofNamed dialect outcome known definition = .ok difference)
    (kept : ∀ name, outcome = .ok name → name ∈ known ∨ definition ∈ definitions → name ∈ later)
    (taken : difference.definitions ⊆ definitions) :
    ofNamed dialect outcome later definition = .ok difference.remainder := by
  obtain ⟨name, named, built⟩ := bind_eq_ok.mp built
  have present : name ∈ later ∧ difference.remainder = {} := by
    split at built
    next among =>
      cases built
      exact ⟨kept name named (.inl (List.contains_iff_mem.mp among)), rfl⟩
    next =>
      rw [(of_ofDefinitions built).1] at taken
      exact ⟨kept name named (.inr (taken List.mem_cons_self)), remainder_of_ofDefinitions built⟩
  refine bind_eq_ok.mpr ⟨name, named, ?_⟩
  rw [if_pos (List.contains_iff_mem.mpr present.1), present.2]

end

/-- A table without a primary key asks for none; otherwise the key is looked up by its name. -/
theorem ofPrimaryKey_eq_some {key : PrimaryKey} (declared : table.primaryKey = some key) :
    ofPrimaryKey dialect table live = ofNamed dialect (dialect.primaryKeyName table.name key)
      live.constraints (.addPrimaryKey table.name key) := by
  rw [ofPrimaryKey, declared]
  rfl

theorem ofPrimaryKey_eq_none (declared : table.primaryKey = none) :
    ofPrimaryKey dialect table live = .ok {} := by
  rw [ofPrimaryKey, declared]

theorem ofIndex_eq (index : Index) :
    ofIndex dialect table live index = ofNamed dialect (dialect.stored index.name) live.indexes
      (.createIndex table.name index) :=
  rfl

/-- For its key, an index and its comment a table asks for nothing or for one definition. -/
theorem ofPrimaryKey_cases (built : ofPrimaryKey dialect table live = .ok difference) :
    difference = {} ∨
      ∃ key, ofDefinitions dialect [.addPrimaryKey table.name key] = .ok difference := by
  cases declared : table.primaryKey with
  | none =>
    rw [ofPrimaryKey_eq_none declared] at built
    exact .inl (Except.ok.inj built).symm
  | some key =>
    rw [ofPrimaryKey_eq_some declared] at built
    exact (ofNamed_cases built).imp_right fun made => ⟨key, made⟩

theorem ofIndex_cases {index : Index} (built : ofIndex dialect table live index = .ok difference) :
    difference = {} ∨ ofDefinitions dialect [.createIndex table.name index] = .ok difference :=
  ofNamed_cases (ofIndex_eq index ▸ built)

theorem ofTableComment_cases (built : ofTableComment dialect table live = .ok difference) :
    difference = {} ∨
      ∃ comment, ofDefinitions dialect [.commentTable table.name comment] = .ok difference := by
  unfold ofTableComment at built
  split at built
  next comment _ =>
    split at built
    · exact .inl (Except.ok.inj built).symm
    · exact .inr ⟨comment, built⟩
  next => exact .inl (Except.ok.inj built).symm

/-- A column asks for its comment in the same way. -/
theorem ofComment_cases {name columnName : String} {current declared : Option String}
    (built : ofComment dialect name columnName current declared = .ok difference) :
    difference = {} ∨
      ∃ comment, ofDefinitions dialect [.commentColumn name columnName comment] =
        .ok difference := by
  unfold ofComment at built
  split at built
  next comment =>
    split at built
    · exact .inl (Except.ok.inj built).symm
    · exact .inr ⟨comment, built⟩
  next => exact .inl (Except.ok.inj built).symm

/-- Once the steps for its primary key are among those that were taken, a table asks for no more. -/
theorem ofPrimaryKey_after (built : ofPrimaryKey dialect table live = .ok difference)
    (taken : difference.definitions ⊆ definitions) :
    ofPrimaryKey dialect table (live.afterAll dialect definitions) = .ok difference.remainder := by
  cases declared : table.primaryKey with
  | none =>
    rw [ofPrimaryKey_eq_none declared] at built ⊢
    cases built
    rfl
  | some key =>
    rw [ofPrimaryKey_eq_some declared] at built ⊢
    refine ofNamed_after built (fun name named known => ?_) taken
    exact LiveTable.mem_constraints_afterAll.mpr (known.imp_right
      fun made => ⟨.addPrimaryKey table.name key, made, named⟩)

/-- The same for an index. -/
theorem ofIndex_after {index : Index} (built : ofIndex dialect table live index = .ok difference)
    (taken : difference.definitions ⊆ definitions) :
    ofIndex dialect table (live.afterAll dialect definitions) index =
      .ok difference.remainder := by
  rw [ofIndex_eq] at built ⊢
  refine ofNamed_after built (fun name named known => ?_) taken
  exact LiveTable.mem_indexes_afterAll.mpr (known.imp_right
    fun made => ⟨.createIndex table.name index, made, named⟩)

theorem mapM_ofIndex_after {indexes : List Difference}
    (built : table.indexes.mapM (ofIndex dialect table live) = .ok indexes)
    (taken : indexes.flatMap Difference.definitions ⊆ definitions) :
    table.indexes.mapM (ofIndex dialect table (live.afterAll dialect definitions)) =
      .ok (indexes.map remainder) := by
  obtain ⟨pairs, firsts, rfl, each⟩ := exists_pairs_of_forall₂ (mapM_eq_ok_iff.mp built)
  rw [← firsts, mapM_eq_ok_iff, List.map_map, List.forall₂_map_left_iff,
    List.forall₂_map_right_iff, List.forall₂_same]
  intro pair member
  refine ofIndex_after (each pair member) fun definition inside => taken ?_
  exact List.mem_flatMap.mpr ⟨pair.2, List.mem_map_of_mem member, inside⟩

/-- Once the steps for its comment are the ones that were taken of this kind, a table asks for no
other comment. -/
theorem ofTableComment_after (built : ofTableComment dialect table live = .ok difference)
    (taken : difference.definitions ⊆ definitions)
    (only : ∀ name comment, .commentTable name comment ∈ definitions →
      .commentTable name comment ∈ difference.definitions) :
    ofTableComment dialect table (live.afterAll dialect definitions) =
      .ok difference.remainder := by
  unfold ofTableComment at built ⊢
  cases declared : table.comment with
  | none =>
    rw [declared] at built
    cases built
    rfl
  | some comment =>
    rw [declared] at built
    dsimp only at built ⊢
    by_cases same : live.comment = some comment
    · rw [if_pos same] at built
      cases built
      have kept : (live.afterAll dialect definitions).comment = some comment :=
        LiveTable.comment_afterAll_keeps
          (fun name other member => absurd (only name other member) List.not_mem_nil) same
      rw [if_pos kept]
      rfl
    · rw [if_neg same] at built
      rw [(of_ofDefinitions built).1] at taken only
      have kept : (live.afterAll dialect definitions).comment = some comment := by
        refine LiveTable.comment_afterAll_of_mem (fun name other member => ?_)
          (taken List.mem_cons_self) live
        cases List.mem_singleton.mp (only name other member)
        rfl
      rw [if_pos kept, remainder_of_ofDefinitions built]

/-! ### The whole table -/

/-- The steps are about no other column than this one, if there is one at all, nor about the comment
of the table. -/
def StaysIn (column : Option String) (difference : Difference) : Prop :=
  ∀ definition ∈ difference.definitions,
    (∀ other, definition.columnName? = some other → column = some other) ∧
      ∀ name comment, definition ≠ .commentTable name comment

theorem StaysIn.append {column : Option String} {first second : Difference}
    (one : first.StaysIn column) (other : second.StaysIn column) :
    (first.append second).StaysIn column := by
  intro definition member
  rw [definitions_append] at member
  exact (List.mem_append.mp member).elim (one definition) (other definition)

theorem staysIn_empty (column : Option String) : StaysIn column {} :=
  fun _ impossible => absurd impossible List.not_mem_nil

theorem staysIn_skip {column : Option String} (table name : String) (reason : SkipReason) :
    (skip table name reason).StaysIn column :=
  fun _ impossible => absurd impossible List.not_mem_nil

theorem staysIn_of_single {column : Option String} {definition : Definition}
    (made : ofDefinitions dialect [definition] = .ok difference)
    (inside : ∀ other, definition.columnName? = some other → column = some other)
    (other : ∀ name comment, definition ≠ .commentTable name comment) :
    difference.StaysIn column := by
  intro own member
  rw [(of_ofDefinitions made).1] at member
  cases List.mem_singleton.mp member
  exact ⟨inside, other⟩

/-- The steps for a column are about this column. -/
theorem ofColumn_staysIn (stored : dialect.stored column.name = .ok name)
    (built : ofColumn dialect table live column = .ok difference) :
    difference.StaysIn (some column.name) := by
  cases found : live.column? name with
  | none =>
    have added : ofDefinitions dialect (dialect.columnDefinitions table column) =
        .ok difference := by
      simpa only [ofColumn, stored, bind, Except.bind, found] using built
    intro definition member
    rw [(of_ofDefinitions added).1] at member
    simp only [Dialect.columnDefinitions, Column.sequenceDefinitions, Dialect.triggerDefinitions,
      Column.commentDefinitions, List.mem_append, List.mem_ite_nil_right, List.mem_singleton,
      List.mem_map] at member
    rcases member with ((⟨_, rfl⟩ | rfl) | ⟨_, rfl⟩) | ⟨_, _, rfl⟩ <;>
      simp [Definition.columnName?]
  | some current =>
    obtain ⟨declared, types, nulls, comment, _, first, second, third, rfl⟩ :=
      (ofColumn_eq_ok_iff stored found).mp built
    refine (StaysIn.append ?_ ?_).append ?_
    · unfold ofType at first
      cases change : current.columnType.compare declared with
      | same =>
        rw [change] at first
        cases first
        exact staysIn_empty _
      | widen =>
        rw [change] at first
        exact staysIn_of_single first (fun _ => id) nofun
      | narrow | incompatible =>
        rw [change] at first
        cases first
        exact staysIn_skip _ _ _
    · unfold ofNullness at second
      split at second
      · exact staysIn_of_single second (fun _ => id) nofun
      · split at second
        · cases second
          exact staysIn_skip _ _ _
        · cases second
          exact staysIn_empty _
    · rcases ofComment_cases third with rfl | ⟨_, made⟩
      · exact staysIn_empty _
      · exact staysIn_of_single made (fun _ => id) nofun

/-- The steps for a primary key or an index are about no column. -/
theorem ofPrimaryKey_staysIn (built : ofPrimaryKey dialect table live = .ok difference) :
    difference.StaysIn none := by
  rcases ofPrimaryKey_cases built with rfl | ⟨key, made⟩
  · exact staysIn_empty _
  · exact staysIn_of_single made nofun nofun

theorem ofIndex_staysIn {index : Index}
    (built : ofIndex dialect table live index = .ok difference) : difference.StaysIn none := by
  rcases ofIndex_cases built with rfl | made
  · exact staysIn_empty _
  · exact staysIn_of_single made nofun nofun

/-- The steps for the comment of the table are about no column. -/
theorem ofTableComment_columnName? (built : ofTableComment dialect table live = .ok difference) :
    ∀ definition ∈ difference.definitions, definition.columnName? = none := by
  rcases ofTableComment_cases built with rfl | ⟨comment, made⟩
  · exact fun _ member => absurd member List.not_mem_nil
  · rw [(of_ofDefinitions made).1]
    exact List.forall_mem_singleton.mpr rfl

/-- The parts of a comparison of a table. -/
theorem ofTable_eq_ok_iff :
    ofTable dialect table live = .ok difference ↔
      ∃ columns key indexes comment,
        table.columns.mapM (ofColumn dialect table live) = .ok columns ∧
        ofPrimaryKey dialect table live = .ok key ∧
        table.indexes.mapM (ofIndex dialect table live) = .ok indexes ∧
        ofTableComment dialect table live = .ok comment ∧
        difference = (columns ++ [key] ++ indexes ++ [comment]).foldl append {} := by
  unfold ofTable
  constructor
  · intro built
    obtain ⟨columns, first, built⟩ := bind_eq_ok.mp built
    obtain ⟨key, second, built⟩ := bind_eq_ok.mp built
    obtain ⟨indexes, third, built⟩ := bind_eq_ok.mp built
    obtain ⟨comment, fourth, same⟩ := bind_eq_ok.mp built
    exact ⟨columns, key, indexes, comment, first, second, third, fourth,
      (Except.ok.inj same).symm⟩
  · rintro ⟨columns, key, indexes, comment, first, second, third, fourth, rfl⟩
    refine bind_eq_ok.mpr ⟨columns, first, ?_⟩
    refine bind_eq_ok.mpr ⟨key, second, ?_⟩
    refine bind_eq_ok.mpr ⟨indexes, third, ?_⟩
    exact bind_eq_ok.mpr ⟨comment, fourth, rfl⟩

theorem definitions_foldl (parts : List Difference) :
    (parts.foldl append {}).definitions = parts.flatMap Difference.definitions := by
  rw [foldl_append_eq, definitions]
  exact (congrArg _ (List.nil_append _)).trans (flatMap_definitions parts)

theorem remainder_foldl (parts : List Difference) :
    (parts.foldl append {}).remainder = (parts.map remainder).foldl append {} := by
  rw [foldl_append_eq, foldl_append_eq, remainder]
  simp [List.flatMap_map, remainder]

/-- Steps for columns with other stored names keep the view of a column. -/
theorem view_afterAll_others {others : List (Column × Difference)}
    (stays : ∀ other ∈ others, other.2.StaysIn (some other.1.name))
    (apart : ∀ other ∈ others, dialect.stored other.1.name ≠ .ok name) (live : LiveTable) :
    (live.afterAll dialect (others.flatMap (·.2.definitions))).view name = live.view name := by
  refine LiveTable.view_afterAll_other (fun definition taken column about => ?_) live
  obtain ⟨other, member, taken⟩ := List.mem_flatMap.mp taken
  cases (stays other member definition taken).1 column about
  exact apart other member

/-- Once the steps for the columns are taken, and others that are about no column, the columns ask
for no more. -/
theorem mapM_ofColumn_after {columns : List Difference}
    (apart : dialect.StoredApart (table.columns.map Column.name))
    (built : table.columns.mapM (ofColumn dialect table live) = .ok columns)
    (others : ∀ definition ∈ definitions, definition.columnName? = none) :
    table.columns.mapM (ofColumn dialect table
        (live.afterAll dialect (columns.flatMap Difference.definitions ++ definitions))) =
      .ok (columns.map remainder) := by
  obtain ⟨pairs, firsts, rfl, each⟩ := exists_pairs_of_forall₂ (mapM_eq_ok_iff.mp built)
  have distinct := apart.nodup
  have stays : ∀ pair ∈ pairs, pair.2.StaysIn (some pair.1.name) := by
    intro pair member
    obtain ⟨name, stored, _⟩ := bind_eq_ok.mp (each pair member)
    exact ofColumn_staysIn stored (each pair member)
  rw [← firsts] at distinct ⊢
  rw [mapM_eq_ok_iff, List.map_map, List.forall₂_map_left_iff, List.forall₂_map_right_iff,
    List.forall₂_same, List.flatMap_map]
  intro pair member
  have own := each pair member
  obtain ⟨name, stored, _⟩ := bind_eq_ok.mp own
  obtain ⟨front, back, rfl⟩ := List.append_of_mem member
  -- the steps for the other columns are about other stored names
  have apart (other : Column × Difference) (inside : other ∈ front ++ back) :
      dialect.stored other.1.name ≠ .ok name := by
    rw [List.map_map, List.map_map, List.map_append, List.map_cons, List.nodup_middle,
      List.nodup_cons, ← List.map_append] at distinct
    intro same
    exact distinct.1 (List.mem_map.mpr ⟨other, inside, same.trans stored.symm⟩)
  have before : (live.afterAll dialect (front.flatMap (·.2.definitions))).view name =
      live.view name :=
    view_afterAll_others (fun other inside => stays other (List.mem_append_left _ inside))
      (fun other inside => apart other (List.mem_append_left _ inside)) live
  have behind (live : LiveTable) :
      (live.afterAll dialect (back.flatMap (·.2.definitions) ++ definitions)).view name =
        live.view name := by
    rw [LiveTable.afterAll_append]
    refine (LiveTable.view_afterAll_other (fun definition taken column about => ?_) _).trans
      (view_afterAll_others
        (fun other inside => stays other
          (List.mem_append_right _ (List.mem_cons_of_mem _ inside)))
        (fun other inside => apart other (List.mem_append_right _ inside)) live)
    rw [others definition taken] at about
    cases about
  rw [List.flatMap_append, List.flatMap_cons, List.append_assoc, List.append_assoc,
    LiveTable.afterAll_append, LiveTable.afterAll_append, ofColumn_congr stored (behind _)]
  exact ofColumn_after stored ((ofColumn_congr stored before).trans own)

/-- **A migration converges**: where a live table can be compared with a declared one whose columns
have different stored names, the steps of the comparison lead to a table for which the comparison
has no steps. It skips then what it skipped before, and nothing else. -/
theorem ofTable_converges (dialect : Dialect) (table : Table) (live : LiveTable)
    (apart : dialect.StoredApart (table.columns.map Column.name))
    {difference : Difference} (compared : ofTable dialect table live = .ok difference) :
    ofTable dialect table (live.afterAll dialect difference.definitions) =
      .ok { steps := [], skipped := difference.skipped } := by
  obtain ⟨columns, key, indexes, comment, first, second, third, fourth, parts⟩ :=
    ofTable_eq_ok_iff.mp compared
  have keyStays := ofPrimaryKey_staysIn second
  have indexStays : ∀ index ∈ indexes, index.StaysIn none := by
    intro index member
    obtain ⟨declared, _, built⟩ := exists_of_forall₂ (mapM_eq_ok_iff.mp third).flip member
    exact ofIndex_staysIn built
  have columnsStay : ∀ column ∈ columns, ∃ name, column.StaysIn name := by
    intro column member
    obtain ⟨declared, _, built⟩ := exists_of_forall₂ (mapM_eq_ok_iff.mp first).flip member
    obtain ⟨name, stored, _⟩ := bind_eq_ok.mp built
    exact ⟨_, ofColumn_staysIn stored built⟩
  have taken : difference.definitions = columns.flatMap Difference.definitions ++
      (key.definitions ++ (indexes.flatMap Difference.definitions ++ comment.definitions)) := by
    rw [parts, definitions_foldl]
    simp [List.flatMap_append]
  have others : ∀ definition ∈ key.definitions ++
      (indexes.flatMap Difference.definitions ++ comment.definitions),
        definition.columnName? = none := by
    have without {difference : Difference} (stays : difference.StaysIn none) :
        ∀ definition ∈ difference.definitions, definition.columnName? = none :=
      fun definition member => Option.eq_none_iff_forall_not_mem.mpr fun name about =>
        absurd ((stays definition member).1 name about) (by simp)
    refine List.forall_mem_append.mpr ⟨without keyStays, List.forall_mem_append.mpr
      ⟨fun definition member => ?_, ofTableComment_columnName? fourth⟩⟩
    obtain ⟨index, listed, member⟩ := List.mem_flatMap.mp member
    exact without (indexStays index listed) definition member
  have only : ∀ name written, .commentTable name written ∈ difference.definitions →
      .commentTable name written ∈ comment.definitions := by
    intro name written member
    rw [taken, List.mem_append, List.mem_append, List.mem_append, List.mem_flatMap,
      List.mem_flatMap] at member
    rcases member with ⟨column, listed, member⟩ | member | ⟨index, listed, member⟩ | member
    · obtain ⟨_, stays⟩ := columnsStay column listed
      exact absurd rfl ((stays _ member).2 name written)
    · exact absurd rfl ((keyStays _ member).2 name written)
    · exact absurd rfl ((indexStays index listed _ member).2 name written)
    · exact member
  refine ofTable_eq_ok_iff.mpr ⟨columns.map remainder, key.remainder, indexes.map remainder,
    comment.remainder, ?_, ofPrimaryKey_after second ?_, ?_,
    ofTableComment_after fourth ?_ only, ?_⟩
  · rw [taken]
    exact mapM_ofColumn_after apart first others
  · rw [taken]
    intro definition member
    simp [member]
  · refine mapM_ofIndex_after third fun definition member => ?_
    rw [taken]
    exact List.mem_append_right _ (List.mem_append_right _ (List.mem_append_left _ member))
  · rw [taken]
    intro definition member
    simp [member]
  · have left := congrArg remainder parts
    rw [remainder_foldl, List.map_append, List.map_append, List.map_append] at left
    exact left

/-- A table that lacks a column, its key, an index and comments, with one column that is too small
and one that is larger than declared. -/
theorem ofTable_converges_narrowing :
    let table : Table :=
      { name := "Items"
        columns :=
          [{ name := "id", fieldType := .int64, identity := true, nullable := false },
            { name := "title", fieldType := .string, size := some 100, comment := some "it's" },
            { name := "code", fieldType := .string, size := some 5, nullable := false },
            { name := "sold", fieldType := .bool, comment := some "" }]
        primaryKey := some { columns := ["ID"] }
        indexes := [{ name := "by title", columns := ["title"] }]
        comment := some "goods" }
    let live : LiveTable :=
      { columns :=
          [⟨"ID", .number (some 19) none, false⟩, ⟨"TITLE", .varchar 50, false⟩,
            ⟨"CODE", .varchar 9, true⟩] }
    ∃ difference, ofTable {} table live = .ok difference ∧ difference.steps.length = 8 ∧
      difference.skipped =
        [⟨"Items", "code", .narrowing (.varchar 9) (.varchar 5)⟩, ⟨"Items", "code", .tightening⟩] ∧
      ofTable {} table (live.afterAll {} difference.definitions) =
        .ok { steps := [], skipped := difference.skipped } := by
  intro table live
  have compared : (ofTable {} table live).map
      (fun difference => (difference.steps.length, difference.skipped)) =
        .ok (8, [⟨"Items", "code", .narrowing (.varchar 9) (.varchar 5)⟩,
          ⟨"Items", "code", .tightening⟩]) := by
    decide +kernel
  obtain ⟨difference, built, found⟩ := map_eq_ok.mp compared
  simp only [Prod.mk.injEq] at found
  have apart : ({} : Dialect).StoredApart (table.columns.map Column.name) :=
    ⟨by decide +kernel, by decide +kernel⟩
  exact ⟨difference, built, found.1, found.2, ofTable_converges {} table live apart built⟩

end Difference

end OracleSql
