/-
This file says what a definition does to a table when it takes effect, as the dictionary shows it
afterwards: a column is added with its declared type, or a column that is there is changed; the name
of a key, a constraint or an index is added; a comment takes the place of the earlier one. Sequences
and triggers do not show in the table they belong to.

What the dictionary says about one column, its `view`, is changed by the definitions of this column
only, and names of constraints and indexes are never taken away.
-/

import OracleSql.Migration.Difference
import OracleSql.Proofs.Outcome
import Mathlib.Data.List.Nodup

namespace OracleSql

/-- All of these are names, and no two of them are the same. -/
structure DistinctNames (names : List (Except Error String)) : Prop where
  known : ∀ name ∈ names, name.isOk = true
  nodup : names.Nodup

/-- The names have stored spellings, and no two of them have the same. -/
def Dialect.StoredApart (dialect : Dialect) (names : List String) : Prop :=
  DistinctNames (names.map dialect.stored)

theorem DistinctNames.exists_name {names : List (Except Error String)}
    (distinct : DistinctNames names) {name : Except Error String} (member : name ∈ names) :
    ∃ spelling, name = .ok spelling :=
  exists_of_isOk (distinct.known name member)

namespace LiveTable

/-! ### What definitions do -/

/-- The table with a change of the column of this stored name. -/
def changeColumn (live : LiveTable) (name : String) (change : LiveColumn → LiveColumn) :
    LiveTable :=
  { live with
    columns := live.columns.map fun column => if column.name = name then change column else column }

/-- The table with the comment of a column instead of an earlier one. -/
def commentColumn (live : LiveTable) (name comment : String) : LiveTable :=
  { live with
    columnComments := (name, comment) :: live.columnComments.filter fun entry => entry.1 != name }

/-- The table with a change for a stored name; a name without a stored spelling changes nothing. -/
def forStored (live : LiveTable) (name : Except Error String) (change : String → LiveTable) :
    LiveTable :=
  match name with
  | .ok stored => change stored
  | .error _ => live

/-- The table after a definition has taken effect on it. The index that keeps a primary key has the
name of its constraint. Definitions that no migration plans by itself are left out. -/
def after (dialect : Dialect) (live : LiveTable) : Definition → LiveTable
  | .addColumn table column => live.forStored (dialect.stored column.name) fun name =>
    { live with
      columns := live.columns ++ [⟨name, dialect.typeOf column, table.allowsNull column⟩] }
  | .modifyType _ column columnType => live.forStored (dialect.stored column) fun name =>
    live.changeColumn name fun column => { column with columnType }
  | .modifyNullness _ column nullable => live.forStored (dialect.stored column) fun name =>
    live.changeColumn name fun column => { column with nullable }
  | .addPrimaryKey table key => live.forStored (dialect.primaryKeyName table key) fun name =>
    { live with constraints := name :: live.constraints, indexes := name :: live.indexes }
  | .addForeignKey _ key => live.forStored (dialect.stored key.name) fun name =>
    { live with constraints := name :: live.constraints }
  | .createIndex _ index => live.forStored (dialect.stored index.name) fun name =>
    { live with indexes := name :: live.indexes }
  | .commentTable _ comment => { live with comment := some comment }
  | .commentColumn _ column comment => live.forStored (dialect.stored column) fun name =>
    live.commentColumn name comment
  | _ => live

/-- The table after definitions have taken effect on it, one after the other. -/
def afterAll (dialect : Dialect) (live : LiveTable) (definitions : List Definition) : LiveTable :=
  definitions.foldl (after dialect) live

variable {dialect : Dialect} {live : LiveTable} {definition : Definition}
  {definitions : List Definition} {name other : String}

theorem afterAll_cons (live : LiveTable) (definition : Definition) (rest : List Definition) :
    live.afterAll dialect (definition :: rest) = (live.after dialect definition).afterAll dialect
      rest := rfl

theorem afterAll_append (live : LiveTable) (first second : List Definition) :
    live.afterAll dialect (first ++ second) =
      (live.afterAll dialect first).afterAll dialect second :=
  List.foldl_append

/-- What each of the definitions keeps is kept by all. -/
theorem afterAll_keeps (property : LiveTable → Prop)
    (each : ∀ definition ∈ definitions, ∀ live, property live →
      property (live.after dialect definition))
    (live : LiveTable) (holds : property live) : property (live.afterAll dialect definitions) := by
  induction definitions generalizing live with
  | nil => exact holds
  | cons definition rest inductionHypothesis =>
    obtain ⟨first, others⟩ := List.forall_mem_cons.mp each
    exact inductionHypothesis others _ (first live holds)

/-! ### Columns and their comments -/

/-- What the dictionary says about the column of this stored name. -/
def view (live : LiveTable) (name : String) : Option LiveColumn × Option String :=
  (live.column? name, live.columnComment? name)

theorem view_eq_iff {live : LiveTable} {name : String} {column : Option LiveColumn}
    {comment : Option String} :
    live.view name = (column, comment) ↔
      live.column? name = column ∧ live.columnComment? name = comment :=
  Iff.of_eq (Prod.mk.injEq _ _ _ _)

theorem view_changeColumn (live : LiveTable) (name : String) {change : LiveColumn → LiveColumn}
    (kept : ∀ column, (change column).name = column.name) :
    (live.changeColumn name change).view name =
      ((live.column? name).map change, live.columnComment? name) := by
  have found : (live.changeColumn name change).column? name = (live.column? name).map change := by
    unfold changeColumn column?
    dsimp only
    induction live.columns with
    | nil => rfl
    | cons column rest inductionHypothesis =>
      by_cases same : column.name = name
      · simp [same, kept]
      · simpa [same, kept] using inductionHypothesis
  exact Prod.ext found rfl

theorem view_changeColumn_other (live : LiveTable) {change : LiveColumn → LiveColumn}
    (kept : ∀ column, (change column).name = column.name) (differs : other ≠ name) :
    (live.changeColumn other change).view name = live.view name := by
  have found : (live.changeColumn other change).column? name = live.column? name := by
    unfold changeColumn column?
    dsimp only
    induction live.columns with
    | nil => rfl
    | cons column rest inductionHypothesis =>
      by_cases same : column.name = other
      · have apart : column.name ≠ name := same ▸ differs
        simpa [same, kept, apart, differs] using inductionHypothesis
      · simp only [List.map_cons, if_neg same, List.find?_cons, inductionHypothesis]
  exact Prod.ext found rfl

theorem view_commentColumn (live : LiveTable) (name comment : String) :
    (live.commentColumn name comment).view name = (live.column? name, some comment) := by
  simp [commentColumn, view, column?, columnComment?]

theorem view_commentColumn_other (live : LiveTable) (comment : String) (differs : other ≠ name) :
    (live.commentColumn other comment).view name = live.view name := by
  have found : (live.commentColumn other comment).columnComment? name =
      live.columnComment? name := by
    unfold commentColumn columnComment?
    dsimp only
    rw [List.find?_cons_of_neg (by simpa using differs), List.find?_filter]
    congr 2
    funext entry
    by_cases same : entry.1 = name
    · simp [same, differs.symm]
    · simp [same]
  exact Prod.ext rfl found

end LiveTable

/-- The declared name of the column that a definition is about. -/
def Definition.columnName? : Definition → Option String
  | addColumn _ column => some column.name
  | modifyType _ column _ => some column
  | modifyNullness _ column _ => some column
  | commentColumn _ column _ => some column
  | _ => none

namespace LiveTable

variable {dialect : Dialect} {live : LiveTable} {definition : Definition}
  {definitions : List Definition} {name other : String}

/-- What holds of the table and of the changed one holds after a change for a stored name. -/
theorem forStored_holds (property : LiveTable → Prop) {outcome : Except Error String}
    {change : String → LiveTable} (holds : property live)
    (changed : ∀ stored, outcome = .ok stored → property (change stored)) :
    property (live.forStored outcome change) := by
  cases outcome with
  | error failure => exact holds
  | ok stored => exact changed stored rfl

/-- A definition keeps what the dictionary says about the columns it is not about. -/
theorem view_after_other
    (differs : ∀ column, definition.columnName? = some column → dialect.stored column ≠ .ok name) :
    (live.after dialect definition).view name = live.view name := by
  have apart {column other : String} (about : definition.columnName? = some column)
      (stored : dialect.stored column = .ok other) : other ≠ name := by
    rintro rfl
    exact differs column about stored
  cases definition with
  | addColumn table column =>
    refine forStored_holds (view · name = _) rfl fun other stored => ?_
    have found : (live.columns ++
        [(⟨other, dialect.typeOf column, table.allowsNull column⟩ : LiveColumn)]).find?
          (·.name == name) = live.columns.find? (·.name == name) := by
      rw [List.find?_append, List.find?_singleton, if_neg (by simpa using apart rfl stored),
        Option.or_none]
    exact Prod.ext found rfl
  | modifyType table column columnType =>
    exact forStored_holds (view · name = _) rfl fun other stored =>
      view_changeColumn_other live (fun _ => rfl) (apart rfl stored)
  | modifyNullness table column nullable =>
    exact forStored_holds (view · name = _) rfl fun other stored =>
      view_changeColumn_other live (fun _ => rfl) (apart rfl stored)
  | commentColumn table column comment =>
    exact forStored_holds (view · name = _) rfl fun other stored =>
      view_commentColumn_other live comment (apart rfl stored)
  | addPrimaryKey _ _ | addForeignKey _ _ | createIndex _ _ =>
    exact forStored_holds (view · name = _) rfl fun _ _ => rfl
  | _ => rfl

/-- A column that was not there is there as it was declared. -/
theorem view_addColumn {column : Column} (table : Table)
    (stored : dialect.stored column.name = .ok name) (absent : live.column? name = none) :
    (live.after dialect (.addColumn table column)).view name =
      (some ⟨name, dialect.typeOf column, table.allowsNull column⟩, live.columnComment? name) := by
  have found : live.columns.find? (·.name == name) = none := absent
  simp only [after, stored, forStored, view, column?, List.find?_append, found,
    List.find?_singleton, beq_self_eq_true, if_true, Option.none_or]
  rfl

theorem view_afterAll_other
    (differs : ∀ definition ∈ definitions, ∀ column, definition.columnName? = some column →
      dialect.stored column ≠ .ok name) (live : LiveTable) :
    (live.afterAll dialect definitions).view name = live.view name :=
  afterAll_keeps (view · name = live.view name)
    (fun definition member _ same => (view_after_other (differs definition member)).trans same)
    live rfl

/-- The definition adds a column or changes one. -/
def altersColumns : Definition → Bool
  | .addColumn _ _ => true
  | .modifyType _ _ _ => true
  | .modifyNullness _ _ _ => true
  | _ => false

/-- No other definition changes the columns. -/
theorem columns_after_other (live : LiveTable) (other : altersColumns definition = false) :
    (live.after dialect definition).columns = live.columns := by
  cases definition with
  | addColumn _ _ | modifyType _ _ _ | modifyNullness _ _ _ => cases other
  | commentColumn _ _ _ | addPrimaryKey _ _ | addForeignKey _ _ | createIndex _ _ =>
    exact forStored_holds (·.columns = live.columns) rfl fun _ _ => rfl
  | _ => rfl

theorem columns_afterAll_others
    (others : ∀ definition ∈ definitions, altersColumns definition = false) (live : LiveTable) :
    (live.afterAll dialect definitions).columns = live.columns :=
  afterAll_keeps (·.columns = live.columns)
    (fun definition member later kept =>
      (columns_after_other later (others definition member)).trans kept) live rfl

/-! ### Comments of columns -/

/-- No other definition changes the comment of a column. -/
theorem columnComment?_after_other (live : LiveTable)
    (differs : ∀ table column comment, definition = .commentColumn table column comment →
      dialect.stored column ≠ .ok name) :
    (live.after dialect definition).columnComment? name = live.columnComment? name := by
  cases definition with
  | commentColumn table column comment =>
    refine forStored_holds (columnComment? · name = _) rfl fun other stored => ?_
    refine (view_eq_iff.mp (view_commentColumn_other live comment ?_)).2
    rintro rfl
    exact differs table column comment rfl stored
  | addColumn _ _ | modifyType _ _ _ | modifyNullness _ _ _ | addPrimaryKey _ _
  | addForeignKey _ _ | createIndex _ _ =>
    exact forStored_holds (columnComment? · name = _) rfl fun _ _ => rfl
  | _ => rfl

theorem columnComment?_after_self {table column comment : String} (live : LiveTable)
    (stored : dialect.stored column = .ok name) :
    (live.after dialect (.commentColumn table column comment)).columnComment? name =
      some comment := by
  simp only [after, stored, forStored]
  exact (view_eq_iff.mp (view_commentColumn live name comment)).2

/-- A column keeps its comment where no definition sets another one. -/
theorem columnComment?_afterAll_keeps {comment : Option String}
    (only : ∀ table column other, .commentColumn table column other ∈ definitions →
      dialect.stored column = .ok name → some other = comment)
    (holds : live.columnComment? name = comment) :
    (live.afterAll dialect definitions).columnComment? name = comment := by
  refine afterAll_keeps (columnComment? · name = comment)
    (fun definition member later kept => ?_) live holds
  by_cases sets : ∃ table column other, definition = .commentColumn table column other ∧
      dialect.stored column = .ok name
  · obtain ⟨table, column, other, rfl, stored⟩ := sets
    exact (columnComment?_after_self later stored).trans (only table column other member stored)
  · simp only [not_exists, not_and] at sets
    exact (columnComment?_after_other later sets).trans kept

/-- A column has the only comment that definitions set. -/
theorem columnComment?_afterAll_of_mem {table column comment : String}
    (stored : dialect.stored column = .ok name)
    (only : ∀ table column other, .commentColumn table column other ∈ definitions →
      dialect.stored column = .ok name → other = comment)
    (member : .commentColumn table column comment ∈ definitions) (live : LiveTable) :
    (live.afterAll dialect definitions).columnComment? name = some comment := by
  obtain ⟨earlier, later, rfl⟩ := List.append_of_mem member
  rw [afterAll_append, afterAll_cons]
  refine columnComment?_afterAll_keeps (fun table column other inside same => congrArg some ?_)
    (columnComment?_after_self _ stored)
  exact only table column other (List.mem_append_right _ (List.mem_cons_of_mem _ inside)) same

/-! ### Names of constraints and indexes -/

/-- The definition adds a constraint of this stored name. -/
def addsConstraint (dialect : Dialect) (name : String) : Definition → Prop
  | .addPrimaryKey table key => dialect.primaryKeyName table key = .ok name
  | .addForeignKey _ key => dialect.stored key.name = .ok name
  | _ => False

/-- The definition adds an index of this stored name. -/
def addsIndex (dialect : Dialect) (name : String) : Definition → Prop
  | .addPrimaryKey table key => dialect.primaryKeyName table key = .ok name
  | .createIndex _ index => dialect.stored index.name = .ok name
  | _ => False

theorem mem_forStored {outcome : Except Error String} {change : String → LiveTable}
    {names : LiveTable → List String}
    (changed : ∀ stored, names (change stored) = stored :: names live) :
    name ∈ names (live.forStored outcome change) ↔ name ∈ names live ∨ outcome = .ok name := by
  cases outcome with
  | error failure => simp [forStored]
  | ok stored => simp [forStored, changed, or_comm, eq_comm]

theorem mem_constraints_after :
    name ∈ (live.after dialect definition).constraints ↔
      name ∈ live.constraints ∨ addsConstraint dialect name definition := by
  have unchanged : name ∈ live.constraints ↔ name ∈ live.constraints ∨ False :=
    (or_iff_left not_false).symm
  cases definition with
  | addPrimaryKey _ _ | addForeignKey _ _ => exact mem_forStored fun _ => rfl
  | addColumn _ _ | modifyType _ _ _ | modifyNullness _ _ _ | commentColumn _ _ _
  | createIndex _ _ =>
    exact forStored_holds (name ∈ ·.constraints ↔ _) unchanged fun _ _ => unchanged
  | _ => exact unchanged

theorem mem_indexes_after :
    name ∈ (live.after dialect definition).indexes ↔
      name ∈ live.indexes ∨ addsIndex dialect name definition := by
  have unchanged : name ∈ live.indexes ↔ name ∈ live.indexes ∨ False :=
    (or_iff_left not_false).symm
  cases definition with
  | addPrimaryKey _ _ | createIndex _ _ => exact mem_forStored fun _ => rfl
  | addColumn _ _ | modifyType _ _ _ | modifyNullness _ _ _ | commentColumn _ _ _
  | addForeignKey _ _ =>
    exact forStored_holds (name ∈ ·.indexes ↔ _) unchanged fun _ _ => unchanged
  | _ => exact unchanged

/-- Names to which each definition adds some are those from before and those that were added. -/
theorem mem_afterAll {names : LiveTable → List String} {adds : Definition → Prop}
    (step : ∀ live definition, name ∈ names (live.after dialect definition) ↔
      name ∈ names live ∨ adds definition) :
    name ∈ names (live.afterAll dialect definitions) ↔
      name ∈ names live ∨ ∃ definition ∈ definitions, adds definition := by
  induction definitions generalizing live with
  | nil => simp [afterAll]
  | cons definition rest inductionHypothesis =>
    rw [afterAll_cons, inductionHypothesis, step, List.exists_mem_cons_iff, or_assoc]

theorem mem_constraints_afterAll :
    name ∈ (live.afterAll dialect definitions).constraints ↔
      name ∈ live.constraints ∨
        ∃ definition ∈ definitions, addsConstraint dialect name definition :=
  mem_afterAll fun _ _ => mem_constraints_after

theorem mem_indexes_afterAll :
    name ∈ (live.afterAll dialect definitions).indexes ↔
      name ∈ live.indexes ∨ ∃ definition ∈ definitions, addsIndex dialect name definition :=
  mem_afterAll fun _ _ => mem_indexes_after

/-! ### The comment of the table -/

/-- No other definition changes the comment of the table. -/
theorem comment_after_other (live : LiveTable)
    (differs : ∀ table comment, definition ≠ .commentTable table comment) :
    (live.after dialect definition).comment = live.comment := by
  cases definition with
  | commentTable table comment => exact absurd rfl (differs table comment)
  | addColumn _ _ | modifyType _ _ _ | modifyNullness _ _ _ | commentColumn _ _ _
  | addPrimaryKey _ _ | addForeignKey _ _ | createIndex _ _ =>
    exact forStored_holds (·.comment = live.comment) rfl fun _ _ => rfl
  | _ => rfl

/-- The table keeps its comment where no definition sets another one. -/
theorem comment_afterAll_keeps {comment : Option String}
    (only : ∀ table other, .commentTable table other ∈ definitions → some other = comment)
    (holds : live.comment = comment) : (live.afterAll dialect definitions).comment = comment := by
  refine afterAll_keeps (·.comment = comment) (fun definition member later kept => ?_) live holds
  by_cases sets : ∃ table other, definition = .commentTable table other
  · obtain ⟨table, other, rfl⟩ := sets
    exact only table other member
  · simp only [not_exists] at sets
    exact (comment_after_other later sets).trans kept

/-- The table has the only comment that definitions set. -/
theorem comment_afterAll_of_mem {table comment : String}
    (only : ∀ table other, .commentTable table other ∈ definitions → other = comment)
    (member : .commentTable table comment ∈ definitions) (live : LiveTable) :
    (live.afterAll dialect definitions).comment = some comment := by
  obtain ⟨earlier, later, rfl⟩ := List.append_of_mem member
  rw [afterAll_append, afterAll_cons]
  refine comment_afterAll_keeps (fun table other inside => congrArg some ?_) rfl
  exact only table other (List.mem_append_right _ (List.mem_cons_of_mem _ inside))

end LiveTable

end OracleSql
