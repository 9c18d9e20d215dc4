/-
This file proves that the steps of a plan stand in an order in which they can be carried out. A
sequence is made before the column that it numbers, and a trigger after it; a key, an index, a
change or a comment comes after the table and the columns that it is about, where the plan makes
them; and foreign keys come after all else, one for each that is declared and not there. Nothing is
made twice.

A definition makes objects and awaits others. The definitions of one table touch only objects of
this table, and those of one column that is compared only objects of this column or the table
itself. So it is enough to look at what is made for one table or one column at a time.
-/

import OracleSql.Proofs.Migration.Numbering

namespace OracleSql

/-! ### What definitions make and await -/

/-- An object of a schema: a table or a column under its stored name, or the sequence of a declared
column. -/
inductive SchemaObject where
  | table (table : StoredTable)
  | column (table : StoredTable) (name : String)
  | sequence (tableName columnName : String)

namespace Definition

/-- The columns that a definition brings into being. -/
def madeColumns : Definition → List Column
  | createTable table => table.columns
  | addColumn _ column => [column]
  | _ => []

/-- The declared name of the one column that a definition finds or changes. -/
def foundColumn? : Definition → Option String
  | createTrigger _ column => some column
  | modifyType _ column _ => some column
  | modifyNullness _ column _ => some column
  | commentColumn _ column _ => some column
  | _ => none

/-- Whether a definition lists columns of its table. -/
def listsColumns : Definition → Bool
  | createIndex _ _ => true
  | addPrimaryKey _ _ => true
  | addForeignKey _ _ => true
  | _ => false

/-- Whether a definition is about a table that is there. -/
def isOnTable : Definition → Bool
  | createSequence _ _ => false
  | createTable _ => false
  | _ => true

/-- Whether a definition brings something into being that others await. -/
def creates : Definition → Bool
  | createSequence _ _ => true
  | createTable _ => true
  | addColumn _ _ => true
  | _ => false

/-- Whether a definition adds a foreign key. -/
def isForeignKey : Definition → Bool
  | addForeignKey _ _ => true
  | _ => false

/-- The definition is about the table, and is none of a foreign key. -/
def IsPartOf (tableName : String) (definition : Definition) : Prop :=
  definition.table = tableName ∧ definition.isForeignKey = false

/-- The definition makes the object. -/
inductive Makes (dialect : Dialect) : Definition → SchemaObject → Prop
  | table {table : Table} {stored : StoredTable}
    (named : dialect.storedTable table.name = .ok stored) :
    Makes dialect (.createTable table) (.table stored)
  | column {definition : Definition} {column : Column} {stored : StoredTable} {name : String}
    (named : dialect.storedTable definition.table = .ok stored)
    (listed : column ∈ definition.madeColumns) (kept : dialect.stored column.name = .ok name) :
    Makes dialect definition (.column stored name)
  | sequence {tableName columnName : String} :
    Makes dialect (.createSequence tableName columnName) (.sequence tableName columnName)

/-- The definition is to come after what makes the object: the table and the column that it is
about, and the sequence of a column. Keys and indexes list columns in letters of any case, so they
are to come after every column of their table. -/
inductive Awaits (dialect : Dialect) : Definition → SchemaObject → Prop
  | table {definition : Definition} {stored : StoredTable} (on : definition.isOnTable = true)
    (named : dialect.storedTable definition.table = .ok stored) :
    Awaits dialect definition (.table stored)
  | column {definition : Definition} {columnName : String} {stored : StoredTable} {name : String}
    (named : dialect.storedTable definition.table = .ok stored)
    (about : definition.foundColumn? = some columnName)
    (kept : dialect.stored columnName = .ok name) :
    Awaits dialect definition (.column stored name)
  | columns {definition : Definition} {stored : StoredTable} {name : String}
    (named : dialect.storedTable definition.table = .ok stored)
    (lists : definition.listsColumns = true) : Awaits dialect definition (.column stored name)
  | numbered {definition : Definition} {column : Column} (listed : column ∈ definition.madeColumns)
    (identity : column.identity = true) :
    Awaits dialect definition (.sequence definition.table column.name)
  | trigger {tableName columnName : String} :
    Awaits dialect (.createTrigger tableName columnName) (.sequence tableName columnName)

/-- The definition makes the object or awaits it. -/
def Touches (dialect : Dialect) (definition : Definition) (object : SchemaObject) : Prop :=
  definition.Makes dialect object ∨ definition.Awaits dialect object

/-- The later definition makes nothing that the earlier one has made or awaits. -/
def Precedes (dialect : Dialect) (earlier later : Definition) : Prop :=
  ∀ object, later.Makes dialect object → ¬earlier.Touches dialect object

variable {dialect : Dialect} {definition earlier later : Definition} {object : SchemaObject}

theorem Makes.creates (makes : definition.Makes dialect object) : definition.creates = true := by
  cases makes with
  | table => rfl
  | column named listed kept =>
    cases definition with
    | createTable | addColumn => rfl
    | _ => cases listed
  | sequence => rfl

/-- A definition that makes nothing can come last. -/
theorem precedes_of_idle (idle : later.creates = false) : earlier.Precedes dialect later := by
  intro object makes
  cases makes.creates.symm.trans idle

theorem creates_of_furnishes (furnishes : definition.furnishes = true) :
    definition.creates = false := by
  cases definition <;> first | rfl | cases furnishes

end Definition

namespace SchemaObject

variable {dialect : Dialect} {object : SchemaObject}

/-- The object is the declared table or belongs to it. -/
def BelongsTo (dialect : Dialect) (tableName : String) : SchemaObject → Prop
  | table stored => dialect.storedTable tableName = .ok stored
  | column stored _ => dialect.storedTable tableName = .ok stored
  | sequence name _ => name = tableName

/-- No object belongs to two tables. -/
theorem BelongsTo.storedTable_eq {first second : String}
    (one : object.BelongsTo dialect first) (other : object.BelongsTo dialect second) :
    dialect.storedTable first = dialect.storedTable second := by
  cases object with
  | table stored | column stored name => exact Eq.trans one other.symm
  | sequence name columnName => rw [← show name = first from one, ← show name = second from other]

/-- The object is the declared column or its sequence, or a table. -/
def IsAbout (dialect : Dialect) (columnName : String) : SchemaObject → Prop
  | table _ => True
  | column _ name => dialect.stored columnName = .ok name
  | sequence _ name => name = columnName

/-- Only a table has to do with two columns. -/
theorem IsAbout.stored_eq {first second : String} (one : object.IsAbout dialect first)
    (other : object.IsAbout dialect second) (part : ∀ stored, object ≠ .table stored) :
    dialect.stored first = dialect.stored second := by
  cases object with
  | table stored => exact absurd rfl (part stored)
  | column stored name => exact Eq.trans one other.symm
  | sequence tableName name => rw [← show name = first from one, ← show name = second from other]

end SchemaObject

namespace Definition

variable {dialect : Dialect} {definition : Definition} {object : SchemaObject}

/-- A definition touches only objects of its own table. -/
theorem Touches.belongsTo (touches : definition.Touches dialect object) :
    object.BelongsTo dialect definition.table := by
  rcases touches with makes | awaits
  · cases makes with
    | table named => exact named
    | column named => exact named
    | sequence => rfl
  · cases awaits with
    | table _ named => exact named
    | column named => exact named
    | columns named => exact named
    | numbered => rfl
    | trigger => rfl

/-- Definitions of different tables do not touch the same objects. -/
theorem precedes_of_apart {earlier later : Definition}
    (apart : dialect.storedTable earlier.table ≠ dialect.storedTable later.table) :
    earlier.Precedes dialect later := by
  intro object makes touches
  exact apart (touches.belongsTo.storedTable_eq (Touches.belongsTo (.inl makes)))

end Definition

/-! ### What is made -/

section Creation

variable {dialect : Dialect} {tableName : String} {columns : List Column} {creation : Definition}
  {front back : List Definition}

/-- Definitions that make nothing can come last. -/
theorem pairwise_append_idle (ordered : front.Pairwise (Definition.Precedes dialect))
    (idle : ∀ definition ∈ back, definition.creates = false) :
    (front ++ back).Pairwise (Definition.Precedes dialect) := by
  refine List.pairwise_append.mpr ⟨ordered, ?_, ?_⟩
  · exact List.pairwise_of_forall_mem_list fun _ _ later member =>
      Definition.precedes_of_idle (idle later member)
  · exact fun _ _ later member => Definition.precedes_of_idle (idle later member)

theorem Definition.touches_createSequence {columnName : String} {object : SchemaObject}
    (touches : (createSequence tableName columnName).Touches dialect object) :
    object = .sequence tableName columnName := by
  rcases touches with makes | awaits
  · cases makes with
    | column _ listed => cases listed
    | sequence => rfl
  · cases awaits with
    | table on => cases on
    | column _ about => cases about
    | columns _ lists => cases lists
    | numbered listed => cases listed

/-- The definitions before a creation and after it are in order. -/
theorem Dialect.pairwise_creation (apart : (columns.map Column.name).Nodup)
    (other : ∀ tableName columnName, creation ≠ .createSequence tableName columnName) :
    (dialect.creationDefinitions tableName columns creation).Pairwise
      (Definition.Precedes dialect) := by
  rw [creationDefinitions, List.append_cons]
  refine pairwise_append_idle (List.pairwise_append.mpr ⟨?_, List.pairwise_singleton _ _, ?_⟩) ?_
  · refine List.pairwise_flatMap.mpr ⟨fun column _ => ?_, ?_⟩
    · unfold Column.sequenceDefinitions
      split
      · exact List.pairwise_singleton _ _
      · exact List.Pairwise.nil
    · refine (List.pairwise_map.mp apart).imp fun {first second} differs => ?_
      intro earlier made later follows object makes touches
      rw [(Column.mem_sequenceDefinitions.mp made).2] at touches
      rw [(Column.mem_sequenceDefinitions.mp follows).2] at makes
      have same := (Definition.touches_createSequence touches).symm.trans
        (Definition.touches_createSequence (.inl makes))
      injection same with _ same
      exact differs same
  · intro earlier member later created object makes touches
    obtain ⟨column, _, made⟩ := List.mem_flatMap.mp member
    rw [(Column.mem_sequenceDefinitions.mp made).2] at touches
    rw [List.mem_singleton.mp created] at makes
    cases Definition.touches_createSequence touches
    cases makes
    exact other _ _ rfl
  · intro definition member
    obtain ⟨column, _, made⟩ := List.mem_flatMap.mp member
    rw [(mem_triggerDefinitions.mp made).2.2]
    rfl

/-- Each numbered column that is made has its sequence before it, and after it its trigger, where
triggers number the columns. -/
def Numbered (dialect : Dialect) (definitions : List Definition) : Prop :=
  ∀ creation ∈ definitions, ∀ column ∈ creation.madeColumns, column.identity = true →
    [.createSequence creation.table column.name, creation].Sublist definitions ∧
      (dialect.identity = .trigger →
        [creation, .createTrigger creation.table column.name].Sublist definitions)

theorem Definition.creates_of_mem_madeColumns {definition : Definition} {column : Column}
    (member : column ∈ definition.madeColumns) : definition.creates = true := by
  cases definition with
  | createTable | addColumn => rfl
  | _ => cases member

namespace Numbered

theorem of_idle (idle : ∀ definition ∈ back, definition.creates = false) :
    Numbered dialect back := by
  intro creation member column made
  cases (idle creation member).symm.trans (Definition.creates_of_mem_madeColumns made)

theorem append (first : Numbered dialect front) (second : Numbered dialect back) :
    Numbered dialect (front ++ back) := by
  intro creation member column made identity
  rcases List.mem_append.mp member with member | member
  · obtain ⟨sequence, trigger⟩ := first creation member column made identity
    have part := List.sublist_append_left front back
    exact ⟨sequence.trans part, fun strategy => (trigger strategy).trans part⟩
  · obtain ⟨sequence, trigger⟩ := second creation member column made identity
    have part := List.sublist_append_right front back
    exact ⟨sequence.trans part, fun strategy => (trigger strategy).trans part⟩

theorem flatMap {α : Type} {items : List α} {members : α → List Definition}
    (each : ∀ item ∈ items, Numbered dialect (members item)) :
    Numbered dialect (items.flatMap members) := by
  induction items with
  | nil => exact of_idle (List.forall_mem_nil _)
  | cons item rest inductionHypothesis =>
    obtain ⟨first, others⟩ := List.forall_mem_cons.mp each
    rw [List.flatMap_cons]
    exact first.append (inductionHypothesis others)

/-- What is made between sequences and triggers is numbered. -/
theorem of_creation (creation : Definition) (own : creation.table = tableName)
    (made : creation.madeColumns = columns) :
    Numbered dialect (dialect.creationDefinitions tableName columns creation) := by
  subst own made
  intro definition member column listed identity
  have same : definition = creation := by
    rcases List.mem_append.mp member with sequence | member
    · obtain ⟨_, _, inside⟩ := List.mem_flatMap.mp sequence
      rw [(Column.mem_sequenceDefinitions.mp inside).2] at listed
      cases listed
    · rcases List.mem_cons.mp member with same | trigger
      · exact same
      · obtain ⟨_, _, inside⟩ := List.mem_flatMap.mp trigger
        rw [(Dialect.mem_triggerDefinitions.mp inside).2.2] at listed
        cases listed
  subst same
  have sequence : .createSequence definition.table column.name ∈
      definition.madeColumns.flatMap (·.sequenceDefinitions definition.table) :=
    List.mem_flatMap.mpr ⟨column, listed, Column.mem_sequenceDefinitions.mpr ⟨identity, rfl⟩⟩
  refine ⟨?_, fun strategy => ?_⟩
  · exact (List.singleton_sublist.mpr sequence).append
      (List.singleton_sublist.mpr List.mem_cons_self)
  · have trigger : .createTrigger definition.table column.name ∈
        definition.madeColumns.flatMap (dialect.triggerDefinitions definition.table) :=
      List.mem_flatMap.mpr ⟨column, listed,
        Dialect.mem_triggerDefinitions.mpr ⟨identity, strategy, rfl⟩⟩
    exact List.sublist_append_of_sublist_right ((List.singleton_sublist.mpr trigger).cons_cons _)

end Numbered

end Creation

/-! ### What is planned for a column -/

/-- The definitions that may be planned for a column of a table that is there. -/
inductive Definition.Treats (table : Table) (column : Column) : Definition → Prop
  | sequence : Treats table column (.createSequence table.name column.name)
  | addition : Treats table column (.addColumn table column)
  | trigger : Treats table column (.createTrigger table.name column.name)
  | type (columnType : ColumnType) :
    Treats table column (.modifyType table.name column.name columnType)
  | nullness (nullable : Bool) :
    Treats table column (.modifyNullness table.name column.name nullable)
  | comment (content : String) : Treats table column (.commentColumn table.name column.name content)

namespace Definition.Treats

variable {dialect : Dialect} {table : Table} {column : Column} {definition : Definition}
  {object : SchemaObject}

/-- What is planned for a column touches nothing of any other one. -/
theorem isAbout (treats : definition.Treats table column)
    (touches : definition.Touches dialect object) : object.IsAbout dialect column.name := by
  rcases touches with makes | awaits
  · cases makes with
    | table => trivial
    | column _ listed kept =>
      cases treats with
      | addition =>
        rw [List.mem_singleton.mp listed] at kept
        exact kept
      | _ => cases listed
    | sequence =>
      cases treats
      rfl
  · cases awaits with
    | table => trivial
    | column _ about kept =>
      cases treats with
      | sequence | addition => cases about
      | _ =>
        cases about
        exact kept
    | columns _ lists => cases treats <;> cases lists
    | numbered listed =>
      cases treats with
      | addition => exact congrArg Column.name (List.mem_singleton.mp listed)
      | _ => cases listed
    | trigger =>
      cases treats
      rfl

/-- What is planned for different columns is in order. -/
theorem precedes {other : Column} {later : Definition}
    (apart : dialect.stored column.name ≠ dialect.stored other.name)
    (treats : definition.Treats table column) (follows : later.Treats table other) :
    definition.Precedes dialect later := by
  intro object makes touches
  refine apart ((treats.isAbout touches).stored_eq (follows.isAbout (.inl makes)) ?_)
  rintro stored rfl
  cases makes
  cases follows

end Definition.Treats

namespace Difference

variable {dialect : Dialect} {table : Table} {column : Column} {live : LiveTable}
  {current : LiveColumn} {difference : Difference}

/-- What is planned for a column that is there makes nothing. -/
theorem idle_of_finds (found : dialect.Finds live column current)
    (built : ofColumn dialect table live column = .ok difference) :
    ∀ definition ∈ difference.definitions, definition.creates = false := by
  obtain ⟨_, _, grows, -⟩ := grows_of_ofColumn found built
  intro definition member
  cases grows definition member with
  | widens => rfl
  | loosens => rfl
  | furnishes furnishes => exact Definition.creates_of_furnishes furnishes

/-- A column that is missing is made in order, with what numbers it. -/
theorem ordered_columnDefinitions (dialect : Dialect) (table : Table) (column : Column) :
    (dialect.columnDefinitions table column).Pairwise (Definition.Precedes dialect) ∧
      Numbered dialect (dialect.columnDefinitions table column) := by
  have idle : ∀ definition ∈ column.commentDefinitions table.name, definition.creates = false :=
    fun definition member =>
      Definition.creates_of_furnishes (furnishing_commentDefinitions column table.name _ member)
  rw [Dialect.columnDefinitions_eq]
  exact ⟨pairwise_append_idle
      (Dialect.pairwise_creation (List.nodup_singleton _) fun _ _ => nofun) idle,
    (Numbered.of_creation (.addColumn table column) rfl rfl).append (.of_idle idle)⟩

/-- What is planned for a column is in order. -/
theorem ordered_ofColumn (built : ofColumn dialect table live column = .ok difference) :
    difference.definitions.Pairwise (Definition.Precedes dialect) ∧
      Numbered dialect difference.definitions := by
  rcases finds_or_misses built with ⟨current, found⟩ | missing
  · have idle := idle_of_finds found built
    exact ⟨pairwise_append_idle List.Pairwise.nil idle, .of_idle idle⟩
  · rw [(definitions_of_misses missing built).1]
    exact ordered_columnDefinitions dialect table column

theorem treats_columnDefinitions {definition : Definition}
    (member : definition ∈ dialect.columnDefinitions table column) :
    definition.Treats table column := by
  simp only [Dialect.columnDefinitions, List.mem_append, List.mem_singleton] at member
  rcases member with ((sequence | rfl) | trigger) | comment
  · rw [(Column.mem_sequenceDefinitions.mp sequence).2]
    exact .sequence
  · exact .addition
  · rw [(Dialect.mem_triggerDefinitions.mp trigger).2.2]
    exact .trigger
  · obtain ⟨content, _, rfl⟩ := List.mem_map.mp comment
    exact .comment content

/-- The definitions that a comparison plans have the property, and its steps are their texts. -/
def Plans (dialect : Dialect) (property : Definition → Prop) (difference : Difference) : Prop :=
  ∀ step ∈ difference.steps, property step.definition ∧
    step.definition.sql dialect = .ok step.sql

variable {property weaker : Definition → Prop}

theorem Plans.mono (plans : difference.Plans dialect property)
    (implies : ∀ definition, property definition → weaker definition) :
    difference.Plans dialect weaker :=
  fun step member => (plans step member).imp_left (implies step.definition)

theorem Plans.definitions (plans : difference.Plans dialect property) :
    ∀ definition ∈ difference.definitions, property definition :=
  List.forall_mem_map.mpr fun step member => (plans step member).1

theorem Plans.nothing : Plans dialect property {} :=
  List.forall_mem_nil _

theorem Plans.append {other : Difference} (first : difference.Plans dialect property)
    (second : other.Plans dialect property) : (difference.append other).Plans dialect property :=
  List.forall_mem_append.mpr ⟨first, second⟩

theorem Plans.foldl {parts : List Difference}
    (each : ∀ part ∈ parts, part.Plans dialect property) :
    (parts.foldl Difference.append {}).Plans dialect property := by
  rw [foldl_append_eq]
  intro step member
  obtain ⟨part, listed, inside⟩ := List.mem_flatMap.mp member
  exact each part listed step inside

/-- The steps of definitions are their texts. -/
theorem ensures_steps {definitions : List Definition}
    (each : ∀ definition ∈ definitions, property definition) :
    Ensures (fun steps => ∀ step ∈ steps, property step.definition ∧
      step.definition.sql dialect = .ok step.sql) (dialect.steps definitions) := by
  refine Ensures.mapM fun definition member step written => ?_
  obtain ⟨sql, text, rfl⟩ := map_eq_ok.mp written
  exact ⟨each definition member, text⟩

theorem plans_ofDefinitions {definitions : List Definition}
    (each : ∀ definition ∈ definitions, property definition) :
    Ensures (Plans dialect property) (ofDefinitions dialect definitions) :=
  (ensures_steps each).map fun _ steps => steps

theorem plans_single {definition : Definition} (holds : property definition) :
    Ensures (Plans dialect property) (ofDefinitions dialect [definition]) :=
  plans_ofDefinitions (List.forall_mem_singleton.mpr holds)

theorem plans_ofComment {tableName columnName : String} {known declared : Option String}
    (each : ∀ content, property (.commentColumn tableName columnName content)) :
    Ensures (Plans dialect property) (ofComment dialect tableName columnName known declared) := by
  intro difference built
  rcases ofComment_cases built with rfl | ⟨content, made⟩
  · exact .nothing
  · exact plans_single (each content) difference made

/-- What is planned for a column has to do with this column. -/
theorem plans_ofColumn (dialect : Dialect) (table : Table) (live : LiveTable) (column : Column) :
    Ensures (Plans dialect (Definition.Treats table column))
      (ofColumn dialect table live column) := by
  refine Ensures.bind (.anything _) fun stored _ => ?_
  split
  · exact plans_ofDefinitions fun definition => treats_columnDefinitions
  next current _ =>
    refine Ensures.bind (.anything _) fun declared _ => ?_
    have types : Ensures (Plans dialect (Definition.Treats table column))
        (ofType dialect table.name column.name current.columnType declared) := by
      unfold ofType
      split
      · exact .ok .nothing
      · exact plans_single (.type declared)
      · exact .ok .nothing
      · exact .ok .nothing
    have nulls : Ensures (Plans dialect (Definition.Treats table column))
        (ofNullness dialect table.name column.name current.nullable (table.allowsNull column)) := by
      unfold ofNullness
      split
      · exact plans_single (.nullness true)
      · split <;> exact .ok .nothing
    refine types.bind fun _ first => nulls.bind fun _ second => ?_
    exact (plans_ofComment .comment).bind fun _ third => .ok ((first.append second).append third)

/-- What is planned for a table is about this table. -/
theorem plans_ofTable (dialect : Dialect) (table : Table) (live : LiveTable) :
    Ensures (Plans dialect (Definition.IsPartOf table.name))
      (ofTable dialect table live) := by
  have columns : Ensures (fun parts => ∀ part ∈ parts, Plans dialect
      (Definition.IsPartOf table.name) part)
      (table.columns.mapM (ofColumn dialect table live)) := by
    refine Ensures.mapM fun column _ => ?_
    exact (plans_ofColumn dialect table live column).mono fun _ plans =>
      plans.mono fun definition treats => by cases treats <;> exact ⟨rfl, rfl⟩
  have key : Ensures (Plans dialect (Definition.IsPartOf table.name))
      (ofPrimaryKey dialect table live) := by
    intro difference built
    rcases ofPrimaryKey_cases built with rfl | ⟨key, made⟩
    · exact .nothing
    · exact plans_single ⟨rfl, rfl⟩ difference made
  have indexes : Ensures (fun parts => ∀ part ∈ parts, Plans dialect
      (Definition.IsPartOf table.name) part)
      (table.indexes.mapM (ofIndex dialect table live)) := by
    refine Ensures.mapM fun index _ difference built => ?_
    rcases ofIndex_cases built with rfl | made
    · exact .nothing
    · exact plans_single ⟨rfl, rfl⟩ difference made
  have comment : Ensures (Plans dialect (Definition.IsPartOf table.name))
      (ofTableComment dialect table live) := by
    intro difference built
    rcases ofTableComment_cases built with rfl | ⟨comment, made⟩
    · exact .nothing
    · exact plans_single ⟨rfl, rfl⟩ difference made
  refine columns.bind fun parts first => key.bind fun _ second => indexes.bind fun others third =>
    comment.bind fun last fourth => .ok (.foldl ?_)
  refine List.forall_mem_append.mpr ⟨List.forall_mem_append.mpr ⟨?_, third⟩, ?_⟩
  · exact List.forall_mem_append.mpr ⟨first, List.forall_mem_singleton.mpr second⟩
  · exact List.forall_mem_singleton.mpr fourth

end Difference

/-! ### What is planned for a table -/

namespace Dialect

variable {dialect : Dialect} {table : Table} {live : Option LiveTable} {plan : TablePlan}

theorem isPartOf_of_mem_tableDefinitions {definition : Definition}
    (member : definition ∈ dialect.tableDefinitions table) : definition.IsPartOf table.name := by
  simp only [tableDefinitions, List.mem_append, List.mem_flatMap, List.mem_singleton,
    List.mem_map] at member
  rcases member with
    ((((⟨_, _, sequence⟩ | rfl) | ⟨_, _, trigger⟩) | ⟨_, _, rfl⟩) | ⟨_, _, rfl⟩) | ⟨_, _, comment⟩
  · rw [(Column.mem_sequenceDefinitions.mp sequence).2]
    exact ⟨rfl, rfl⟩
  · exact ⟨rfl, rfl⟩
  · rw [(mem_triggerDefinitions.mp trigger).2.2]
    exact ⟨rfl, rfl⟩
  · exact ⟨rfl, rfl⟩
  · exact ⟨rfl, rfl⟩
  · obtain ⟨_, _, rfl⟩ := List.mem_map.mp comment
    exact ⟨rfl, rfl⟩

/-- What is planned for a table is about this table. -/
theorem plans_planTable (planned : dialect.planTable table live = .ok plan) :
    plan.difference.Plans dialect (Definition.IsPartOf table.name) := by
  obtain ⟨built, -⟩ := parts_of_planTable planned
  cases live with
  | none =>
    exact Difference.plans_ofDefinitions (fun _ => isPartOf_of_mem_tableDefinitions) _ built
  | some known => exact Difference.plans_ofTable dialect table known _ built

/-- What is planned for a table is in order, if its columns have different stored names. -/
theorem ordered_planTable
    (apart : (table.columns.map fun column => dialect.stored column.name).Nodup)
    (planned : dialect.planTable table live = .ok plan) :
    plan.difference.definitions.Pairwise (Definition.Precedes dialect) ∧
      Numbered dialect plan.difference.definitions := by
  obtain ⟨built, -⟩ := parts_of_planTable planned
  cases live with
  | none =>
    obtain ⟨rest, furnishing, parts⟩ := exists_rest_of_creation dialect table
    have idle : ∀ definition ∈ rest, definition.creates = false := fun definition member =>
      Definition.creates_of_furnishes (furnishing definition member)
    have names : (table.columns.map Column.name).Nodup := by
      refine List.Nodup.of_map dialect.stored ?_
      rwa [List.map_map]
    rw [(Difference.of_ofDefinitions built).1, parts]
    exact ⟨pairwise_append_idle (pairwise_creation names fun _ _ => nofun) idle,
      (Numbered.of_creation (.createTable table) rfl rfl).append (.of_idle idle)⟩
  | some known =>
    obtain ⟨columns, rest, compared, parts, furnishing, -⟩ :=
      Difference.exists_columns_of_ofTable built
    have idle : ∀ definition ∈ rest, definition.creates = false := fun definition member =>
      Definition.creates_of_furnishes (furnishing definition member)
    have each := mapM_eq_ok_iff.mp compared
    have inside : ∀ part ∈ columns, part.definitions.Pairwise (Definition.Precedes dialect) ∧
        Numbered dialect part.definitions := by
      intro part listed
      obtain ⟨column, _, made⟩ := exists_of_forall₂ each.flip listed
      exact Difference.ordered_ofColumn made
    have treats {column : Column} {part : Difference}
        (made : Difference.ofColumn dialect table known column = .ok part) :
        ∀ definition ∈ part.definitions, definition.Treats table column :=
      (Difference.plans_ofColumn dialect table known column _ made).definitions
    rw [parts]
    refine ⟨pairwise_append_idle (List.pairwise_flatMap.mpr
        ⟨fun part listed => (inside part listed).1, ?_⟩) idle,
      (Numbered.flatMap fun part listed => (inside part listed).2).append (.of_idle idle)⟩
    refine pairwise_of_forall₂ each (List.pairwise_map.mp apart) ?_
    intro column other part later differs made follows earlier member definition among
    exact (treats made earlier member).precedes differs (treats follows definition among)

/-! ### Foreign keys -/

/-- Whether a constraint with this declared name is there. -/
def hasConstraint (dialect : Dialect) (live : Option LiveTable) (name : String) : Bool :=
  live.any fun known => (dialect.stored name).toOption.any known.constraints.contains

/-- The definitions of the foreign keys of a table that are not there. -/
def missingKeys (dialect : Dialect) (sight : Sight) : List Definition :=
  (sight.1.foreignKeys.filter fun key => !dialect.hasConstraint sight.2 key.name).map
    (.addForeignKey sight.1)

theorem hasConstraint_of_found {known : LiveTable} {name : String} {present : Bool}
    (looked : (dialect.stored name).map known.constraints.contains = .ok present) :
    dialect.hasConstraint (some known) name = present := by
  obtain ⟨stored, kept, rfl⟩ := map_eq_ok.mp looked
  simp [hasConstraint, kept, Except.toOption]

/-- The steps of foreign keys are those of the definitions of the keys that are not there. -/
theorem steps_of_missingForeignKeys {steps : List MigrationStep}
    (missing : dialect.missingForeignKeys table live = .ok steps) :
    ∃ parts, steps = parts.flatten ∧ List.Forall₂ (fun key part =>
      (if dialect.hasConstraint live key.name then .ok []
        else dialect.steps [.addForeignKey table key]) = .ok part) table.foreignKeys parts := by
  obtain ⟨parts, made, same⟩ := bind_eq_ok.mp missing
  refine ⟨parts, (Except.ok.inj same).symm, (mapM_eq_ok_iff.mp made).imp fun key part built => ?_⟩
  cases live with
  | none =>
    obtain ⟨present, absent, written⟩ := bind_eq_ok.mp built
    cases absent
    exact written
  | some known =>
    obtain ⟨present, looked, written⟩ := bind_eq_ok.mp built
    rwa [hasConstraint_of_found looked]

/-- Just the foreign keys that are not there are planned, each once. -/
theorem keys_of_planTable (planned : dialect.planTable table live = .ok plan) :
    plan.foreignKeys.map MigrationStep.definition = dialect.missingKeys (table, live) ∧
      ∀ step ∈ plan.foreignKeys, step.definition.sql dialect = .ok step.sql := by
  obtain ⟨parts, same, each⟩ := steps_of_missingForeignKeys (parts_of_planTable planned).2
  rw [same, missingKeys]
  clear same
  dsimp only
  generalize table.foreignKeys = keys at each ⊢
  induction each with
  | nil => exact ⟨rfl, List.forall_mem_nil _⟩
  | @cons key part keys rest built _ inductionHypothesis =>
    rw [List.flatten_cons, List.map_append, List.filter_cons, List.forall_mem_append,
      inductionHypothesis.1]
    cases present : dialect.hasConstraint live key.name with
    | true =>
      rw [present, if_pos rfl] at built
      cases built
      simpa using inductionHypothesis.2
    | false =>
      rw [present, if_neg Bool.false_ne_true] at built
      have own : ∀ step ∈ part, True ∧ step.definition.sql dialect = .ok step.sql :=
        Difference.ensures_steps (fun _ _ => trivial) _ built
      rw [Difference.map_definition_of_steps built]
      exact ⟨by simp, fun step member => (own step member).2, inductionHypothesis.2⟩

end Dialect

/-! ### Plans -/

/-- The steps of a plan, for tables of which this was seen, can be carried out one after the other:
nothing is made twice, or after something that awaits it; each numbered column that is made has its
sequence before it and its trigger after it; and foreign keys come last, one for each that is not
there. -/
structure MigrationPlan.Ordered (dialect : Dialect) (seen : List Sight) (plan : MigrationPlan) :
    Prop where
  written : ∀ step ∈ plan.steps, step.definition.sql dialect = .ok step.sql
  inOrder : (plan.steps.map MigrationStep.definition).Pairwise (Definition.Precedes dialect)
  numbered : Numbered dialect (plan.steps.map MigrationStep.definition)
  keysLast : ∃ others, plan.steps.map MigrationStep.definition =
      others ++ seen.flatMap dialect.missingKeys ∧
    ∀ definition ∈ others, definition.isForeignKey = false

theorem Dialect.idle_missingKeys (dialect : Dialect) (sight : Sight) :
    ∀ definition ∈ dialect.missingKeys sight, definition.creates = false :=
  List.forall_mem_map.mpr fun _ _ => rfl

namespace MigrationPlan.Made

variable {dialect : Dialect} {plan : MigrationPlan} {parts : List (Sight × TablePlan)}

/-- The parts of a plan, one table after the other, and then all foreign keys. -/
theorem definitions_eq_append (made : plan.Made dialect parts) :
    plan.steps.map MigrationStep.definition =
      parts.flatMap (·.2.difference.definitions) ++
        (parts.map Prod.fst).flatMap dialect.missingKeys := by
  rw [made.definitions_eq, List.flatMap_map]
  refine congrArg _ (List.flatMap_congr fun part listed => ?_)
  exact (Dialect.keys_of_planTable (made.planned part listed)).1

theorem isPartOf (made : plan.Made dialect parts) :
    ∀ part ∈ parts, ∀ definition ∈ part.2.difference.definitions,
      definition.IsPartOf part.1.1.name :=
  fun part listed => (Dialect.plans_planTable (made.planned part listed)).definitions

/-- The definitions of a plan are in order, if tables and columns have different stored names. -/
theorem inOrder (made : plan.Made dialect parts)
    (tablesApart : (parts.map fun part => dialect.storedTable part.1.1.name).Nodup)
    (columnsApart : ∀ part ∈ parts,
      (part.1.1.columns.map fun column => dialect.stored column.name).Nodup) :
    (plan.steps.map MigrationStep.definition).Pairwise (Definition.Precedes dialect) := by
  rw [made.definitions_eq_append]
  refine pairwise_append_idle (List.pairwise_flatMap.mpr ⟨fun part listed => ?_, ?_⟩) ?_
  · exact (Dialect.ordered_planTable (columnsApart part listed) (made.planned part listed)).1
  · refine (List.pairwise_map.mp tablesApart).imp_of_mem fun {first second} one other differs => ?_
    intro earlier member later follows
    refine Definition.precedes_of_apart ?_
    rwa [(made.isPartOf first one earlier member).1, (made.isPartOf second other later follows).1]
  · intro definition member
    obtain ⟨sight, _, inside⟩ := List.mem_flatMap.mp member
    exact dialect.idle_missingKeys sight definition inside

theorem ordered (made : plan.Made dialect parts)
    (tablesApart : (parts.map fun part => dialect.storedTable part.1.1.name).Nodup)
    (columnsApart : ∀ part ∈ parts,
      (part.1.1.columns.map fun column => dialect.stored column.name).Nodup) :
    plan.Ordered dialect (parts.map Prod.fst) where
  written := by
    rw [made.steps]
    refine List.forall_mem_append.mpr ⟨fun step member => ?_, fun step member => ?_⟩
    · obtain ⟨part, listed, inside⟩ := List.mem_flatMap.mp member
      exact (Dialect.plans_planTable (made.planned part listed) step inside).2
    · obtain ⟨part, listed, inside⟩ := List.mem_flatMap.mp member
      exact (Dialect.keys_of_planTable (made.planned part listed)).2 step inside
  inOrder := made.inOrder tablesApart columnsApart
  numbered := by
    rw [made.definitions_eq_append]
    refine (Numbered.flatMap fun part listed => ?_).append
      (Numbered.flatMap fun sight _ => .of_idle (dialect.idle_missingKeys sight))
    exact (Dialect.ordered_planTable (columnsApart part listed) (made.planned part listed)).2
  keysLast := by
    refine ⟨_, made.definitions_eq_append, fun definition member => ?_⟩
    obtain ⟨part, listed, inside⟩ := List.mem_flatMap.mp member
    exact (made.isPartOf part listed definition inside).2

end MigrationPlan.Made

/-- **Steps stand in the order in which they are needed.** A plan comes out for tables with
different stored names, each with columns of different stored names. Then its steps are in order,
whatever the dictionary shows: what a step awaits is not made after it, nothing is made twice,
numbered columns have their sequences before and their triggers after them, and the foreign keys
that are not there come last, each once. -/
theorem Migrator.plan_ordered {σ : Type} {executor : Executor σ} {tables : List Table}
    {state after : σ} {plan : MigrationPlan}
    (tablesApart : (tables.map fun table => executor.dialect.storedTable table.name).Nodup)
    (columnsApart : ∀ table ∈ tables,
      (table.columns.map fun column => executor.dialect.stored column.name).Nodup)
    (planned : (Migrator.plan executor tables).perform state = (.ok plan, after)) :
    ∃ seen, (survey executor tables).perform state = (.ok seen, after) ∧
      seen.map Prod.fst = tables ∧ plan.Ordered executor.dialect seen := by
  obtain ⟨parts, surveyed, names, made⟩ := plan_eq_ok planned
  subst names
  rw [List.map_map] at tablesApart
  refine ⟨parts.map Prod.fst, surveyed, by rw [List.map_map]; rfl, made.ordered tablesApart ?_⟩
  exact fun part listed => columnsApart _ (List.mem_map_of_mem (f := fun part => part.1.1) listed)

namespace Mutual

/-- Users with their last orders. -/
def users : Table where
  name := "Users"
  columns := [{ name := "id", fieldType := .int64, identity := true, nullable := false },
    { name := "last", fieldType := .int64 }]
  foreignKeys := [
    { name := "users_last", columns := ["last"], target := "Orders", targetColumns := ["id"] }]

/-- The user of an order. -/
def owner : Column where
  name := "user"
  fieldType := .int64

/-- Orders with their users. -/
def orders : Table where
  name := "Orders"
  columns := [{ name := "id", fieldType := .int64, nullable := false }, owner]
  foreignKeys := [
    { name := "orders_user", columns := ["user"], target := "Users", targetColumns := ["id"] }]

/-- A database that has the orders, without their users. -/
def catalog : Catalog := fun name =>
  if name = "ORDERS" then some { columns := [⟨"ID", .number (some 19) (some 0), false⟩] } else none

def database : Executor Unit where
  dialect := { identity := .trigger }
  connection := .ofCatalog (fun _ => catalog) .numbered

/-- What is planned is what the catalog asks for. -/
theorem perform_plan : (Migrator.plan database [users, orders]).perform () =
    (database.dialect.planFrom catalog [users, orders], ()) := by
  have fits : ∀ name live, catalog name = some live →
      ∀ column ∈ live.columns, column.columnType.Fits :=
    fun _ _ => LiveTable.fits_of_ite (by simp [ColumnType.Fits])
  have shows : database.Shows fun _ => catalog :=
    Executor.shows_ofCatalog { identity := .trigger } fun _ => fits
  have owners : ∀ table ∈ [users, orders],
      (database.dialect.storedTable table.name).map StoredTable.owner = .ok none := by
    decide +kernel
  obtain ⟨planned, -⟩ := shows.plan (Catalog.fits_of_ownerless owners fits) () rfl
  exact Prod.ext planned (Subsingleton.elim _ _)

end Mutual

/-- Two tables that refer to each other, of which one is there. -/
theorem Migrator.plan_ordered_mutual :
    ∃ plan seen, (Migrator.plan Mutual.database [Mutual.users, Mutual.orders]).perform () =
        (.ok plan, ()) ∧ plan.Ordered Mutual.database.dialect seen ∧
      plan.steps.map MigrationStep.definition =
        [Definition.createSequence "Users" "id", Definition.createTable Mutual.users,
            Definition.createTrigger "Users" "id",
            Definition.addColumn Mutual.orders Mutual.owner] ++
          Mutual.users.foreignKeys.map (Definition.addForeignKey Mutual.users) ++
          Mutual.orders.foreignKeys.map (Definition.addForeignKey Mutual.orders) := by
  have planned := Mutual.perform_plan
  have made : (Mutual.database.dialect.planFrom Mutual.catalog [Mutual.users, Mutual.orders]).map
      (fun plan => plan.steps.map MigrationStep.definition) =
        .ok ([Definition.createSequence "Users" "id", Definition.createTable Mutual.users,
            Definition.createTrigger "Users" "id",
            Definition.addColumn Mutual.orders Mutual.owner] ++
          Mutual.users.foreignKeys.map (Definition.addForeignKey Mutual.users) ++
          Mutual.orders.foreignKeys.map (Definition.addForeignKey Mutual.orders)) := by
    decide +kernel
  obtain ⟨plan, worked, definitions⟩ := map_eq_ok.mp made
  rw [worked] at planned
  obtain ⟨seen, _, _, ordered⟩ := plan_ordered (by decide +kernel) (by decide +kernel) planned
  exact ⟨plan, seen, planned, ordered, definitions⟩

end OracleSql
