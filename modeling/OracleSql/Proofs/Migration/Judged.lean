/-
This file says on which declarations all databases agree. A plan is refused for a declaration just
if one of the tables is not accepted with what the dictionary shows of it. Where the names of a
table cannot all be looked up, a present table is refused; where its parts cannot all be made, an
absent one is. So one database may accept what another refuses, exactly if each table of otherwise
sound declarations is right in one of these respects, but not every table in both.
-/

import OracleSql.Proofs.Migration.Accepted
import OracleSql.Proofs.Migration.Answering
import OracleSql.Proofs.Migration.Survey

namespace OracleSql

/-! ### One table in different databases -/

namespace Table

/-- The table with all of its columns and foreign keys. -/
def complete (dialect : Dialect) (table : Table) : LiveTable where
  columns := table.columns.filterMap fun column => (dialect.stored column.name).toOption.map
    fun name => ⟨name, dialect.typeOf column, table.allowsNull column⟩
  constraints := table.foreignKeys.filterMap fun key => (dialect.stored key.name).toOption

variable {dialect : Dialect} {table : Table}

theorem not_lacksColumn_complete {column : Column} (member : column ∈ table.columns)
    (storable : Identifier.Storable column.name) :
    ¬ dialect.LacksColumn (some (table.complete dialect)) column.name := by
  intro lacks
  obtain ⟨kept, stored⟩ := (Dialect.exists_stored_iff dialect).mpr storable
  have there : ⟨kept, dialect.typeOf column, table.allowsNull column⟩ ∈
      (table.complete dialect).columns :=
    List.mem_filterMap.mpr ⟨column, member, by rw [stored]; rfl⟩
  have absent := List.find?_eq_none.mp (lacks _ rfl kept stored) _ there
  exact absent (beq_self_eq_true kept)

theorem not_lacksConstraint_complete {key : ForeignKey} (member : key ∈ table.foreignKeys)
    (storable : Identifier.Storable key.name) :
    ¬ dialect.LacksConstraint (some (table.complete dialect)) key.name := by
  intro lacks
  obtain ⟨kept, stored⟩ := (Dialect.exists_stored_iff dialect).mpr storable
  exact lacks _ rfl kept stored (List.mem_filterMap.mpr ⟨key, member, by rw [stored]; rfl⟩)

end Table

namespace Dialect

variable {dialect : Dialect} {table : Table} {live : Option LiveTable}

/-- An absent table is accepted just if every part of it can be made. -/
theorem accepts_none_iff : dialect.Accepts table none ↔ table.Sound dialect ∧ table.Makes := by
  have absent {known : LiveTable} (impossible : known ∈ (none : Option LiveTable)) : False :=
    nomatch impossible
  constructor
  · rintro ⟨sound, _, defaults, targets⟩
    exact ⟨sound, fun column member => defaults column member fun _ none => (absent none).elim,
      fun key member => targets key member fun _ none => (absent none).elim⟩
  · rintro ⟨sound, makes⟩
    exact ⟨sound, nofun, fun column member _ => makes.defaults column member,
      fun key member _ => makes.targets key member⟩

/-- A table with nothing in it is accepted just if all can be looked up besides. -/
theorem accepts_bare_iff :
    dialect.Accepts table (some {}) ↔ table.Sound dialect ∧ table.LooksUp ∧ table.Makes := by
  constructor
  · rintro ⟨sound, looksUp, defaults, targets⟩
    refine ⟨sound, looksUp rfl, fun column member => defaults column member ?_,
      fun key member => targets key member ?_⟩
    · rintro _ ⟨⟩ _ _
      rfl
    · rintro _ ⟨⟩ _ _
      exact List.not_mem_nil
  · rintro ⟨sound, looksUp, makes⟩
    exact ⟨sound, fun _ => looksUp, fun column member _ => makes.defaults column member,
      fun key member _ => makes.targets key member⟩

/-- A complete table is accepted just if all can be looked up. -/
theorem accepts_complete_iff :
    dialect.Accepts table (some (table.complete dialect)) ↔
      table.Sound dialect ∧ table.LooksUp := by
  constructor
  · rintro ⟨sound, looksUp, _, _⟩
    exact ⟨sound, looksUp rfl⟩
  · rintro ⟨sound, looksUp⟩
    refine ⟨sound, fun _ => looksUp, fun column member lacks => ?_, fun key member lacks => ?_⟩
    · exact absurd lacks
        (Table.not_lacksColumn_complete member (looksUp.columns column member))
    · exact absurd lacks
        (Table.not_lacksConstraint_complete member (looksUp.foreignKeys key member))

/-- What is right in every respect is accepted everywhere. -/
theorem accepts_of_makes (sound : table.Sound dialect) (looksUp : table.LooksUp)
    (makes : table.Makes) : dialect.Accepts table live :=
  ⟨sound, fun _ => looksUp, fun column member _ => makes.defaults column member,
    fun key member _ => makes.targets key member⟩

/-- What is wrong in both respects is accepted nowhere. -/
theorem not_accepts (lost : ¬ table.LooksUp) (unmade : ¬ table.Makes) :
    ¬ dialect.Accepts table live := by
  intro accepted
  cases live with
  | none => exact unmade (accepts_none_iff.mp accepted).2
  | some known => exact lost (accepted.looksUp rfl)

/-! ### Declarations in different databases -/

/-- All tables are accepted with what is seen of them. -/
def AcceptsAll (dialect : Dialect) (seen : List Sight) : Prop :=
  ∀ sight ∈ seen, dialect.Accepts sight.1 sight.2

/-- What databases can disagree on: declarations without a fault that is always found, each of which
is right in one of the respects, but not all of them in both. -/
def Latent (dialect : Dialect) (tables : List Table) : Prop :=
  (∀ table ∈ tables, table.Sound dialect) ∧ (∀ table ∈ tables, table.LooksUp ∨ table.Makes) ∧
    ∃ table ∈ tables, ¬ (table.LooksUp ∧ table.Makes)

variable {tables : List Table}

/-- Declarations that databases cannot disagree on are judged alike, whatever is seen of them. -/
theorem acceptsAll_congr (firm : ¬ dialect.Latent tables) {seen other : List Sight}
    (seenTables : seen.map Prod.fst = tables) (otherTables : other.map Prod.fst = tables)
    (accepted : dialect.AcceptsAll seen) : dialect.AcceptsAll other := by
  have own : ∀ table ∈ tables, ∃ live, dialect.Accepts table live := by
    rw [← seenTables]
    exact List.forall_mem_map.mpr fun sight member => ⟨sight.2, accepted sight member⟩
  have sound : ∀ table ∈ tables, table.Sound dialect :=
    fun table listed => (own table listed).choose_spec.sound
  have either (table : Table) (listed : table ∈ tables) : table.LooksUp ∨ table.Makes := by
    obtain ⟨live, accepted⟩ := own table listed
    by_contra neither
    rw [not_or] at neither
    exact not_accepts neither.1 neither.2 accepted
  intro sight member
  have listed : sight.1 ∈ tables := otherTables ▸ List.mem_map_of_mem member
  have both : sight.1.LooksUp ∧ sight.1.Makes :=
    by_contra fun lacking => firm ⟨sound, either, sight.1, listed, lacking⟩
  exact accepts_of_makes (sound sight.1 listed) both.1 both.2

/-- On the others there are databases that disagree. -/
theorem exists_acceptsAll_of_latent (latent : dialect.Latent tables) :
    ∃ seen other : List Sight, seen.map Prod.fst = tables ∧ other.map Prod.fst = tables ∧
      dialect.AcceptsAll seen ∧ ¬ dialect.AcceptsAll other := by
  classical
  obtain ⟨sound, either, table, listed, lacking⟩ := latent
  -- A table whose parts can be made is left out, and every other one is there with all its parts.
  refine ⟨tables.map fun table =>
      (table, if table.Makes then none else some (table.complete dialect)),
    tables.map fun table => (table, some {}), ?_, ?_, ?_, ?_⟩
  · rw [List.map_map]
    exact List.map_id tables
  · rw [List.map_map]
    exact List.map_id tables
  · refine List.forall_mem_map.mpr fun table listed => ?_
    by_cases makes : table.Makes
    · simp only [makes, if_true]
      exact accepts_none_iff.mpr ⟨sound table listed, makes⟩
    · simp only [makes, if_false]
      exact accepts_complete_iff.mpr
        ⟨sound table listed, (either table listed).resolve_right makes⟩
  · intro accepted
    exact lacking
      (accepts_bare_iff.mp (accepted (table, some {}) (List.mem_map_of_mem listed))).2

end Dialect

/-! ### Plans in different databases -/

/-- The dictionary answers all questions about the tables, and this is what it shows of them. A
table that cannot be found under its name is not asked about. -/
inductive Executor.Answers {σ : Type} (executor : Executor σ) :
    σ → List Table → List Sight → Prop
  | nil (state : σ) : Answers executor state [] []
  | found {state after : σ} {table : Table} {stored : StoredTable} {live : Option LiveTable}
      {rest : List Table} {seen : List Sight}
      (named : executor.dialect.storedTable table.name = .ok stored)
      (answered : (Dictionary.liveTable executor stored table.hasComments).perform state =
        (.ok live, after))
      (others : Answers executor after rest seen) :
      Answers executor state (table :: rest) ((table, live) :: seen)
  | lost {state : σ} {table : Table} {rest : List Table} {seen : List Sight} {failure : Error}
      (unnamed : executor.dialect.storedTable table.name = .error failure)
      (others : Answers executor state rest seen) :
      Answers executor state (table :: rest) ((table, none) :: seen)

namespace Executor.Answers

variable {σ : Type} {executor : Executor σ} {state : σ} {tables : List Table} {seen : List Sight}

theorem map_fst (answers : executor.Answers state tables seen) : seen.map Prod.fst = tables := by
  induction answers with
  | nil => rfl
  | found _ _ _ inductionHypothesis => exact congrArg _ inductionHypothesis
  | lost _ _ inductionHypothesis => exact congrArg _ inductionHypothesis

/-- A table of which the dictionary shows this is planned for by it. -/
theorem perform_planTable {after : σ} {table : Table} {stored : StoredTable}
    {live : Option LiveTable} (named : executor.dialect.storedTable table.name = .ok stored)
    (answered : (Dictionary.liveTable executor stored table.hasComments).perform state =
      (.ok live, after)) :
    (Migrator.planTable executor table).perform state =
      ((executor.dialect.planTable table live).map fun plan => (table, plan), after) := by
  unfold Migrator.planTable
  rw [named, Session.perform_bind_ok (Session.perform_ofExcept (.ok stored) state),
    Session.perform_bind_ok answered, Session.perform_bind, Session.perform_ofExcept]
  cases executor.dialect.planTable table live <;> rfl

/-- Tables that have been checked are planned for just if each is accepted with what is seen. -/
theorem exists_mapM_planTable_iff (answers : executor.Answers state tables seen)
    (checked : ∀ table ∈ tables, executor.dialect.checkTable table = .ok ()) :
    (∃ parts after, (tables.mapM (Migrator.planTable executor)).perform state =
      (.ok parts, after)) ↔ executor.dialect.AcceptsAll seen := by
  induction answers with
  | nil state =>
    exact ⟨fun _ _ impossible => absurd impossible List.not_mem_nil, fun _ => ⟨[], state, rfl⟩⟩
  | @found _ middle table stored live _ _ named answered _ inductionHypothesis =>
    obtain ⟨good, checked⟩ := List.forall_mem_cons.mp checked
    rw [Dialect.AcceptsAll, List.forall_mem_cons, Dialect.accepts_iff]
    constructor
    · rintro ⟨_, after, done⟩
      obtain ⟨_, _, others, came, later, _⟩ := Session.perform_mapM_cons_eq_ok.mp done
      rw [perform_planTable named answered] at came
      obtain ⟨made, rfl⟩ := Prod.mk.inj came
      obtain ⟨plan, planned, _⟩ := map_eq_ok.mp made
      exact ⟨⟨good, ⟨stored, named⟩, plan, planned⟩,
        (inductionHypothesis checked).mp ⟨others, after, later⟩⟩
    · rintro ⟨⟨_, _, plan, planned⟩, rest⟩
      obtain ⟨others, after, later⟩ := (inductionHypothesis checked).mpr rest
      refine ⟨_, after, Session.perform_mapM_cons_eq_ok.mpr
        ⟨(table, plan), middle, others, ?_, later, rfl⟩⟩
      rw [perform_planTable named answered, planned]
      rfl
  | @lost _ table _ _ failure unnamed _ _ =>
    constructor
    · rintro ⟨_, _, done⟩
      obtain ⟨_, _, _, came, _, _⟩ := Session.perform_mapM_cons_eq_ok.mp done
      obtain ⟨_, _, named, _⟩ := Session.perform_bind_eq_ok.mp came
      obtain ⟨named, _⟩ := Session.perform_ofExcept_eq_ok.mp named
      cases unnamed.symm.trans named
    · intro accepted
      obtain ⟨_, named⟩ := (accepted _ List.mem_cons_self).sound.found
      cases unnamed.symm.trans named

/-- A plan comes out just if all tables are accepted with what is seen of them. -/
theorem exists_plan_iff (answers : executor.Answers state tables seen) :
    (∃ plan after, (Migrator.plan executor tables).perform state = (.ok plan, after)) ↔
      executor.dialect.AcceptsAll seen := by
  constructor
  · rintro ⟨plan, after, planned⟩
    obtain ⟨_, _, accepted, asked⟩ := Session.perform_bind_eq_ok.mp planned
    obtain ⟨checked, rfl⟩ := Session.perform_ofExcept_eq_ok.mp accepted
    obtain ⟨parts, middle, made, _⟩ := Session.perform_bind_eq_ok.mp asked
    exact (answers.exists_mapM_planTable_iff (forM_eq_ok_iff.mp checked)).mp ⟨parts, middle, made⟩
  · intro accepted
    have checked : ∀ table ∈ tables, executor.dialect.checkTable table = .ok () := by
      rw [← answers.map_fst]
      exact List.forall_mem_map.mpr fun sight member => (accepted sight member).sound.checked
    obtain ⟨parts, after, made⟩ := (answers.exists_mapM_planTable_iff checked).mpr accepted
    refine ⟨.ofTables parts, after, Session.perform_bind_eq_ok.mpr ⟨(), state, ?_, ?_⟩⟩
    · exact Session.perform_ofExcept_eq_ok.mpr ⟨forM_eq_ok_iff.mpr checked, rfl⟩
    · exact Session.perform_bind_eq_ok.mpr ⟨parts, after, made, rfl⟩

end Executor.Answers

/-- **Databases disagree on latent faults only.** Where the dictionary answers, a plan for some
tables comes out just if all of them are accepted with what is seen. So it comes out of all such
databases or of none, exactly if no fault of the declarations is latent. -/
theorem Migrator.plan_judged_alike {σ τ : Type} (executor : Executor σ) (other : Executor τ)
    (state : σ) (otherState : τ) (tables : List Table) (seen otherSeen : List Sight)
    (same : other.dialect = executor.dialect) (answers : executor.Answers state tables seen)
    (otherAnswers : other.Answers otherState tables otherSeen) :
    ((∃ plan after, (Migrator.plan executor tables).perform state = (.ok plan, after)) ↔
        executor.dialect.AcceptsAll seen) ∧
      (¬ executor.dialect.Latent tables →
        ((∃ plan after, (Migrator.plan executor tables).perform state = (.ok plan, after)) ↔
          ∃ plan after, (Migrator.plan other tables).perform otherState = (.ok plan, after))) ∧
      (executor.dialect.Latent tables → ∃ first second : List Sight,
        first.map Prod.fst = tables ∧ second.map Prod.fst = tables ∧
          executor.dialect.AcceptsAll first ∧ ¬ executor.dialect.AcceptsAll second) := by
  refine ⟨answers.exists_plan_iff, fun firm => ?_, Dialect.exists_acceptsAll_of_latent⟩
  rw [answers.exists_plan_iff, otherAnswers.exists_plan_iff, same]
  exact ⟨Dialect.acceptsAll_congr firm answers.map_fst otherAnswers.map_fst,
    Dialect.acceptsAll_congr firm otherAnswers.map_fst answers.map_fst⟩

/-! ### Databases with a catalog -/

/-- A database that shows a catalog answers all questions about tables of the session's user. -/
theorem Executor.Shows.exists_answers {σ : Type} {executor : Executor σ}
    {catalogOf : σ → Catalog} {catalog : Catalog} (shows : executor.Shows catalogOf)
    {tables : List Table} (ownerless : ∀ table ∈ tables, ∀ stored,
      executor.dialect.storedTable table.name = .ok stored → stored.owner = none ∧
        ∀ live, catalog stored.name = some live →
          ∀ column ∈ live.columns, column.columnType.Fits)
    {state : σ} (start : catalogOf state = catalog) :
    ∃ seen, executor.Answers state tables seen := by
  induction tables generalizing state with
  | nil => exact ⟨[], .nil state⟩
  | cons table rest inductionHypothesis =>
    obtain ⟨own, ownerless⟩ := List.forall_mem_cons.mp ownerless
    cases named : executor.dialect.storedTable table.name with
    | error failure =>
      obtain ⟨seen, others⟩ := inductionHypothesis ownerless start
      exact ⟨_, .lost named others⟩
    | ok stored =>
      obtain ⟨alone, fits⟩ := own stored named
      obtain ⟨owner, name⟩ := stored
      cases alone
      obtain ⟨⟨read, looked, _⟩, after⟩ := shows.liveTable table.hasComments fits state start
      obtain ⟨seen, others⟩ := inductionHypothesis ownerless after
      exact ⟨_, .found named (Prod.ext looked rfl) others⟩

/-- A database in which this is there of every table. -/
def databaseShowing (live : Option LiveTable) : Executor Unit where
  dialect := {}
  connection := .ofCatalog (fun _ _ => live) .numbered

/-- A table of items with one column. -/
def itemsTable (column : Column) : Table where
  name := "Items"
  columns := [column]

/-- A column of prices with such a default. -/
def prices (default : ColumnDefault) : Column where
  name := "price"
  fieldType := .float64
  default

/-- Prices as the dictionary shows them. -/
def livePrices : LiveTable where
  columns := [⟨"PRICE", .binaryDouble, true⟩]

section

variable {live : Option LiveTable} (known : live ∈ [none, some livePrices]) (column : Column)

include known

theorem shows_databaseShowing : (databaseShowing live).Shows (fun _ _ => live) ∧
    ∀ table ∈ [itemsTable column], ∀ stored,
      (databaseShowing live).dialect.storedTable table.name = .ok stored → stored.owner = none ∧
        ∀ there, live = some there → ∀ column ∈ there.columns, column.columnType.Fits := by
  have fits : ∀ there, live = some there → ∀ column ∈ there.columns, column.columnType.Fits := by
    rintro there rfl
    obtain rfl : there = livePrices := by simpa using known
    exact List.forall_mem_singleton.mpr trivial
  have owner : (({} : Dialect).storedTable "Items").map StoredTable.owner = .ok none := by
    decide +kernel
  exact ⟨Executor.shows_ofCatalog {} fun _ _ => fits,
    Catalog.fits_of_ownerless (List.forall_mem_singleton.mpr owner) fun _ => fits⟩

/-- The dictionary answers. -/
theorem exists_answers_databaseShowing :
    ∃ seen, (databaseShowing live).Answers () [itemsTable column] seen := by
  obtain ⟨shows, ownerless⟩ := shows_databaseShowing known column
  exact shows.exists_answers ownerless rfl

/-- What is planned for items there is worked out from what is there. -/
theorem plan_databaseShowing :
    ((Migrator.plan (databaseShowing live) [itemsTable column]).perform ()).1 =
      ({} : Dialect).planFrom (fun _ => live) [itemsTable column] := by
  obtain ⟨shows, ownerless⟩ := shows_databaseShowing known column
  exact (shows.plan ownerless () rfl).1

end

/-- A default that can be written is accepted where the table is absent, and so also where it is
there. -/
theorem Migrator.plan_judged_alike_whole_default :
    let tables := [itemsTable (prices (.int 1))]
    ∃ seen otherSeen, (databaseShowing none).Answers () tables seen ∧
      (databaseShowing (some livePrices)).Answers () tables otherSeen ∧
      (∃ plan after, (Migrator.plan (databaseShowing none) tables).perform () =
        (.ok plan, after)) ∧
      ∃ plan after, (Migrator.plan (databaseShowing (some livePrices)) tables).perform () =
        (.ok plan, after) := by
  intro tables
  have absent : none ∈ [none, some livePrices] := List.mem_cons_self
  have present : some livePrices ∈ [none, some livePrices] := List.mem_cons_of_mem _ (by simp)
  obtain ⟨seen, answers⟩ := exists_answers_databaseShowing absent (prices (.int 1))
  obtain ⟨otherSeen, otherAnswers⟩ := exists_answers_databaseShowing present (prices (.int 1))
  have firm : ¬ ({} : Dialect).Latent tables := by
    rintro ⟨_, _, table, listed, lacking⟩
    cases List.mem_singleton.mp listed
    exact lacking ⟨⟨by decide +kernel, by decide, by decide⟩, ⟨by decide, by decide⟩⟩
  have planned : (({} : Dialect).planFrom (fun _ => none) tables).isOk = true := by decide +kernel
  rw [← plan_databaseShowing absent] at planned
  obtain ⟨plan, made⟩ := exists_of_isOk planned
  have first : ∃ plan after, (Migrator.plan (databaseShowing none) tables).perform () =
      (.ok plan, after) := ⟨plan, (), Prod.ext made rfl⟩
  obtain ⟨_, alike, _⟩ := Migrator.plan_judged_alike (databaseShowing none)
    (databaseShowing (some livePrices)) () () tables seen otherSeen rfl answers otherAnswers
  exact ⟨seen, otherSeen, answers, otherAnswers, first, (alike firm).mp first⟩

/-- **A fault shows late.** A default that is not finite is refused where the table is absent, and
goes unnoticed where the column is there. A star for a column is written into the definition of an
absent table, and refused once the table is there. -/
theorem Migrator.plan_judged_differently :
    let endless := Binary.ofBits 0x7ff0000000000000
    let priced := itemsTable (prices (.float endless))
    let starred := itemsTable { name := "*", fieldType := .float64 }
    ({} : Dialect).check = .ok () ∧
      ((Migrator.plan (databaseShowing none) [priced]).perform ()).1 =
        .error (.validation (.column "price" (.endlessDefault endless))) ∧
      ((Migrator.plan (databaseShowing (some livePrices)) [priced]).perform ()).1 =
        .ok { tables := [("Items", .present)] } ∧
      (((Migrator.plan (databaseShowing none) [starred]).perform ()).1.map
        fun plan => plan.steps.map MigrationStep.sql) =
          .ok ["CREATE TABLE \"ITEMS\" (* BINARY_DOUBLE)"] ∧
      ((Migrator.plan (databaseShowing (some livePrices)) [starred]).perform ()).1 =
        .error (.validation (.name (.notAName "*"))) := by
  have absent : none ∈ [none, some livePrices] := List.mem_cons_self
  have present : some livePrices ∈ [none, some livePrices] := List.mem_cons_of_mem _ (by simp)
  simp only [plan_databaseShowing absent, plan_databaseShowing present]
  decide +kernel

end OracleSql
