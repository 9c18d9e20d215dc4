/-
This file says what it is to put other names into a request. A renaming relates names to the names
that stand in their places: each to one of its shape, names that are the same up to the case of
ASCII letters to such names, and different ones to different ones. A request is renamed as another
where names stand for names, place by place, and everything else is the same: its kind, the form of
its conditions, its values, numbers and switches. Of references to tables only the shape is kept.
Parts that are written by hand have no place here, since nothing is known of the names in them.

The declaration of a table decides about values and not about texts, so it is left free.
-/

import OracleSql.Proofs.Containment.Names
import OracleSql.Proofs.Markers.Agreement

namespace OracleSql

/-! ### Renamings -/

/-- Which names may stand in the places of which. -/
structure Renaming where
  /-- The second name stands where the first one stood. -/
  replaces : String → String → Prop
  /-- Names that are the same up to case are replaced by such names, and others by others. -/
  consistent : ∀ {name other further another : String}, replaces name other →
    replaces further another → Text.sameFolded name further = Text.sameFolded other another
  /-- A name is replaced by one of its shape. -/
  sameShape : ∀ {name other : String}, replaces name other →
    Identifier.shape? name = Identifier.shape? other

namespace Renaming

/-- The renaming that leaves every name as it is. -/
def same : Renaming where
  replaces := Eq
  consistent := by
    rintro _ _ _ _ rfl rfl
    rfl
  sameShape := congrArg _

theorem same_self {names : List String} : List.Forall₂ same.replaces names names :=
  List.forall₂_same.mpr fun _ _ => rfl

end Renaming

variable (rule : Renaming)

/-! ### Conditions -/

/-- The conditions have the same form and the same values, and names stand for names. -/
inductive Condition.Renamed (rule : Renaming) : Condition → Condition → Prop
  | all {parts others : List Condition} (each : List.Forall₂ (Renamed rule) parts others) :
      Renamed rule (.all parts) (.all others)
  | any {parts others : List Condition} (each : List.Forall₂ (Renamed rule) parts others) :
      Renamed rule (.any parts) (.any others)
  | negation {inner other : Condition} (renamed : Renamed rule inner other) :
      Renamed rule (.negation inner) (.negation other)
  | compare {column other : String} (comparison : Comparison) (value : Value)
      (replaced : rule.replaces column other) :
      Renamed rule (.compare column comparison value) (.compare other comparison value)
  | nullness {column other : String} (isNull : Bool) (replaced : rule.replaces column other) :
      Renamed rule (.nullness column isNull) (.nullness other isNull)
  | membership {column other : String} (values : List Value) (negated : Bool)
      (replaced : rule.replaces column other) :
      Renamed rule (.membership column values negated) (.membership other values negated)
  | range {column other : String} (low high : Value) (negated : Bool)
      (replaced : rule.replaces column other) :
      Renamed rule (.range column low high negated) (.range other low high negated)
  | always : Renamed rule .always .always
  | never : Renamed rule .never .never

/-- The conditions of the filters are renamed one by one. -/
def Filter.Renamed (first second : Filter) : Prop :=
  List.Forall₂ (Condition.Renamed rule) first.conditions second.conditions

/-! ### Queries -/

/-- The items are columns, and one stands for the other. -/
inductive SelectItem.Renamed : SelectItem → SelectItem → Prop
  | column {name other : String} (replaced : rule.replaces name other) :
      Renamed (.column name) (.column other)

/-- The sort keys are columns in the same direction, and one stands for the other. -/
inductive SortKey.Renamed : SortKey → SortKey → Prop
  | ascending {name other : String} (replaced : rule.replaces name other) :
      Renamed (.ascending name) (.ascending other)
  | descending {name other : String} (replaced : rule.replaces name other) :
      Renamed (.descending name) (.descending other)

structure Join.Renamed (first second : Join) : Prop where
  kind : first.kind = second.kind
  table : TableReference.shape? first.table = TableReference.shape? second.table
  on : Condition.Renamed rule first.on second.on

/-- The queries are the same but for their names. -/
structure Select.Renamed (first second : Select) : Prop where
  source : TableReference.shape? first.source = TableReference.shape? second.source
  columns : List.Forall₂ (SelectItem.Renamed rule) first.columns second.columns
  distinct : first.distinct = second.distinct
  joins : List.Forall₂ (Join.Renamed rule) first.joins second.joins
  filter : Filter.Renamed rule first.filter second.filter
  groups : List.Forall₂ (SelectItem.Renamed rule) first.groups second.groups
  groupFilter : Filter.Renamed rule first.groupFilter second.groupFilter
  order : List.Forall₂ (SortKey.Renamed rule) first.order second.order
  limit : first.limit = second.limit
  offset : first.offset = second.offset
  lock : first.lock = second.lock

/-! ### Changes -/

/-- The rows have the same values, under columns that stand for each other. -/
structure Rows.Renamed (first second : Rows) : Prop where
  columns : List.Forall₂ rule.replaces first.columns second.columns
  content : first.content = second.content

/-- The insertions are the same but for their names. -/
structure Insert.Renamed (first second : Insert) : Prop where
  table : rule.replaces first.table second.table
  rows : Rows.Renamed rule first.rows second.rows
  returning : List.Forall₂ rule.replaces first.returning second.returning

/-- The same value is given to columns that stand for each other. -/
inductive Assignment.Renamed : String × Assignment → String × Assignment → Prop
  | value {column other : String} (value : Value) (replaced : rule.replaces column other) :
      Renamed (column, .value value) (other, .value value)

/-- The changes are the same but for their names. -/
structure Update.Renamed (first second : Update) : Prop where
  table : rule.replaces first.table second.table
  assignments : List.Forall₂ (Assignment.Renamed rule) first.assignments second.assignments
  filter : Filter.Renamed rule first.filter second.filter
  returning : List.Forall₂ rule.replaces first.returning second.returning
  allowAll : first.allowAll = second.allowAll

/-- The removals are the same but for their names. -/
structure Delete.Renamed (first second : Delete) : Prop where
  table : rule.replaces first.table second.table
  filter : Filter.Renamed rule first.filter second.filter
  returning : List.Forall₂ rule.replaces first.returning second.returning
  allowAll : first.allowAll = second.allowAll

/-- The mergers are the same but for their names. -/
structure Merge.Renamed (first second : Merge) : Prop where
  table : rule.replaces first.table second.table
  keys : List.Forall₂ rule.replaces first.keys second.keys
  rows : Rows.Renamed rule first.rows second.rows
  updated : Option.Rel (List.Forall₂ rule.replaces) first.updated second.updated
  insertOnly : first.insertOnly = second.insertOnly
  returning : List.Forall₂ rule.replaces first.returning second.returning

/-- The requests are of the same kind and the same but for their names. -/
inductive Request.Renamed : Request → Request → Prop
  | select {first second : Select} (renamed : Select.Renamed rule first second) :
      Renamed (.select first) (.select second)
  | insert {first second : Insert} (renamed : Insert.Renamed rule first second) :
      Renamed (.insert first) (.insert second)
  | update {first second : Update} (renamed : Update.Renamed rule first second) :
      Renamed (.update first) (.update second)
  | delete {first second : Delete} (renamed : Delete.Renamed rule first second) :
      Renamed (.delete first) (.delete second)
  | merge {first second : Merge} (renamed : Merge.Renamed rule first second) :
      Renamed (.merge first) (.merge second)

/-! ### Requests without text written by hand -/

theorem Condition.renamed_self (condition : Condition) (composed : condition.isComposed = true) :
    Condition.Renamed .same condition condition := by
  have parts (members : List Condition) (composed : allComposed members = true)
      (each : ∀ part ∈ members, part.isComposed = true → Renamed .same part part) :
      List.Forall₂ (Renamed .same) members members := by
    rw [allComposed_eq, List.all_eq_true] at composed
    exact List.forall₂_same.mpr fun part member => each part member (composed part member)
  induction condition with
  | all members inductionHypothesis => exact .all (parts members composed inductionHypothesis)
  | any members inductionHypothesis => exact .any (parts members composed inductionHypothesis)
  | negation inner inductionHypothesis => exact .negation (inductionHypothesis composed)
  | compare column comparison value => exact .compare comparison value rfl
  | nullness column isNull => exact .nullness isNull rfl
  | membership column values negated => exact .membership values negated rfl
  | range column low high negated => exact .range low high negated rfl
  | template sql values => cases composed
  | fragment sql => cases composed
  | always => exact .always
  | never => exact .never

theorem Filter.renamed_self {filter : Filter} (composed : filter.isComposed = true) :
    Filter.Renamed .same filter filter := by
  rw [isComposed, List.all_eq_true] at composed
  exact List.forall₂_same.mpr fun condition member =>
    condition.renamed_self (composed condition member)

theorem SelectItem.renamed_self {items : List SelectItem}
    (composed : items.all SelectItem.isComposed = true) :
    List.Forall₂ (SelectItem.Renamed .same) items items := by
  rw [List.all_eq_true] at composed
  refine List.forall₂_same.mpr fun item member => ?_
  cases item with
  | column name => exact .column rfl
  | expression sql => cases composed _ member

theorem SortKey.renamed_self {keys : List SortKey}
    (composed : keys.all SortKey.isComposed = true) :
    List.Forall₂ (SortKey.Renamed .same) keys keys := by
  rw [List.all_eq_true] at composed
  refine List.forall₂_same.mpr fun key member => ?_
  cases key with
  | ascending column => exact .ascending rfl
  | descending column => exact .descending rfl
  | expression sql => cases composed _ member

theorem Select.renamed_self {select : Select} (composed : select.isComposed = true) :
    Select.Renamed .same select select := by
  simp only [isComposed, Bool.and_eq_true] at composed
  obtain ⟨⟨⟨⟨⟨columns, joins⟩, filter⟩, groups⟩, groupFilter⟩, order⟩ := composed
  rw [List.all_eq_true] at joins
  exact ⟨rfl, SelectItem.renamed_self columns, rfl,
    List.forall₂_same.mpr fun join member =>
      ⟨rfl, rfl, join.on.renamed_self (joins join member)⟩,
    Filter.renamed_self filter, SelectItem.renamed_self groups, Filter.renamed_self groupFilter,
    SortKey.renamed_self order, rfl, rfl, rfl⟩

theorem Rows.renamed_self (rows : Rows) : Rows.Renamed .same rows rows :=
  ⟨Renaming.same_self, rfl⟩

theorem Update.renamed_self {update : Update} (composed : update.isComposed = true) :
    Update.Renamed .same update update := by
  rw [isComposed, Bool.and_eq_true, List.all_eq_true] at composed
  refine ⟨rfl, List.forall₂_same.mpr fun pair member => ?_, Filter.renamed_self composed.2,
    Renaming.same_self, rfl⟩
  obtain ⟨column, assignment⟩ := pair
  cases assignment with
  | value value => exact .value value rfl
  | expression sql => cases composed.1 _ member

/-- A request without text written by hand is renamed as itself. -/
theorem Request.renamed_self {request : Request} (composed : request.isComposed = true) :
    Request.Renamed .same request request := by
  cases request with
  | select query => exact .select (Select.renamed_self composed)
  | insert change => exact .insert ⟨rfl, change.rows.renamed_self, Renaming.same_self⟩
  | update change => exact .update (Update.renamed_self composed)
  | delete change =>
    exact .delete ⟨rfl, Filter.renamed_self composed, Renaming.same_self, rfl⟩
  | merge change =>
    refine .merge ⟨rfl, Renaming.same_self, change.rows.renamed_self, ?_, rfl, Renaming.same_self⟩
    cases change.updated with
    | none => exact .none
    | some names => exact .some Renaming.same_self
  | handWritten statement => cases composed

end OracleSql
