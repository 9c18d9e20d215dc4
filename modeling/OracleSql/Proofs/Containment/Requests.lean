/-
This file shows that names stay between their quotes. A statement that is made without text written
by hand splits, in one way, into quoted segments and a rest of fixed words, separators, markers and
the seconds of a lock. And the rest tells nothing of the names: with other names of the same shapes,
put in consistently, it is the same. The first is the second for names that are put in for
themselves.
-/

import OracleSql.Proofs.Containment.Changes
import OracleSql.Proofs.Containment.Queries

namespace OracleSql

/-- The renaming that a table of names gives. -/
def Renaming.ofPairs (pairs : List (String × String))
    (consistent : ∀ pair ∈ pairs, ∀ other ∈ pairs,
      Text.sameFolded pair.1 other.1 = Text.sameFolded pair.2 other.2)
    (sameShape : ∀ pair ∈ pairs, Identifier.shape? pair.1 = Identifier.shape? pair.2) :
    Renaming where
  replaces := fun name other => (name, other) ∈ pairs
  consistent := fun {name other further another} member also =>
    consistent (name, other) member (further, another) also
  sameShape := fun {name other} member => sameShape (name, other) member

namespace Request

/-- Requests that are the same but for their names have plans with the same rest. -/
theorem plan_sameRest {rule : Renaming} (dialect : Dialect) {first second : Request}
    (renamed : Request.Renamed rule first second) :
    Agree (Plan.SameRest dialect.markerStyle) (first.plan dialect) (second.plan dialect) := by
  have single {one other : Except Error Statement}
      (agree : Agree (fun one other => SameRest dialect.markerStyle one.sql other.sql) one other) :
      Agree (Plan.SameRest dialect.markerStyle) (one.map Plan.single) (other.map Plan.single) :=
    Agree.map agree fun _ _ rest => .cons rest .nil
  cases renamed with
  | select renamed => exact single (Select.build_sameRest dialect renamed)
  | insert renamed => exact Insert.plan_sameRest dialect renamed
  | update renamed => exact Agree.mapError _ _ (single (Update.build_sameRest dialect renamed))
  | delete renamed => exact Agree.mapError _ _ (single (Delete.build_sameRest dialect renamed))
  | merge renamed => exact Merge.plan_sameRest dialect renamed

/-- Names stay between their quotes. For every dialect, every request without text written by hand,
and whatever its names are: if the request has a plan, then each statement splits in one way into
double-quoted segments, which hold neither a quote nor the null character, and a rest of fixed
words, separators, markers of the dialect and the seconds of a lock. If consistently other names of
the same shapes are put in, and that request has a plan too, then the statements have the same rest
one by one. Both hold as well of the statement that counts the rows of a query. -/
theorem names_stay_quoted (dialect : Dialect) :
    (∀ (request : Request) (plan : Plan), request.isComposed = true →
      request.plan dialect = .ok plan → ∀ statement ∈ plan.statements,
        ∃! parts, Splits dialect.markerStyle parts statement.sql.toList) ∧
    (∀ (query : Select) (statement : Statement), query.isComposed = true →
      query.buildCount dialect = .ok statement →
        ∃! parts, Splits dialect.markerStyle parts statement.sql.toList) ∧
    (∀ (rule : Renaming) (first second : Request) (left right : Plan),
      Request.Renamed rule first second → first.plan dialect = .ok left →
        second.plan dialect = .ok right → left.SameRest dialect.markerStyle right) ∧
    ∀ (rule : Renaming) (first second : Select) (left right : Statement),
      Select.Renamed rule first second → first.buildCount dialect = .ok left →
        second.buildCount dialect = .ok right →
          SameRest dialect.markerStyle left.sql right.sql := by
  have alone {sql : String} (same : SameRest dialect.markerStyle sql sql) :
      ∃! parts, Splits dialect.markerStyle parts sql.toList := by
    obtain ⟨parts, splits, _⟩ := same
    exact ⟨parts, splits, fun _ splitsToo => splitsToo.unique splits⟩
  refine ⟨fun request plan composed planned => ?_, fun query statement composed counted => ?_,
    fun rule first second left right renamed => plan_sameRest dialect renamed left right,
    fun rule first second left right renamed =>
      Select.buildCount_sameRest dialect renamed left right⟩
  · have same := plan_sameRest dialect (renamed_self composed) plan plan planned planned
    exact fun statement member => alone (List.forall₂_same.mp same statement member)
  · exact alone (Select.buildCount_sameRest dialect (Select.renamed_self composed) statement
      statement counted counted)

namespace Hostile

/-- Names, and other ones that would break out of a careless statement. -/
def rule : Renaming :=
  .ofPairs
    [("shop.items", "a;--.b) c"), ("id", "x' OR 1=1 --"), ("ID", "X' or 1=1 --"),
      ("it.\"no te\"", "/*.\":1, )\"")] (by decide +kernel) (by decide +kernel)

/-- A merger of two rows with one column. -/
def merge (table key column : String) : Merge where
  table
  keys := [key]
  rows := { form := .many [column] [[.null], [.null]] }

/-- A query for the rows with a column out of a range. -/
def query (source column : String) : Select where
  source
  filter := ⟨[.negation (.range column .null .null true)]⟩

/-- A merger that meets its key in another case. -/
def first : Merge := merge "shop.items" "ID" "id"

def second : Merge := merge "a;--.b) c" "X' or 1=1 --" "x' OR 1=1 --"

def third : Select := query "shop.items AS it" "it.\"no te\""

def fourth : Select := query "a;.-- as /*" "/*.\":1, )\""

theorem merge_renamed : Renamed rule (.merge first) (.merge second) := by
  have table : rule.replaces "shop.items" "a;--.b) c" := by simp [rule, Renaming.ofPairs]
  have column : rule.replaces "id" "x' OR 1=1 --" := by simp [rule, Renaming.ofPairs]
  have key : rule.replaces "ID" "X' or 1=1 --" := by simp [rule, Renaming.ofPairs]
  exact .merge ⟨table, .cons key .nil, ⟨.cons column .nil, rfl⟩, .none, rfl, .nil⟩

theorem query_renamed : Select.Renamed rule third fourth := by
  have note : rule.replaces "it.\"no te\"" "/*.\":1, )\"" := by simp [rule, Renaming.ofPairs]
  exact ⟨by decide +kernel, .nil, rfl, .nil, .cons (.negation (.range _ _ _ note)) .nil, .nil, .nil,
    .nil, rfl, rfl, rfl⟩

end Hostile

/-- The four parts for names that would break out of a careless statement: a merger that meets its
key in another case, and a count of rows. -/
theorem names_stay_quoted_hostile_names :
    let dialect : Dialect := { markerStyle := .named }
    ∃ plan other counted recounted,
      (Request.merge Hostile.first).plan dialect = .ok plan ∧
      (Request.merge Hostile.second).plan dialect = .ok other ∧
      Hostile.third.buildCount dialect = .ok counted ∧
      Hostile.fourth.buildCount dialect = .ok recounted ∧
      Renamed Hostile.rule (.merge Hostile.first) (.merge Hostile.second) ∧
      Select.Renamed Hostile.rule Hostile.third Hostile.fourth ∧
      (∀ statement ∈ plan.statements, ∃! parts, Splits .named parts statement.sql.toList) ∧
      (∃! parts, Splits .named parts counted.sql.toList) ∧
      plan.SameRest .named other ∧ SameRest .named counted.sql recounted.sql := by
  intro dialect
  obtain ⟨plan, planned⟩ := exists_of_isOk (by decide +kernel :
    ((Request.merge Hostile.first).plan dialect).isOk = true)
  obtain ⟨other, plannedToo⟩ := exists_of_isOk (by decide +kernel :
    ((Request.merge Hostile.second).plan dialect).isOk = true)
  obtain ⟨count, counted⟩ := exists_of_isOk (by decide +kernel :
    (Hostile.third.buildCount dialect).isOk = true)
  obtain ⟨recount, countedToo⟩ := exists_of_isOk (by decide +kernel :
    (Hostile.fourth.buildCount dialect).isOk = true)
  obtain ⟨splits, countSplits, sameRest, countSameRest⟩ := names_stay_quoted dialect
  exact ⟨plan, other, count, recount, planned, plannedToo, counted, countedToo,
    Hostile.merge_renamed, Hostile.query_renamed,
    splits (.merge Hostile.first) plan rfl planned, countSplits Hostile.third count rfl counted,
    sameRest Hostile.rule _ _ plan other Hostile.merge_renamed planned plannedToo,
    countSameRest Hostile.rule _ _ count recount Hostile.query_renamed counted countedToo⟩

end Request

end OracleSql
