/-
This file says what a server answers to a query that was read. Its clauses name records, which a
condition lets through or not, and each record that is left makes a row. Where records are grouped,
by keys or by a condition on groups alone, each group makes a row instead. DISTINCT drops the rows
that are there already. What tables hold and what the texts of the clauses mean in them is left
open; the number of rows does not depend on the list.

A query that counts has the number of records, or of the rows of the query inside.
-/

import Mathlib.Data.List.Dedup
import OracleSql.Proofs.Reading.Clauses

namespace OracleSql

/-- What the texts of clauses mean in the contents of the tables. -/
structure Database (Record Row : Type) where
  /-- The records of a FROM clause, with the tables that are joined in it. -/
  records : (source : List Token) → List Record
  holds : (condition : List Token) → Record → Bool
  /-- The groups of records that keys make. -/
  groups : (keys : List Token) → List Record → List (List Record)
  keeps : (condition : List Token) → (group : List Record) → Bool
  /-- The row that a list selects from the records of a group, or from a single record. -/
  row : (list : List Token) → (group : List Record) → Row

section

variable {Record Row : Type} (database : Database Record Row)

/-- The records that a condition lets through, all of them where there is none. -/
def Database.filtered (source : List Part) (condition : Option (List Part)) : List Record :=
  (database.records (Part.written source)).filter fun record =>
    condition.all fun condition => database.holds (Part.written condition) record

namespace Clauses

variable (clauses : Clauses)

/-- The groups of which each makes a row. Without keys a condition on groups takes all records as
one group, and without either each record is one. -/
def groups : List (List Record) :=
  let filtered := database.filtered clauses.source clauses.condition
  match clauses.keys, clauses.kept with
  | some keys, _ => database.groups (Part.written keys) filtered
  | none, some _ => [filtered]
  | none, none => filtered.map ([·])

/-- The rows before any is dropped. -/
def allRows : List Row :=
  let kept := (clauses.groups database).filter fun group =>
    clauses.kept.all fun condition => database.keeps (Part.written condition) group
  kept.map (database.row (Part.written clauses.list))

/-- The rows of the query. -/
def rows [DecidableEq Row] : List Row :=
  if clauses.distinct then (clauses.allRows database).dedup else clauses.allRows database

/-- No row is dropped just if DISTINCT finds none twice. -/
theorem length_allRows_eq_iff [DecidableEq Row] :
    (clauses.allRows database).length = (clauses.rows database).length ↔
      (clauses.distinct = true → (clauses.allRows database).Nodup) := by
  unfold rows
  cases clauses.distinct with
  | false => simp
  | true =>
    rw [if_pos rfl]
    constructor
    · intro same _
      have kept := (List.dedup_sublist (clauses.allRows database)).eq_of_length same.symm
      exact List.dedup_eq_self.mp kept
    · intro apart
      rw [List.dedup_eq_self.mpr (apart rfl)]

/-- How many rows there are does not depend on the list. -/
theorem length_allRows_congr {other : Clauses} (source : clauses.source = other.source)
    (condition : clauses.condition = other.condition) (keys : clauses.keys = other.keys)
    (kept : clauses.kept = other.kept) :
    (clauses.allRows database).length = (other.allRows database).length := by
  unfold allRows groups
  rw [source, condition, keys, kept, List.length_map, List.length_map]

end Clauses

/-- The number that a query computes which counts. -/
def Counting.number [DecidableEq Row] : Counting → Nat
  | records source condition => (database.filtered source condition).length
  | rows query => (query.rows database).length

end

end OracleSql
