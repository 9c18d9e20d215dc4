/-
This file holds conditions on rows and how a statement writes them. A condition is a tree of
comparisons joined by AND, OR and NOT. Joined conditions that are empty vanish. A condition gets
parentheses where the text would otherwise be read differently, and a fragment written by hand gets
them beside any neighbour, since its own operators are not known. A list of values longer than the
server takes is cut into several.

`isAlways` says that a condition holds for every row. A change of all rows is recognised by it.
-/

import OracleSql.Chunks
import OracleSql.Template

namespace OracleSql

/-! ### Conditions -/

/-- How a column is compared with a value. -/
inductive Comparison where
  | equal
  | different
  | greater
  | greaterEqual
  | less
  | lessEqual
  | like
  | notLike
  /-- A pattern without regard to case. -/
  | ilike
  | notIlike
  deriving DecidableEq

/-- The operator of a comparison. -/
def Comparison.operator : Comparison → String
  | equal => "="
  | different => "<>"
  | greater => ">"
  | greaterEqual => ">="
  | less => "<"
  | lessEqual => "<="
  | like => "LIKE"
  | notLike => "NOT LIKE"
  | ilike => "LIKE"
  | notIlike => "NOT LIKE"

/-- Whether both sides are put into upper case first. -/
def Comparison.foldsCase : Comparison → Bool
  | ilike => true
  | notIlike => true
  | _ => false

/-- A condition on a row. -/
inductive Condition where
  /-- All of the parts hold. -/
  | all (parts : List Condition)
  /-- Some part holds. -/
  | any (parts : List Condition)
  | negation (inner : Condition)
  | compare (column : String) (comparison : Comparison) (value : Value)
  | nullness (column : String) (isNull : Bool)
  | membership (column : String) (values : List Value) (negated : Bool)
  | range (column : String) (low high : Value) (negated : Bool)
  /-- A fragment with a value for each of its `?` markers. -/
  | template (sql : String) (values : List Value)
  | fragment (sql : String)
  | always
  | never
  deriving Inhabited

namespace Condition

/-- The column is one of the values, which no column is of none. -/
def isIn (column : String) (values : List Value) : Condition :=
  if values.isEmpty then never else membership column values false

/-- The column is none of the values, as every column is of none. -/
def notIn (column : String) (values : List Value) : Condition :=
  if values.isEmpty then always else membership column values true

/-! ### Empty and constant conditions -/

mutual

/-- Whether a condition says nothing. -/
def isEmpty : Condition → Bool
  | all parts => allEmpty parts
  | any parts => allEmpty parts
  | negation inner => inner.isEmpty
  | _ => false

/-- Whether each of some conditions says nothing. -/
def allEmpty : List Condition → Bool
  | [] => true
  | part :: rest => part.isEmpty && allEmpty rest

end

/-- Whether the condition is the constant that no row meets. -/
def isNever : Condition → Bool
  | never => true
  | _ => false

mutual

/-- Whether the condition holds for every row. -/
def isAlways : Condition → Bool
  | always => true
  | all parts => !allEmpty parts && allAlways parts
  | any parts => someAlways parts
  | negation inner => inner.isNever
  | _ => false

/-- Whether each of some conditions is empty or holds for every row. -/
def allAlways : List Condition → Bool
  | [] => true
  | part :: rest => (part.isEmpty || part.isAlways) && allAlways rest

/-- Whether one of some conditions holds for every row. -/
def someAlways : List Condition → Bool
  | [] => false
  | part :: rest => part.isAlways || someAlways rest

end

/-! ### Writing -/

/-- Whether the condition is written by hand, so that its operators are not known. -/
def isFragment : Condition → Bool
  | template _ _ => true
  | fragment _ => true
  | _ => false

/-- Whether the condition needs parentheses among others joined by AND. -/
def enclosedInAll : Condition → Bool
  | any _ => true
  | condition => condition.isFragment

/-- Whether the condition needs parentheses among others joined by OR. -/
def enclosedInAny : Condition → Bool
  | all _ => true
  | condition => condition.isFragment

/-- The pieces in parentheses if they are wanted. -/
def parenthesized (wanted : Bool) (pieces : List Piece) : List Piece :=
  if wanted then Piece.enclosed "(" ")" pieces else pieces

/-- A value in a condition. -/
def valuePiece (dialect : Dialect) (value : Value) : Piece :=
  .value (dialect.lower value)

/-- A comparison, both of its sides in upper case where it folds case. -/
def comparePieces (dialect : Dialect) (column : String) (comparison : Comparison) (value : Value) :
    Draft := do
  let name ← dialect.nameText column
  let bound := valuePiece dialect value
  if comparison.foldsCase then
    .ok [.text ("UPPER(" ++ name ++ ") " ++ comparison.operator ++ " UPPER("), bound, .text ")"]
  else .ok [.text (name ++ " " ++ comparison.operator ++ " "), bound]

/-- The most values that one list may hold. -/
def maxListLength : Nat := 1000

/-- The test against one list of values. -/
def listPieces (dialect : Dialect) (name : String) (negated : Bool) (values : List Value) :
    List Piece :=
  let opening := name ++ (if negated then " NOT IN (" else " IN (")
  Piece.enclosed opening ")" (Piece.join ", " (values.map fun value => [valuePiece dialect value]))

/-- The test against values, cut into several lists where they are too many for one. -/
def membershipPieces (dialect : Dialect) (column : String) (values : List Value) (negated : Bool) :
    Draft :=
  if values.isEmpty then .ok [.text (if negated then "1=1" else "1=0")]
  else do
    let name ← dialect.nameText column
    let lists := (chunks maxListLength values).map (listPieces dialect name negated)
    let separator := if negated then " AND " else " OR "
    .ok (parenthesized (1 < lists.length) (Piece.join separator lists))

mutual

/-- The pieces of a condition. -/
def pieces (dialect : Dialect) : Condition → Draft
  | all parts => (partPieces dialect enclosedInAll parts).map (Piece.join " AND ")
  | any parts => (partPieces dialect enclosedInAny parts).map (Piece.join " OR ")
  | negation inner =>
    if inner.isEmpty then .ok []
    else (pieces dialect inner).map (Piece.enclosed "NOT (" ")")
  | compare column comparison value => comparePieces dialect column comparison value
  | nullness column isNull => do
    let name ← dialect.nameText column
    .ok [.text (name ++ (if isNull then " IS NULL" else " IS NOT NULL"))]
  | membership column values negated => membershipPieces dialect column values negated
  | range column low high negated => do
    let name ← dialect.nameText column
    .ok [.text (name ++ (if negated then " NOT BETWEEN " else " BETWEEN ")),
      valuePiece dialect low, .text " AND ", valuePiece dialect high]
  | template sql values => dialect.fragment sql { positional := values }
  | fragment sql => dialect.fragment sql {}
  | always => .ok [.text "1=1"]
  | never => .ok [.text "1=0"]

/-- The pieces of each condition that says something, with parentheses where they are wanted. -/
def partPieces (dialect : Dialect) (wanted : Condition → Bool) :
    List Condition → Except Error (List (List Piece))
  | [] => .ok []
  | part :: rest =>
    if part.isEmpty then partPieces dialect wanted rest
    else do
      let first ← pieces dialect part
      let others ← partPieces dialect wanted rest
      .ok (parenthesized (wanted part) first :: others)

end

end Condition

/-! ### Filters -/

/-- The conditions that all have to hold in one clause of a statement. -/
structure Filter where
  conditions : List Condition := []

namespace Filter

/-- The filter with one more condition. -/
def and (filter : Filter) (condition : Condition) : Filter :=
  ⟨filter.conditions ++ [condition]⟩

/-- The filter with one more condition if there is one. -/
def andOption (filter : Filter) (condition : Option Condition) : Filter :=
  condition.elim filter filter.and

/-- Some column is like a pattern, whatever the case; no columns make no condition. -/
def andAnyLike (filter : Filter) (columns : List String) (pattern : Value) : Filter :=
  if columns.isEmpty then filter
  else filter.and (.any (columns.map fun column => .compare column .ilike pattern))

/-- The column is one of the values if some are given; none of them make no condition. -/
def andSome (filter : Filter) (column : String) (values : Option (List Value)) : Filter :=
  match values with
  | some (first :: rest) => filter.and (.isIn column (first :: rest))
  | _ => filter

/-- Whether the filter says nothing. -/
def isEmpty (filter : Filter) : Bool :=
  filter.conditions.all Condition.isEmpty

/-- Whether some condition can leave a row out. -/
def restricts (filter : Filter) : Bool :=
  filter.conditions.any fun condition => !condition.isEmpty && !condition.isAlways

/-- Whether more than one condition says something. -/
def hasSeveral (filter : Filter) : Bool :=
  1 < (filter.conditions.filter fun condition => !condition.isEmpty).length

/-- Whether a condition needs parentheses in the filter. -/
def enclosed (filter : Filter) : Condition → Bool
  | .any _ => true
  | condition => filter.hasSeveral && condition.isFragment

/-- The pieces of the filter. -/
def pieces (dialect : Dialect) (filter : Filter) : Draft :=
  (Condition.partPieces dialect filter.enclosed filter.conditions).map (Piece.join " AND ")

/-- The pieces of a clause with this filter, none where it says nothing. -/
def clause (dialect : Dialect) (keyword : String) (filter : Filter) : Draft :=
  if filter.isEmpty then .ok []
  else (filter.pieces dialect).map (.text keyword :: ·)

end Filter

end OracleSql
