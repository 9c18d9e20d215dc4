/-
This file builds queries of rows. The clauses FROM to HAVING form the body, which the query of the
rows and the query of their count share. A page of rows is cut out either by OFFSET and FETCH after
the query, or by ROWNUM around it. Rows can be locked, but not those of a page.
-/

import OracleSql.Condition
import OracleSql.TableReference

namespace OracleSql

/-! ### Parts -/

/-- Something that is selected, grouped or ordered by. -/
inductive SelectItem where
  | column (name : String)
  /-- A trusted expression without markers. -/
  | expression (sql : String)
  deriving DecidableEq

/-- The pieces of an item. -/
def SelectItem.pieces (dialect : Dialect) : SelectItem → Draft
  | column name => dialect.namePiece name
  | expression sql => dialect.fragment sql {}

/-- The pieces of items with commas between them. -/
def SelectItem.listPieces (dialect : Dialect) (items : List SelectItem) : Draft :=
  (items.mapM (SelectItem.pieces dialect)).map (Piece.join ", ")

/-- How the rows of a joined table are matched. -/
inductive JoinKind where
  | inner
  | left
  | right
  | full
  deriving DecidableEq

/-- The words of a join. -/
def JoinKind.sql : JoinKind → String
  | inner => "INNER JOIN"
  | left => "LEFT JOIN"
  | right => "RIGHT JOIN"
  | full => "FULL OUTER JOIN"

/-- A joined table. -/
structure Join where
  kind : JoinKind
  table : String
  on : Condition

/-- The pieces of a join. -/
def Join.pieces (dialect : Dialect) (join : Join) : Draft := do
  let table ← TableReference.pieces dialect join.table
  let condition ← join.on.pieces dialect
  .ok (.text (" " ++ join.kind.sql ++ " ") :: (table ++ (.text " ON " :: condition)))

/-- Something that rows are ordered by. -/
inductive SortKey where
  | ascending (column : String)
  | descending (column : String)
  /-- A trusted expression with its direction. -/
  | expression (sql : String)
  deriving DecidableEq

/-- The pieces of a sort key. -/
def SortKey.pieces (dialect : Dialect) : SortKey → Draft
  | ascending column => (dialect.namePiece column).map (· ++ [.text " ASC"])
  | descending column => (dialect.namePiece column).map (· ++ [.text " DESC"])
  | expression sql => dialect.fragment sql {}

/-- What happens at a selected row that another session has locked. -/
inductive LockMode where
  | wait
  | noWait
  | waitSeconds (count : UInt32)
  | skipLocked
  deriving DecidableEq

/-- The clause that locks the selected rows. -/
def LockMode.sql : LockMode → String
  | wait => " FOR UPDATE"
  | noWait => " FOR UPDATE NOWAIT"
  | waitSeconds count => " FOR UPDATE WAIT " ++ toString count.toNat
  | skipLocked => " FOR UPDATE SKIP LOCKED"

/-! ### Queries -/

/-- A query of rows. -/
structure Select where
  source : String
  columns : List SelectItem := []
  distinct : Bool := false
  joins : List Join := []
  filter : Filter := {}
  groups : List SelectItem := []
  groupFilter : Filter := {}
  order : List SortKey := []
  limit : Option UInt64 := none
  offset : Option UInt64 := none
  lock : Option LockMode := none

namespace Select

/-- The query with one more selected item. -/
def selecting (select : Select) (item : SelectItem) : Select :=
  { select with columns := select.columns ++ [item] }

/-- The query with its rows grouped by one more item. -/
def grouping (select : Select) (item : SelectItem) : Select :=
  { select with groups := select.groups ++ [item] }

/-- The query with one more joined table. -/
def join (select : Select) (kind : JoinKind) (table : String) (on : Condition) : Select :=
  { select with joins := select.joins ++ [⟨kind, table, on⟩] }

/-- The query with its rows filtered further. -/
def refine (select : Select) (change : Filter → Filter) : Select :=
  { select with filter := change select.filter }

/-- The query with its groups filtered further. -/
def refineGroups (select : Select) (change : Filter → Filter) : Select :=
  { select with groupFilter := change select.groupFilter }

/-- The query with one more sort key. -/
def orderBy (select : Select) (key : SortKey) : Select :=
  { select with order := select.order ++ [key] }

/-- The number, or the greatest one of 64 bits. -/
def saturated (number : Nat) : UInt64 :=
  UInt64.ofNat (min number (UInt64.size - 1))

/-- The query of one page, counted from one. Page and size are at least one. -/
def page (select : Select) (number size : UInt64) : Select :=
  let length := max size.toNat 1
  { select with
    limit := some (saturated length)
    offset := some (saturated ((number.toNat - 1) * length)) }

/-- Whether only a part of the rows is wanted. -/
def isPaged (select : Select) : Bool :=
  select.limit.isSome || select.offset.isSome

/-! ### Writing -/

/-- The pieces of a list of items after a keyword, none where the list is empty. -/
def listClause (dialect : Dialect) (keyword : String) (items : List SelectItem) : Draft :=
  if items.isEmpty then .ok []
  else (SelectItem.listPieces dialect items).map (.text keyword :: ·)

/-- The clauses FROM to HAVING. -/
def bodyPieces (dialect : Dialect) (select : Select) : Draft := do
  let source ← TableReference.pieces dialect select.source
  let joins ← select.joins.mapM (Join.pieces dialect)
  let rows ← select.filter.clause dialect " WHERE "
  let groups ← listClause dialect " GROUP BY " select.groups
  let kept ← select.groupFilter.clause dialect " HAVING "
  .ok (.text " FROM " :: (source ++ joins.flatten ++ rows ++ groups ++ kept))

/-- The columns of the query, all of them where none are named. -/
def columnPieces (dialect : Dialect) (select : Select) : Draft :=
  if select.columns.isEmpty then .ok [.text "*"]
  else SelectItem.listPieces dialect select.columns

/-- The order of the rows. -/
def orderPieces (dialect : Dialect) (select : Select) : Draft :=
  if select.order.isEmpty then .ok []
  else do
    let keys ← select.order.mapM (SortKey.pieces dialect)
    .ok (.text " ORDER BY " :: Piece.join ", " keys)

/-- The query of all rows. -/
def allPieces (dialect : Dialect) (select : Select) : Draft := do
  let columns ← select.columnPieces dialect
  let body ← select.bodyPieces dialect
  let order ← select.orderPieces dialect
  let head := if select.distinct then "SELECT DISTINCT " else "SELECT "
  .ok (.text head :: (columns ++ body ++ order))

/-- A number of rows as a bound value. -/
def countPiece (count : UInt64) : Piece :=
  .value (toValue count)

/-- The page after the query. -/
def offsetFetchPieces (select : Select) : List Piece :=
  (select.offset.elim [] fun count => [.text " OFFSET ", countPiece count, .text " ROWS"]) ++
    select.limit.elim [] fun count =>
      [.text " FETCH NEXT ", countPiece count, .text " ROWS ONLY"]

/-- The number of the last row of the page. -/
def lastRow (skipped count : UInt64) : Except Error UInt64 :=
  if skipped.toNat + count.toNat < UInt64.size then .ok (skipped + count)
  else .error (.statement .pageRange {})

/-- The page around the query. -/
def rowNumberPieces (select : Select) (inner : List Piece) : Draft := do
  let skipped := select.offset.getD 0
  let last ← match select.limit with
    | none => .ok []
    | some count =>
      (lastRow skipped count).map fun last => [.text " WHERE ROWNUM <= ", countPiece last]
  .ok (.text "SELECT * FROM (SELECT q__.*, ROWNUM rn__ FROM (" :: (inner ++ (.text ") q__" ::
    (last ++ [.text ") WHERE rn__ > ", countPiece skipped]))))

/-- The query of the wanted rows. -/
def pagePieces (dialect : Dialect) (select : Select) : Draft :=
  if !select.isPaged then select.allPieces dialect
  else if select.lock.isSome then .error (.statement .lockedPage {})
  else do
    let inner ← select.allPieces dialect
    match dialect.pageStyle with
    | .offsetFetch => .ok (inner ++ select.offsetFetchPieces)
    | .rowNumber => select.rowNumberPieces inner

/-- The statement of pieces, for an operation on the source of the query. -/
def statement (dialect : Dialect) (select : Select) (operation : String) (pieces : List Piece) :
    Statement :=
  { dialect.assemble pieces .rows with operation, table := some select.source }

/-- The statement of the query. -/
def build (dialect : Dialect) (select : Select) : Except Error Statement := do
  let pieces ← select.pagePieces dialect
  let lock := select.lock.toList.map fun mode => Piece.text mode.sql
  .ok (select.statement dialect "select" (pieces ++ lock))

/-- Whether rows are grouped, so that groups are counted. -/
def isGrouped (select : Select) : Bool :=
  !(select.groups.isEmpty && select.groupFilter.isEmpty)

/-- The statement that counts the rows, or the groups, that the filters leave. -/
def buildCount (dialect : Dialect) (select : Select) : Except Error Statement := do
  let body ← select.bodyPieces dialect
  let pieces :=
    if select.isGrouped then
      Piece.text "SELECT COUNT(*) FROM (SELECT 1 c__" :: (body ++ [.text ") t"])
    else .text "SELECT COUNT(*)" :: body
  .ok (select.statement dialect "count" pieces)

end Select

end OracleSql
