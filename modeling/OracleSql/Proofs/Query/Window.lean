/-
This file says which rows a page selects. A server reads the clauses around a query with the values
bound in them: OFFSET skips so many rows and FETCH takes so many of the others; ROWNUM counts the
rows that its condition lets through, and a condition outside goes by these numbers. Either way the
rows from one number to another are left, counted from one.
-/

import OracleSql.Proofs.Column.RoundTrip
import OracleSql.Proofs.Column.Stored
import OracleSql.Proofs.Reading.Token

namespace OracleSql

/-! ### Numbered rows -/

section

variable {α : Type}

/-- The rows from one number to another, counted from one. -/
def rowsBetween (first last : Nat) (rows : List α) : List α :=
  ((rows.zipIdx 1).filter fun row => first ≤ row.2 && row.2 ≤ last).map Prod.fst

/-- Rows with the numbers that ROWNUM gives them, behind so many that have one: each row is tried
with the next number, which is given only if the condition lets the row through. -/
def rowNumbered (keeps : Nat → Bool) : (given : Nat) → (rows : List α) → List (α × Nat)
  | _, [] => []
  | given, row :: rest =>
    if keeps (given + 1) then (row, given + 1) :: rowNumbered keeps (given + 1) rest
    else rowNumbered keeps given rest

theorem filter_ge_zipIdx (first start : Nat) (rows : List α) :
    ((rows.zipIdx start).filter fun row => first ≤ row.2).map Prod.fst =
      rows.drop (first - start) := by
  induction rows generalizing start with
  | nil => rw [List.drop_nil]; rfl
  | cons row rest inductionHypothesis =>
    rw [List.zipIdx_cons, List.filter_cons]
    by_cases reached : first ≤ start
    · rw [if_pos (decide_eq_true reached), List.map_cons, inductionHypothesis,
        Nat.sub_eq_zero_of_le reached, Nat.sub_eq_zero_of_le (Nat.le_succ_of_le reached)]
      rfl
    · have next : first - start = first - (start + 1) + 1 := by omega
      rw [if_neg (by rwa [decide_eq_true_iff]), inductionHypothesis, next, List.drop_succ_cons]

theorem filter_le_zipIdx (last start : Nat) (rows : List α) :
    ((rows.zipIdx start).filter fun row => row.2 ≤ last) =
      (rows.take (last + 1 - start)).zipIdx start := by
  induction rows generalizing start with
  | nil => rw [List.take_nil]; rfl
  | cons row rest inductionHypothesis =>
    rw [List.zipIdx_cons, List.filter_cons, inductionHypothesis]
    by_cases within : start ≤ last
    · have next : last + 1 - start = last + 1 - (start + 1) + 1 := by omega
      rw [if_pos (decide_eq_true within), next, List.take_succ_cons, List.zipIdx_cons]
    · have past : last + 1 - start = 0 := by omega
      have further : last + 1 - (start + 1) = 0 := by omega
      rw [if_neg (by rwa [decide_eq_true_iff]), past, further, List.take_zero, List.take_zero]
      rfl

theorem rowsBetween_eq (skipped last : Nat) (rows : List α) :
    rowsBetween (skipped + 1) last rows = (rows.take last).drop skipped := by
  rw [rowsBetween, ← List.filter_filter, filter_le_zipIdx, filter_ge_zipIdx]
  rfl

/-- Without a condition every row is given its number. -/
theorem rowNumbered_all (given : Nat) (rows : List α) :
    rowNumbered (fun _ => true) given rows = rows.zipIdx (given + 1) := by
  induction rows generalizing given with
  | nil => rfl
  | cons row rest inductionHypothesis =>
    rw [rowNumbered, if_pos rfl, inductionHypothesis, List.zipIdx_cons]

/-- A condition on the greatest number stops the numbering there. -/
theorem rowNumbered_le (last given : Nat) (rows : List α) :
    rowNumbered (fun number => number ≤ last) given rows =
      (rows.take (last - given)).zipIdx (given + 1) := by
  induction rows generalizing given with
  | nil => rw [List.take_nil]; rfl
  | cons row rest inductionHypothesis =>
    rw [rowNumbered]
    by_cases within : given + 1 ≤ last
    · have next : last - given = last - (given + 1) + 1 := by omega
      rw [if_pos (decide_eq_true within), inductionHypothesis, next, List.take_succ_cons,
        List.zipIdx_cons]
    · have past : last - given = 0 := by omega
      rw [if_neg (by rwa [decide_eq_true_iff]), inductionHypothesis, past, List.take_zero,
        List.take_zero]

/-- A condition that does not let the first number through lets no row through. -/
example : rowNumbered (fun number => 1 < number) 0 ["first", "second"] = [] := rfl

end

/-! ### Windows -/

/-- What a server does with the rows of a query. -/
inductive Window where
  /-- It skips so many of them, and takes all the others or so many of them. -/
  | skipping (skipped : Nat) (fetched : Option Nat)
  /-- It numbers them, up to a number if there is one, and keeps those above another number. -/
  | numbering (last : Option Nat) (above : Nat)
  deriving DecidableEq

namespace Window

/-- The rows that are left of those of the query. -/
def rows {α : Type} (window : Window) (all : List α) : List α :=
  match window with
  | skipping skipped fetched => fetched.elim (all.drop skipped) (all.drop skipped).take
  | numbering last above =>
    ((rowNumbered (fun number => last.all fun last => number ≤ last) 0 all).filter
      fun row => above < row.2).map Prod.fst

variable {α : Type}

/-- Rows that are skipped and fetched are those from the one after the skipped ones. -/
theorem rows_skipping (skipped : Nat) (fetched : Option Nat) (all : List α) :
    (skipping skipped fetched).rows all = rowsBetween (skipped + 1)
      (fetched.elim all.length fun count => min (skipped + count) all.length) all := by
  rw [rowsBetween_eq]
  cases fetched with
  | none =>
    rw [Option.elim_none, List.take_length]
    rfl
  | some count =>
    rw [Option.elim_some, ← List.take_eq_take_min, List.drop_take, Nat.add_sub_cancel_left]
    rfl

/-- Rows that are numbered up to the last one wanted are the same ones. -/
theorem rows_numbering (above : Nat) (fetched : Option Nat) (all : List α) :
    (numbering (fetched.map (above + ·)) above).rows all = rowsBetween (above + 1)
      (fetched.elim all.length fun count => min (above + count) all.length) all := by
  rw [rowsBetween_eq]
  cases fetched with
  | none =>
    rw [Option.elim_none, List.take_length, ← Nat.add_sub_cancel above 1, ← filter_ge_zipIdx,
      ← rowNumbered_all, Nat.add_sub_cancel]
    rfl
  | some count =>
    have numbered := rowNumbered_le (above + count) 0 all
    rw [Option.elim_some, ← List.take_eq_take_min, ← Nat.add_sub_cancel above 1,
      ← filter_ge_zipIdx, Nat.add_sub_cancel, ← Nat.sub_zero (above + count), ← numbered]
    rfl

end Window

/-! ### Reading a window -/

/-- The number of rows that a value stands for. -/
def Value.count? (value : Value) : Option Nat :=
  value.rational?.bind fun number =>
    if number = number.num.toNat then some number.num.toNat else none

namespace Window

/-- How many rows are fetched, where only a clause can stand that says so. -/
def fetched? : List Token → Option (Option Nat)
  | [] => some none
  | [.word fetch, .word next, .marker (.value count), .word rows, .word only] =>
    if [fetch, next, rows, only] = ["FETCH", "NEXT", "ROWS", "ONLY"].map String.toList then
      count.count?.map some
    else none
  | _ => none

/-- The window that clauses behind a query make. -/
def ofClauses? : List Token → Option Window
  | .word offset :: .marker (.value count) :: .word rows :: rest =>
    if [offset, rows] = ["OFFSET", "ROWS"].map String.toList then do
      let skipped ← count.count?
      let fetched ← fetched? rest
      some (skipping skipped fetched)
    else none
  | tokens => (fetched? tokens).map (skipping 0)

/-- The tokens before a query whose rows are numbered. -/
def numberingHead : List Token :=
  [.word "SELECT".toList, .sign '*', .word "FROM".toList, .opening, .word "SELECT".toList,
    .word "q__".toList, .sign '.', .sign '*', .sign ',', .word "ROWNUM".toList,
    .word "rn__".toList, .word "FROM".toList, .opening]

/-- The window that the condition on the numbers makes, where they go up to the last one. -/
def ofNumbers? (last : Option Nat) : List Token → Option Window
  | [.closing, .word condition, .word number, .sign '>', .marker (.value above)] =>
    if [condition, number] = ["WHERE", "rn__"].map String.toList then
      above.count?.map (numbering last)
    else none
  | _ => none

/-- The window that stands behind a query whose rows are numbered. -/
def ofNumbering? : List Token → Option Window
  | .closing :: .word inner :: .word condition :: .word counter :: .sign '<' :: .sign '=' ::
      .marker (.value count) :: rest =>
    if [inner, condition, counter] = ["q__", "WHERE", "ROWNUM"].map String.toList then do
      let last ← count.count?
      ofNumbers? (some last) rest
    else none
  | .closing :: .word inner :: rest => if inner = "q__".toList then ofNumbers? none rest else none
  | _ => none

/-- The window that the tokens before and behind a query make. -/
def ofTokens? (before behind : List Token) : Option Window :=
  if before.isEmpty then ofClauses? behind
  else if before = numberingHead then ofNumbering? behind
  else none

theorem ofTokens?_numberingHead (behind : List Token) :
    ofTokens? numberingHead behind = ofNumbering? behind :=
  (if_neg Bool.false_ne_true).trans (if_pos rfl)

end Window

theorem Value.count?_toValue (count : UInt64) : (toValue count).count? = some count.toNat := by
  have number : (toValue count).rational? = some ((count.toNat : Int) : ℚ) :=
    (writes_ofNat64 count).rational?
  rw [Value.count?, number, Option.bind_some]
  simp

end OracleSql
