/-
This file says what the calls on a builder of rows add up to. A row is given cell by cell, or rows
are given under columns that are named once. The first call with an effect decides between the two
forms, and the first call of the other form is remembered as a fault. So what is accepted comes from
calls of one form alone: one row with all the cells in the order of the calls, or all the rows in
their order under the names that were given last. A fault stays, whatever is called after it.
-/

import Mathlib.Data.List.Induction
import OracleSql.Proofs.Change.Parts

namespace OracleSql

/-! ### Calls -/

/-- A call on a builder of rows. -/
inductive RowsCall where
  /-- Gives a cell of the single row. -/
  | set (column : String) (value : Value)
  /-- Names the columns of several rows. -/
  | columns (names : List String)
  /-- Gives one of several rows. -/
  | row (values : List Value)
  /-- Gives one row after the other, if there are any. -/
  | rows (content : List (List Value))

namespace RowsCall

/-- The cells that a call gives to the single row. -/
def cells : RowsCall → List (String × Value)
  | set column value => [(column, value)]
  | _ => []

/-- The names that a call gives to the columns of several rows. -/
def names? : RowsCall → Option (List String)
  | columns names => some names
  | _ => none

/-- The rows that a call gives under the columns. -/
def given : RowsCall → List (List Value)
  | row values => [values]
  | rows content => content
  | _ => []

/-- The call belongs to the form of a single row. -/
def IsSingle : RowsCall → Prop
  | set _ _ => True
  | _ => False

/-- The call belongs to the form of several rows and has an effect. -/
def IsMany : RowsCall → Prop
  | set _ _ => False
  | columns _ => True
  | row _ => True
  | rows content => content ≠ []

/-- The fault of a call that comes after calls of the other form. -/
def mixing : RowsCall → RowsFault
  | set _ _ => .setAfterColumns
  | columns _ => .columnsAfterSet
  | row _ => .rowAfterSet
  | rows _ => .rowAfterSet

/-- The call is the first one of its form, after calls of the other form alone. -/
def Mixes (earlier : List RowsCall) (call : RowsCall) : Prop :=
  (∀ other ∈ earlier, ¬other.IsMany) ∧ (∃ other ∈ earlier, other.IsSingle) ∧ call.IsMany ∨
    (∀ other ∈ earlier, ¬other.IsSingle) ∧ (∃ other ∈ earlier, other.IsMany) ∧ call.IsSingle

/-- The form that calls give to rows, if all of them belong to one. -/
def Makes (calls : List RowsCall) : RowsForm → Prop
  | .single gathered => (∀ call ∈ calls, ¬call.IsMany) ∧ gathered = calls.flatMap cells
  | .many names content =>
    (∀ call ∈ calls, ¬call.IsSingle) ∧ (∃ call ∈ calls, call.IsMany) ∧
      names = (calls.filterMap names?).getLast?.getD [] ∧ content = calls.flatMap given

variable {calls : List RowsCall} {next : RowsCall}

theorem cells_eq_nil_iff {call : RowsCall} : call.cells = [] ↔ ¬call.IsSingle := by
  cases call <;> simp [cells, IsSingle]

theorem names?_eq_none {call : RowsCall} (single : ¬call.IsMany) : call.names? = none := by
  cases call <;> simp_all [names?, IsMany]

theorem given_eq_nil {call : RowsCall} (single : ¬call.IsMany) : call.given = [] := by
  cases call <;> simp_all [given, IsMany]

/-- Calls gave no cell just if none of them belongs to the form of a single row. -/
theorem flatMap_cells_eq_nil_iff :
    calls.flatMap cells = [] ↔ ∀ call ∈ calls, ¬call.IsSingle := by
  rw [List.flatMap_eq_nil_iff]
  exact forall₂_congr fun _ _ => cells_eq_nil_iff

/-- Calls of one form go on with a call of that form. -/
theorem Makes.single {gathered : List (String × Value)} (made : Makes calls (.single gathered))
    (own : ¬next.IsMany) : Makes (calls ++ [next]) (.single (gathered ++ next.cells)) := by
  refine ⟨List.forall_mem_append.mpr ⟨made.1, List.forall_mem_singleton.mpr own⟩, ?_⟩
  rw [made.2, List.flatMap_append, List.flatMap_singleton]

theorem getLast?_filterMap_concat (calls : List RowsCall) (next : RowsCall) :
    ((calls ++ [next]).filterMap names?).getLast?.getD [] =
      next.names?.getD ((calls.filterMap names?).getLast?.getD []) := by
  rw [List.filterMap_append, List.getLast?_append]
  cases given : next.names? <;> simp [given]

theorem Makes.many {names : List String} {content : List (List Value)}
    (made : Makes calls (.many names content)) (own : ¬next.IsSingle) :
    Makes (calls ++ [next]) (.many (next.names?.getD names) (content ++ next.given)) := by
  obtain ⟨several, ⟨call, member, effect⟩, rfl, rfl⟩ := made
  refine ⟨List.forall_mem_append.mpr ⟨several, List.forall_mem_singleton.mpr own⟩,
    ⟨call, List.mem_append_left _ member, effect⟩, (getLast?_filterMap_concat calls next).symm, ?_⟩
  rw [List.flatMap_append, List.flatMap_singleton]

/-- The first call with an effect opens the form of several rows. -/
theorem Makes.opened (made : Makes calls (.single [])) (effect : next.IsMany) :
    Makes (calls ++ [next]) (.many (next.names?.getD []) next.given) := by
  obtain ⟨none, empty⟩ := made
  have several := flatMap_cells_eq_nil_iff.mp empty.symm
  have own : ¬next.IsSingle := by
    cases next <;> simp_all [IsSingle, IsMany]
  have names : calls.filterMap names? = [] :=
    List.filterMap_eq_nil_iff.mpr fun call member => names?_eq_none (none call member)
  have rows : calls.flatMap given = [] :=
    List.flatMap_eq_nil_iff.mpr fun call member => given_eq_nil (none call member)
  refine ⟨List.forall_mem_append.mpr ⟨several, List.forall_mem_singleton.mpr own⟩,
    ⟨next, List.mem_append_right _ (List.mem_singleton_self next), effect⟩, ?_, ?_⟩
  · rw [getLast?_filterMap_concat, names]
    rfl
  · rw [List.flatMap_append, List.flatMap_singleton, rows, List.nil_append]

end RowsCall

/-! ### What a call does -/

namespace Rows

open RowsCall

/-- The rows after a call. -/
def call (rows : Rows) : RowsCall → Rows
  | .set column value => rows.set column value
  | .columns names => rows.setColumns names
  | .row values => rows.addRow values
  | .rows content => content.foldl addRow rows

/-- The rows that calls add up to. -/
def ofCalls (calls : List RowsCall) : Rows :=
  calls.foldl call {}

variable {rows : Rows} {calls : List RowsCall} {next : RowsCall}

theorem ofCalls_append (calls more : List RowsCall) :
    ofCalls (calls ++ more) = more.foldl call (ofCalls calls) :=
  List.foldl_append

/-- A fault that is remembered is not replaced by another. -/
theorem refuse_refuse (rows : Rows) (fault : RowsFault) :
    (rows.refuse fault).refuse fault = rows.refuse fault := by
  unfold refuse
  cases rows.fault <;> rfl

/-- Rows that are added to several ones follow them. -/
theorem foldl_addRow_many {names : List String} {before : List (List Value)}
    (form : rows.form = .many names before) (content : List (List Value)) :
    content.foldl addRow rows = { rows with form := .many names (before ++ content) } := by
  induction content generalizing rows before with
  | nil => rw [List.append_nil, ← form, List.foldl_nil]
  | cons values rest inductionHypothesis =>
    have added : rows.addRow values =
        { rows with form := .many names (before ++ [values]) } := by
      rw [addRow, form]
    rw [List.foldl_cons, added, inductionHypothesis rfl, List.append_assoc, List.singleton_append]

/-- Rows that are added to a single one are refused, all with one fault. -/
theorem foldl_addRow_single {cell : String × Value} {cells : List (String × Value)}
    (form : rows.form = .single (cell :: cells)) (values : List Value)
    (rest : List (List Value)) :
    (values :: rest).foldl addRow rows = rows.refuse .rowAfterSet := by
  have added : rows.addRow values = rows.refuse .rowAfterSet := by
    rw [addRow, form]
  rw [List.foldl_cons, added]
  induction rest with
  | nil => rfl
  | cons next others inductionHypothesis =>
    have again : (rows.refuse .rowAfterSet).addRow next = rows.refuse .rowAfterSet := by
      rw [addRow, show (rows.refuse .rowAfterSet).form = _ from form]
      exact refuse_refuse rows _
    rw [List.foldl_cons, again, inductionHypothesis]

/-- Before any cell, the first call with an effect opens the form of several rows. -/
theorem call_opens (form : rows.form = .single []) (effect : next.IsMany) :
    rows.call next = { rows with form := .many (next.names?.getD []) next.given } := by
  cases next with
  | set column value => exact absurd effect id
  | columns names => simp only [call, setColumns, form, names?, given, Option.getD_some]
  | row values => simp only [call, addRow, form, names?, given, Option.getD_none]
  | rows content =>
    obtain ⟨values, rest, rfl⟩ := List.exists_cons_of_ne_nil effect
    have added : rows.addRow values = { rows with form := .many [] [values] } := by
      rw [addRow, form]
    rw [call, List.foldl_cons, added, foldl_addRow_many rfl]
    rfl

/-- After cells, a call of the form of several rows is refused. -/
theorem call_refused {cell : String × Value} {cells : List (String × Value)}
    (form : rows.form = .single (cell :: cells)) (effect : next.IsMany) :
    rows.call next = rows.refuse next.mixing := by
  cases next with
  | set column value => exact absurd effect id
  | columns names => simp only [call, setColumns, form, mixing]
  | row values => simp only [call, addRow, form, mixing]
  | rows content =>
    obtain ⟨values, rest, rfl⟩ := List.exists_cons_of_ne_nil effect
    exact foldl_addRow_single form values rest

/-- Several rows go on with names and rows. -/
theorem call_many {names : List String} {content : List (List Value)}
    (form : rows.form = .many names content) (own : ¬next.IsSingle) :
    rows.call next =
      { rows with form := .many (next.names?.getD names) (content ++ next.given) } := by
  cases next with
  | set column value => exact absurd trivial own
  | columns others => simp only [call, setColumns, form, names?, given, Option.getD_some,
      List.append_nil]
  | row values => simp only [call, addRow, form, names?, given, Option.getD_none]
  | rows more => exact foldl_addRow_many form more

/-- A call of the form that the rows have goes on with it, and keeps the fault. A call of the other
form changes nothing but the fault. -/
theorem call_makes (made : Makes calls rows.form) (next : RowsCall) :
    Makes (calls ++ [next]) (rows.call next).form ∧ (rows.call next).fault = rows.fault ∨
      Mixes calls next ∧ rows.call next = rows.refuse next.mixing := by
  cases form : rows.form with
  | single gathered =>
    rw [form] at made
    by_cases effect : next.IsMany
    · cases gathered with
      | nil =>
        -- No cell was given yet, so the form is still open.
        rw [call_opens form effect]
        exact .inl ⟨made.opened effect, rfl⟩
      | cons cell cells =>
        have single : ∃ other ∈ calls, other.IsSingle := by
          by_contra none
          push Not at none
          have empty := flatMap_cells_eq_nil_iff.mpr none
          rw [← made.2] at empty
          cases empty
        exact .inr ⟨.inl ⟨made.1, single, effect⟩, call_refused form effect⟩
    · have gone : rows.call next = { rows with form := .single (gathered ++ next.cells) } := by
        cases next with
        | set column value => simp only [call, set, form, cells]
        | columns names => exact absurd trivial effect
        | row values => exact absurd trivial effect
        | rows content =>
          cases not_not.mp effect
          simp only [call, List.foldl_nil, cells, List.append_nil, ← form]
      rw [gone]
      exact .inl ⟨made.single effect, rfl⟩
  | many names content =>
    rw [form] at made
    by_cases single : next.IsSingle
    · refine .inr ⟨.inr ⟨made.1, made.2.1, single⟩, ?_⟩
      cases next with
      | set column value => simp only [call, set, form, mixing]
      | _ => exact absurd single id
    · rw [call_many form single]
      exact .inl ⟨made.many single, rfl⟩

theorem fault_refuse {fault : RowsFault} (remembered : rows.fault = some fault)
    (further : RowsFault) : (rows.refuse further).fault = some fault := by
  rw [refuse, remembered]
  rfl

theorem fault_addRow {fault : RowsFault} (remembered : rows.fault = some fault)
    (values : List Value) : (rows.addRow values).fault = some fault := by
  unfold addRow
  split
  · exact remembered
  · exact fault_refuse remembered _
  · exact remembered

/-- A fault that is remembered stays, whatever is called. -/
theorem fault_call {fault : RowsFault} (remembered : rows.fault = some fault) (next : RowsCall) :
    (rows.call next).fault = some fault := by
  cases next with
  | set column value =>
    show (rows.set column value).fault = _
    unfold set
    split
    · exact remembered
    · exact fault_refuse remembered _
  | columns names =>
    show (rows.setColumns names).fault = _
    unfold setColumns
    split
    · exact remembered
    · exact fault_refuse remembered _
    · exact remembered
  | row values => exact fault_addRow remembered values
  | rows content =>
    exact List.foldlRecOn (motive := fun rows => rows.fault = some fault) content addRow remembered
      fun _ kept values _ => fault_addRow kept values

theorem fault_foldl_call {fault : RowsFault} (remembered : rows.fault = some fault)
    (more : List RowsCall) : (more.foldl call rows).fault = some fault :=
  List.foldlRecOn (motive := fun rows => rows.fault = some fault) more call remembered
    fun _ kept next _ => fault_call kept next

/-! ### What calls add up to -/

/-- Calls of one form make it. Of other calls the first one that mixes the forms is remembered. -/
theorem ofCalls_makes (calls : List RowsCall) :
    Makes calls (ofCalls calls).form ∧ (ofCalls calls).fault = none ∨
      ∃ before next after, calls = before ++ next :: after ∧ Mixes before next ∧
        (ofCalls calls).fault = some next.mixing := by
  induction calls using List.reverseRecOn with
  | nil => exact .inl ⟨⟨List.forall_mem_nil _, rfl⟩, rfl⟩
  | append_singleton calls last inductionHypothesis =>
    have step : ofCalls (calls ++ [last]) = (ofCalls calls).call last := ofCalls_append calls [last]
    rw [step]
    rcases inductionHypothesis with ⟨made, clean⟩ | ⟨before, next, after, rfl, mixes, remembered⟩
    · rcases call_makes made last with ⟨goes, kept⟩ | ⟨mixes, refused⟩
      · exact .inl ⟨goes, kept.trans clean⟩
      · refine .inr ⟨calls, last, [], rfl, mixes, ?_⟩
        rw [refused, refuse, clean]
        rfl
    · exact .inr ⟨before, next, after ++ [last], by simp, mixes, fault_call remembered last⟩

/-- Calls of both forms leave the fault of the first one that mixes them, and so do these calls
with any more after them. -/
theorem fault_ofCalls_of_both (single : ∃ call ∈ calls, call.IsSingle)
    (many : ∃ call ∈ calls, call.IsMany) :
    ∃ before next after, calls = before ++ next :: after ∧ Mixes before next ∧
      ∀ more, (ofCalls (calls ++ more)).fault = some next.mixing := by
  obtain ⟨cell, givesCell, isCell⟩ := single
  obtain ⟨other, givesRows, effect⟩ := many
  rcases ofCalls_makes calls with ⟨made, -⟩ | ⟨before, next, after, split, mixes, remembered⟩
  · -- Calls that make a form belong to it alone.
    cases form : (ofCalls calls).form with
    | single gathered =>
      rw [form] at made
      exact absurd effect (made.1 other givesRows)
    | many names content =>
      rw [form] at made
      exact absurd isCell (made.1 cell givesCell)
  · refine ⟨before, next, after, split, mixes, fun more => ?_⟩
    rw [ofCalls_append]
    exact fault_foldl_call remembered more

/-- Rows of one form: the single row has all cells of the calls in their order; several rows are
those of the calls in their order, under the names that were given last. There is a value for each
column. -/
def OneForm (rows : Rows) (calls : List RowsCall) : Prop :=
  ((∀ call ∈ calls, ¬call.IsMany) ∧ rows.columns = (calls.flatMap cells).map Prod.fst ∧
      rows.content = [(calls.flatMap cells).map Prod.snd] ∨
    (∀ call ∈ calls, ¬call.IsSingle) ∧ (calls.filterMap names?).getLast? = some rows.columns ∧
      rows.content = calls.flatMap given) ∧
  ∀ values ∈ rows.content, values.length = rows.columns.length

/-- Rows that are accepted remember no fault, and have columns. -/
theorem clean_of_check {operation : String} (checked : rows.check operation = .ok ()) :
    rows.fault = none ∧ rows.columns ≠ [] := by
  unfold check at checked
  dsimp only at checked
  split at checked
  · cases checked
  next clean =>
    refine ⟨clean, fun none => ?_⟩
    rw [none, List.isEmpty_nil, if_pos rfl] at checked
    cases checked

/-- Rows that are accepted are of one form. -/
theorem oneForm_of_check {operation : String}
    (checked : (ofCalls calls).check operation = .ok ()) : (ofCalls calls).OneForm calls := by
  obtain ⟨clean, named⟩ := clean_of_check checked
  refine ⟨?_, widths_of_check checked⟩
  rcases ofCalls_makes calls with ⟨made, -⟩ | ⟨_, _, _, _, _, remembered⟩
  · cases form : (ofCalls calls).form with
    | single gathered =>
      rw [form] at made
      have columns : (ofCalls calls).columns = gathered.map Prod.fst := by
        rw [Rows.columns, form]
      rw [columns] at named ⊢
      obtain ⟨cell, rest, rfl⟩ :=
        List.exists_cons_of_ne_nil fun empty => named (congrArg (List.map Prod.fst) empty)
      have content : (ofCalls calls).content = [(cell :: rest).map Prod.snd] := by
        rw [Rows.content, form]
      exact .inl ⟨made.1, congrArg _ made.2, by rw [content, made.2]⟩
    | many names content =>
      rw [form] at made
      obtain ⟨several, -, last, rows⟩ := made
      have columns : (ofCalls calls).columns = names := by
        rw [Rows.columns, form]
      rw [columns] at named ⊢
      refine .inr ⟨several, ?_, ?_⟩
      · cases found : (calls.filterMap names?).getLast? with
        | none =>
          rw [found] at last
          exact absurd last named
        | some others =>
          rw [found] at last
          exact congrArg some last.symm
      · rw [Rows.content, form]
        exact rows
  · rw [clean] at remembered
    cases remembered

/-- Rows with a fault that is remembered are refused with it. -/
theorem check_of_fault {fault : RowsFault} (remembered : rows.fault = some fault)
    (operation : String) : rows.check operation = .error (.validation (.rows operation fault)) := by
  unfold check
  rw [remembered]

end Rows

/-! ### Builders -/

/-- An insertion after a call. -/
def Insert.call (insert : Insert) : RowsCall → Insert
  | .set column value => insert.set column value
  | .columns names => insert.columns names
  | .row values => insert.row values
  | .rows content => content.foldl Insert.row insert

/-- A merger after a call. -/
def Merge.call (merge : Merge) : RowsCall → Merge
  | .set column value => merge.set column value
  | .columns names => merge.columns names
  | .row values => merge.row values
  | .rows content => content.foldl Merge.row merge

/-- A call on an insertion is one on its rows. -/
theorem Insert.call_eq (insert : Insert) (next : RowsCall) :
    insert.call next = { insert with rows := insert.rows.call next } := by
  cases next with
  | rows content =>
    have step (rows : Rows) (values : List Value) :
        Insert.row { insert with rows } values = { insert with rows := rows.addRow values } := rfl
    exact List.foldl_hom (fun rows => { insert with rows }) step
  | _ => rfl

/-- A call on a merger is one on its rows. -/
theorem Merge.call_eq (merge : Merge) (next : RowsCall) :
    merge.call next = { merge with rows := merge.rows.call next } := by
  cases next with
  | rows content =>
    have step (rows : Rows) (values : List Value) :
        Merge.row { merge with rows } values = { merge with rows := rows.addRow values } := rfl
    exact List.foldl_hom (fun rows => { merge with rows }) step
  | _ => rfl

/-- An insertion after calls on it. -/
def Insert.called (insert : Insert) (calls : List RowsCall) : Insert :=
  calls.foldl Insert.call { insert with rows := {} }

/-- A merger after calls on it. -/
def Merge.called (merge : Merge) (calls : List RowsCall) : Merge :=
  calls.foldl Merge.call { merge with rows := {} }

theorem Insert.called_eq (insert : Insert) (calls : List RowsCall) :
    insert.called calls = { insert with rows := Rows.ofCalls calls } := by
  have step (rows : Rows) (next : RowsCall) :
      Insert.call { insert with rows } next = { insert with rows := rows.call next } :=
    call_eq _ next
  exact List.foldl_hom (fun rows => { insert with rows }) step

theorem Merge.called_eq (merge : Merge) (calls : List RowsCall) :
    merge.called calls = { merge with rows := Rows.ofCalls calls } := by
  have step (rows : Rows) (next : RowsCall) :
      Merge.call { merge with rows } next = { merge with rows := rows.call next } :=
    call_eq _ next
  exact List.foldl_hom (fun rows => { merge with rows }) step

/-- An insertion of rows with a remembered fault is refused with it. -/
theorem Insert.plan_of_fault {insert : Insert} {fault : RowsFault}
    (remembered : insert.rows.fault = some fault) (dialect : Dialect) :
    insert.plan dialect = .error (.validation (.rows "INSERT" fault)) := by
  rw [plan, planUnplaced, Rows.check_of_fault remembered]
  rfl

/-- A merger with keys of rows with a remembered fault is refused with it, unless it is to return
columns. -/
theorem Merge.plan_of_fault {merge : Merge} {fault : RowsFault}
    (remembered : merge.rows.fault = some fault) (unwanted : merge.returning = [])
    (keyed : merge.keys ≠ []) (dialect : Dialect) :
    merge.plan dialect = .error (.validation (.rows "MERGE" fault)) := by
  obtain ⟨key, keys, same⟩ := List.exists_cons_of_ne_nil keyed
  rw [plan, planUnplaced, unwanted, same, Rows.check_of_fault remembered]
  rfl

/-- Rows that a planned insertion puts in passed the check. -/
theorem Insert.check_of_plan {dialect : Dialect} {insert : Insert} {plan : Plan}
    (planned : insert.plan dialect = .ok plan) : insert.rows.check "INSERT" = .ok () :=
  (parts_of_planUnplaced (mapError_eq_ok.mp planned)).1

theorem Merge.check_of_plan {dialect : Dialect} {merge : Merge} {plan : Plan}
    (planned : merge.plan dialect = .ok plan) : merge.rows.check "MERGE" = .ok () :=
  (parts_of_planUnplaced (mapError_eq_ok.mp planned)).1

/-- **The rows of a builder are of one form, and no later call mends a mixture.** Calls on an
insertion and on a merger add up to the same rows. If these pass the check, in a build or outside of
one, they are of one form, with all that was given for it in the order of the calls. If there are
calls of both forms, the first one that mixes them is the cause for which the rows are refused, now
and after any further calls. No insertion and no merger is then planned; the error is that of the
rows, but for a merger that is refused before for its keys or for returned columns. -/
theorem RowsCall.forms_never_mix (insert : Insert) (merge : Merge) (calls : List RowsCall) :
    (insert.called calls).rows = Rows.ofCalls calls ∧
    (merge.called calls).rows = Rows.ofCalls calls ∧
    (∀ operation, (Rows.ofCalls calls).check operation = .ok () →
      (Rows.ofCalls calls).OneForm calls) ∧
    (∀ dialect plan, (insert.called calls).plan dialect = .ok plan ∨
        (merge.called calls).plan dialect = .ok plan → (Rows.ofCalls calls).OneForm calls) ∧
    ((∃ call ∈ calls, call.IsSingle) → (∃ call ∈ calls, call.IsMany) →
      ∃ before next after, calls = before ++ next :: after ∧ Mixes before next ∧ ∀ more,
        (∀ operation, (Rows.ofCalls (calls ++ more)).check operation =
          .error (.validation (.rows operation next.mixing))) ∧
        ∀ dialect, (insert.called (calls ++ more)).plan dialect =
            .error (.validation (.rows "INSERT" next.mixing)) ∧
          (∀ plan, (merge.called (calls ++ more)).plan dialect ≠ .ok plan) ∧
          (merge.returning = [] → merge.keys ≠ [] → (merge.called (calls ++ more)).plan dialect =
            .error (.validation (.rows "MERGE" next.mixing)))) := by
  have inserted (calls : List RowsCall) : (insert.called calls).rows = Rows.ofCalls calls :=
    congrArg Insert.rows (insert.called_eq calls)
  have merged (calls : List RowsCall) : (merge.called calls).rows = Rows.ofCalls calls :=
    congrArg Merge.rows (merge.called_eq calls)
  refine ⟨inserted calls, merged calls, fun _ => Rows.oneForm_of_check, ?_, ?_⟩
  · rintro dialect plan (planned | planned)
    · exact Rows.oneForm_of_check (inserted calls ▸ Insert.check_of_plan planned)
    · exact Rows.oneForm_of_check (merged calls ▸ Merge.check_of_plan planned)
  · intro single many
    obtain ⟨before, next, after, split, mixes, remembered⟩ :=
      Rows.fault_ofCalls_of_both single many
    refine ⟨before, next, after, split, mixes, fun more =>
      ⟨Rows.check_of_fault (remembered more), fun dialect => ?_⟩⟩
    have kept : (merge.called (calls ++ more)).rows.fault = some next.mixing := by
      rw [merged, remembered more]
    refine ⟨Insert.plan_of_fault (by rw [inserted, remembered more]) dialect, ?_, ?_⟩
    · intro plan planned
      have refused := Rows.check_of_fault kept "MERGE"
      rw [Merge.check_of_plan planned] at refused
      cases refused
    · intro unwanted keyed
      refine Merge.plan_of_fault kept ?_ ?_ dialect
      · rw [merge.called_eq]
        exact unwanted
      · rw [merge.called_eq]
        exact keyed

/-- A cell, then a row, then names: the row is the first call that mixes the forms, and its fault is
the one that stays. -/
theorem RowsCall.forms_never_mix_row_after_cell :
    let calls : List RowsCall := [.set "a" (.int 1), .rows [], .row [.int 2], .columns ["a"]]
    let merge : Merge := { table := "t", keys := ["a"] }
    (Rows.ofCalls [.columns ["a"], .row [.int 1]]).OneForm [.columns ["a"], .row [.int 1]] ∧
      (merge.called (calls ++ [.set "b" .null])).plan {} =
        .error (.validation (.rows "MERGE" .rowAfterSet)) := by
  intro calls merge
  refine ⟨(forms_never_mix { table := "t" } merge _).2.2.1 "INSERT" (by decide +kernel), ?_⟩
  obtain ⟨-, -, -, -, mixing⟩ := forms_never_mix { table := "t" } merge calls
  obtain ⟨before, next, after, split, mixes, refused⟩ :=
    mixing ⟨_, List.mem_cons_self, trivial⟩ ⟨.columns ["a"], by simp [calls], trivial⟩
  have row : next.mixing = .rowAfterSet := by
    have checked := (refused []).1 "INSERT"
    have kept : (Rows.ofCalls (calls ++ [])).check "INSERT" =
        .error (.validation (.rows "INSERT" .rowAfterSet)) := by decide +kernel
    have same := Error.validation.inj (Except.error.inj (checked.symm.trans kept))
    exact (ValidationFault.rows.inj same).2
  exact row ▸ ((refused [.set "b" .null]).2 {}).2.2 rfl (by decide)

end OracleSql
