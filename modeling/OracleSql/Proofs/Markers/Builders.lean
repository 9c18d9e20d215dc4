/-
This file follows the builders of queries and of changes through the places of a statement. Each of
them starts at the beginning of the text and ends at a place where a statement may end; a clause
that may be missing leads from a tight place to a tight place. The places of returned columns come
last. Parts that are written by hand are left out, since nothing is known of their text.
-/

import OracleSql.Proofs.Change.Parts
import OracleSql.Proofs.Markers.Clauses
import OracleSql.Proofs.Query.Parts

namespace OracleSql

/-! ### Queries -/

/-- Whether the item is not written by hand. -/
def SelectItem.isComposed : SelectItem → Bool
  | column _ => true
  | expression _ => false

/-- Whether the sort key is not written by hand. -/
def SortKey.isComposed : SortKey → Bool
  | expression _ => false
  | _ => true

/-- Whether no part of the query is written by hand. -/
def Select.isComposed (select : Select) : Bool :=
  select.columns.all SelectItem.isComposed && select.joins.all (·.on.isComposed) &&
    select.filter.isComposed && select.groups.all SelectItem.isComposed &&
    select.groupFilter.isComposed && select.order.all SortKey.isComposed

section

variable (dialect : Dialect)

theorem SelectItem.listPieces_leads {items : List SelectItem}
    (composed : items.all SelectItem.isComposed = true) :
    Ensures (Leads .free · .tight) (listPieces dialect items) := by
  rw [List.all_eq_true] at composed
  refine Ensures.map (Ensures.mapM fun item member => ?_) fun _ each =>
    Leads.join rfl (by decide) each
  cases item with
  | column name => exact dialect.namePiece_leads name
  | expression sql => cases composed _ member

theorem Join.pieces_leads {join : Join} (composed : join.on.isComposed = true) :
    Ensures (Leads .tight · .tight) (join.pieces dialect) := by
  have opening : Leads .tight [.text (" " ++ join.kind.sql ++ " ")] .free := by
    cases join.kind <;> decide
  have middle : Leads .tight [.text " ON "] .free := by decide
  refine Ensures.bind (TableReference.pieces_leads dialect join.table) fun table named => ?_
  refine Ensures.bind (join.on.pieces_leads dialect composed) fun condition leads => Ensures.ok ?_
  exact opening.cons (named.append (middle.cons leads))

theorem SortKey.pieces_leads {key : SortKey} (composed : key.isComposed = true) :
    Ensures (Leads .free · .tight) (key.pieces dialect) := by
  have up : Leads .tight [.text " ASC"] .tight := by decide
  have down : Leads .tight [.text " DESC"] .tight := by decide
  cases key with
  | ascending column =>
    exact Ensures.map (dialect.namePiece_leads column) fun _ named => named.append up
  | descending column =>
    exact Ensures.map (dialect.namePiece_leads column) fun _ named => named.append down
  | expression sql => cases composed

theorem Leads.number (number : Nat) : Leads .free [.text (toString number)] .word := by
  have digits : (toString number).toList = Nat.toDigits 10 number := Nat.toList_repr
  have sign {letter : Char} (digit : letter.isDigit = true) : Sign.ofLetter letter = .word := by
    have special : ∀ letter ∈ [' ', '(', ')', ',', '.', '=', '<', '>', '*'],
        letter.isDigit = false := by
      rw [← List.forall_iff_forall_mem]
      decide
    have plain : ¬isSeparator letter = true := fun separator => by
      rw [special letter (List.contains_iff_mem.mp separator)] at digit
      cases digit
    have unquoted : letter ≠ '"' := by
      rintro rfl
      cases digit
    rw [Sign.ofLetter, if_neg plain, if_neg unquoted,
      if_pos (by simp [Marker.isNameChar, Char.isAlphanum, digit])]
  have inside (letters : List Char) (each : ∀ letter ∈ letters, letter.isDigit = true) :
      Place.word.run (letters.map Sign.ofLetter) = some .word := by
    induction letters with
    | nil => rfl
    | cons letter rest inductionHypothesis =>
      obtain ⟨first, others⟩ := List.forall_mem_cons.mp each
      rw [List.map_cons, sign first]
      exact inductionHypothesis others
  have each : ∀ letter ∈ Nat.toDigits 10 number, letter.isDigit = true := fun letter member =>
    Nat.isDigit_of_mem_toDigits (by decide) (by decide) member
  refine iff_run.mpr ⟨.word, ?_, rfl⟩
  rw [List.flatMap_singleton, Piece.signs, digits]
  cases written : Nat.toDigits 10 number with
  | nil => exact absurd written Nat.toDigits_ne_nil
  | cons letter rest =>
    rw [written] at each
    obtain ⟨first, others⟩ := List.forall_mem_cons.mp each
    rw [List.map_cons, sign first]
    exact inside rest others

theorem LockMode.sql_leads (mode : LockMode) : Leads .tight [.text mode.sql] .tight := by
  cases mode with
  | waitSeconds count =>
    have opening : Leads .tight [.text " FOR UPDATE WAIT "] .free := by decide
    exact (opening.textAppend (Leads.number count.toNat)).mono rfl rfl
  | _ => decide

namespace Select

theorem listClause_leads {keyword : String} {items : List SelectItem}
    (composed : items.all SelectItem.isComposed = true)
    (opens : Leads .tight [.text keyword] .free) :
    Ensures (Leads .tight · .tight) (listClause dialect keyword items) := by
  unfold listClause
  split
  · exact Ensures.ok (Leads.nil rfl)
  · exact Ensures.map (SelectItem.listPieces_leads dialect composed) fun _ leads => opens.cons leads

variable {select : Select}

theorem bodyPieces_leads (composed : select.isComposed = true) :
    Ensures (Leads .tight · .tight) (select.bodyPieces dialect) := by
  simp only [isComposed, Bool.and_eq_true, List.all_eq_true] at composed
  obtain ⟨⟨⟨⟨⟨_, joins⟩, filter⟩, groups⟩, groupFilter⟩, _⟩ := composed
  have opening : Leads .tight [.text " FROM "] .free := by decide
  refine Ensures.bind (TableReference.pieces_leads dialect select.source) fun source named => ?_
  refine Ensures.bind (Ensures.mapM fun join member =>
    Join.pieces_leads dialect (joins join member)) fun joined each => ?_
  refine Ensures.bind (select.filter.clause_leads dialect filter (by decide)) fun rows kept => ?_
  refine Ensures.bind (listClause_leads dialect (List.all_eq_true.mpr groups) (by decide))
    fun groups grouped => ?_
  refine Ensures.bind (select.groupFilter.clause_leads dialect groupFilter (by decide))
    fun having left => Ensures.ok ?_
  exact opening.cons ((((named.append (Leads.flatten each)).append kept).append grouped).append
    left)

theorem allPieces_leads (composed : select.isComposed = true) :
    Ensures (Leads .free · .tight) (select.allPieces dialect) := by
  have body := bodyPieces_leads dialect composed
  simp only [isComposed, Bool.and_eq_true] at composed
  obtain ⟨⟨⟨⟨⟨columns, _⟩, _⟩, _⟩, _⟩, order⟩ := composed
  have selected : Ensures (Leads .free · .tight) (select.columnPieces dialect) := by
    unfold columnPieces
    split
    · exact Ensures.ok (by decide)
    · exact SelectItem.listPieces_leads dialect columns
  have ordered : Ensures (Leads .tight · .tight) (select.orderPieces dialect) := by
    unfold orderPieces
    split
    · exact Ensures.ok (Leads.nil rfl)
    · rw [List.all_eq_true] at order
      refine Ensures.bind (Ensures.mapM fun key member =>
        SortKey.pieces_leads dialect (order key member)) fun keys each => Ensures.ok ?_
      have opening : Leads .tight [.text " ORDER BY "] .free := by decide
      exact opening.cons (Leads.join rfl (by decide) each)
  refine Ensures.bind selected fun columns chosen => ?_
  refine Ensures.bind body fun body written => ?_
  refine Ensures.bind ordered fun order sorted => Ensures.ok ?_
  have head : Leads .free [.text (if select.distinct then "SELECT DISTINCT " else "SELECT ")]
      .free := by
    cases select.distinct <;> decide
  exact head.cons ((chosen.append written).append sorted)

theorem countPiece_leads (count : UInt64) : Leads .free [countPiece count] .tight :=
  Condition.value_leads _

theorem offsetFetchPieces_leads : Leads .tight select.offsetFetchPieces .tight := by
  have skips : Leads .tight [.text " OFFSET "] .free := by decide
  have fetches : Leads .tight [.text " FETCH NEXT "] .free := by decide
  have rows : Leads .tight [.text " ROWS"] .tight := by decide
  have only : Leads .tight [.text " ROWS ONLY"] .tight := by decide
  have start : Leads .tight
      (select.offset.elim [] fun count => [.text " OFFSET ", countPiece count, .text " ROWS"])
      .tight := by
    cases select.offset with
    | none => exact Leads.nil rfl
    | some count => exact skips.cons ((countPiece_leads count).cons rows)
  refine start.append ?_
  cases select.limit with
  | none => exact Leads.nil rfl
  | some count => exact fetches.cons ((countPiece_leads count).cons only)

theorem aroundPage_leads {inner : List Piece} (leads : Leads .free inner .tight)
    (last : Option Value) (skipped : UInt64) :
    Leads .free (aroundPage inner last skipped) .tight := by
  have opening : Leads .free [.text "SELECT * FROM (SELECT q__.*, ROWNUM rn__ FROM ("] .free := by
    decide
  have named : Leads .tight [.text ") q__"] .tight := by decide
  have bounded : Leads .tight (last.elim [] fun count => [.text " WHERE ROWNUM <= ", .value count])
      .tight := by
    cases last with
    | none => exact Leads.nil rfl
    | some count =>
      have keyword : Leads .tight [.text " WHERE ROWNUM <= "] .free := by decide
      exact keyword.cons (Condition.value_leads count)
  have closing : Leads .tight [.text ") WHERE rn__ > "] .free := by decide
  exact opening.cons (leads.append (named.cons (bounded.append
    (closing.cons (countPiece_leads skipped)))))

theorem pagePieces_leads (composed : select.isComposed = true) :
    Ensures (Leads .free · .tight) (select.pagePieces dialect) := by
  intro pieces built
  obtain ⟨inner, all, shape⟩ := parts_of_pagePieces built
  have leads := allPieces_leads dialect composed inner all
  rcases shape with rfl | rfl | ⟨last, rfl⟩
  · exact leads
  · exact leads.append offsetFetchPieces_leads
  · exact aroundPage_leads leads last _

end Select

/-! ### Parts of changes -/

theorem Rows.valuePieces_leads (values : List Value) :
    Leads .free (valuePieces values) .tight :=
  Leads.join rfl (by decide) (List.forall_mem_map.mpr fun value _ => Condition.value_leads value)

theorem Rows.valuePieces_valueCount (values : List Value) :
    Piece.valueCount (valuePieces values) = values.length := by
  unfold valuePieces
  rw [Piece.valueCount_join]
  induction values with
  | nil => rfl
  | cons value rest inductionHypothesis =>
    rw [List.map_cons, List.flatten_cons, Piece.valueCount_append, inductionHypothesis,
      List.length_cons, Nat.add_comm]
    rfl

/-- The places of returned columns come last and hold no values. -/
theorem Dialect.returningPieces_leads (table : Option Table) (columns : List String) (rows : Nat) :
    Ensures (fun pieces => Leads .tight pieces .returned ∧ Piece.valueCount pieces = 0)
      (dialect.returningPieces table columns rows) := by
  unfold returningPieces
  split
  · exact Ensures.ok ⟨Leads.nil rfl, rfl⟩
  · refine Ensures.bind (Ensures.and (dialect.namePieces_leads columns)
      (dialect.namePieces_valueCount columns)) fun names ⟨named, bare⟩ => ?_
    have place (column : String) : Ensures (fun pieces =>
        Leads .listed pieces .returned ∧ Piece.valueCount pieces = 0)
        (dialect.outPiece table rows column) := by
      refine (dialect.outPiece_eq table rows column).mono fun pieces ⟨columnType, single⟩ => ?_
      subst single
      exact ⟨by unfold Leads; rfl, rfl⟩
    refine Ensures.bind (Ensures.mapM fun column _ => place column) fun outs each => ?_
    have opening : Leads .tight [.text " RETURNING "] .free := by decide
    have middle : Leads .tight [.text " INTO "] .free := by decide
    have listed : Leads .listed (Piece.join ", " outs) .returned :=
      Leads.join rfl (by decide) fun out member => (each out member).1
    refine Ensures.ok ⟨opening.cons (named.append (middle.cons (listed.mono rfl rfl))), ?_⟩
    rw [Piece.valueCount_text, Piece.valueCount_append, bare, Piece.valueCount_text,
      Piece.valueCount_join_eq_zero ", " fun out member => (each out member).2]

end

end OracleSql
