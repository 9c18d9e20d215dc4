/-
This file follows names, conditions and clauses through the places of a statement. A name starts
where a marker could stand and ends tight; so does a condition of which no part is written by hand,
whatever its columns and values are. These are the parts that the builders put together.
-/

import OracleSql.Proofs.Condition.Tree
import OracleSql.Proofs.Identifier.Segments
import OracleSql.Proofs.Markers.Place
import OracleSql.TableReference

namespace OracleSql

/-! ### Names -/

namespace Leads

theorem quoted {stored : String} (free : '"' ∉ stored.toList) :
    Leads .free [.text (Identifier.inQuotes stored)] .tight := by
  have inside (letters : List Char) (free : '"' ∉ letters) :
      Place.quoted.run (letters.map Sign.ofLetter) = some .quoted := by
    induction letters with
    | nil => rfl
    | cons letter rest inductionHypothesis =>
      rw [List.mem_cons, not_or] at free
      have stepped : Place.quoted.step (Sign.ofLetter letter) = some .quoted := by
        rcases Sign.ofLetter_cases letter with sign | sign | sign | sign
        · rw [sign]; rfl
        · exact absurd ((Sign.ofLetter_eq_quote letter).mp sign).symm free.1
        · rw [sign]; rfl
        · rw [sign]; rfl
      rw [List.map_cons, Place.run, List.foldlM_cons, Option.bind_eq_bind, stepped]
      exact inductionHypothesis free.2
  refine iff_run.mpr ⟨.tight, ?_, rfl⟩
  have signs : [Piece.text (Identifier.inQuotes stored)].flatMap Piece.signs =
      .quote :: (stored.toList.map Sign.ofLetter ++ [.quote]) := by
    rw [List.flatMap_singleton, Piece.signs, Identifier.inQuotes, String.toList_append,
      String.toList_append, List.map_append, List.map_append]
    rfl
  rw [signs, Place.run, List.foldlM_cons, Option.bind_eq_bind]
  show Place.quoted.run _ = _
  rw [Place.run_append, inside _ free]
  rfl

theorem segment {segment : String} (shape : Identifier.IsSegment segment) :
    Leads .free [.text segment] .tight := by
  rcases shape with rfl | ⟨stored, rfl, free⟩
  · decide
  · exact quoted free

theorem segments {parts : List String} (some : parts ≠ [])
    (each : ∀ part ∈ parts, Identifier.IsSegment part) :
    Leads .free [.text (Text.join "." parts)] .tight := by
  match parts with
  | [] => exact absurd rfl some
  | [first] =>
    rw [Text.join, String.intercalate_singleton]
    exact segment (each first List.mem_cons_self)
  | first :: next :: rest =>
    obtain ⟨head, others⟩ := List.forall_mem_cons.mp each
    rw [Text.join, String.intercalate_cons_cons]
    have dot : Leads .tight [.text "."] .free := by decide
    exact ((segment head).textAppend dot).textAppend (segments (List.cons_ne_nil _ _) others)

end Leads

namespace Dialect

variable (dialect : Dialect)

theorem nameText_leads (name : String) :
    Ensures (fun written => Leads .free [.text written] .tight) (dialect.nameText name) := by
  refine Ensures.mapError _ ((Identifier.quote_segments dialect name).mono ?_)
  rintro written ⟨segments, some, rfl, each⟩
  exact Leads.segments some each

theorem namePiece_leads (name : String) :
    Ensures (Leads .free · .tight) (dialect.namePiece name) :=
  Ensures.map (dialect.nameText_leads name) fun _ leads => leads

theorem namePieces_leads (names : List String) :
    Ensures (Leads .free · .tight) (dialect.namePieces names) := by
  refine Ensures.map (Ensures.mapM fun name _ => dialect.namePiece_leads name) fun _ each => ?_
  exact Leads.join rfl (by decide) each

/-- A name holds no values. -/
theorem namePiece_valueCount (name : String) :
    Ensures (fun pieces => Piece.valueCount pieces = 0) (dialect.namePiece name) :=
  Ensures.map (Ensures.anything _) fun _ _ => rfl

theorem namePieces_valueCount (names : List String) :
    Ensures (fun pieces => Piece.valueCount pieces = 0) (dialect.namePieces names) := by
  exact Ensures.map (Ensures.mapM fun name _ => dialect.namePiece_valueCount name)
    fun _ each => Piece.valueCount_join_eq_zero ", " each

end Dialect

theorem TableReference.pieces_leads (dialect : Dialect) (text : String) :
    Ensures (Leads .free · .tight) (pieces dialect text) := by
  have aliased (name shortName : String) :
      Ensures (Leads .free · .tight) (aliasedPieces dialect name shortName) := by
    refine Ensures.bind (dialect.namePiece_leads name) fun first named => ?_
    refine Ensures.bind (dialect.namePiece_leads shortName) fun second short => Ensures.ok ?_
    have blank : Leads .tight [.text " "] .free := by decide
    exact named.append (blank.cons short)
  unfold pieces
  split
  · exact Ensures.error _
  · exact dialect.namePiece_leads _
  · exact aliased _ _
  · split
    · exact aliased _ _
    · exact Ensures.error _
  · exact Ensures.error _

/-! ### Conditions -/

namespace Condition

mutual

/-- Whether no part of the condition is written by hand. -/
def isComposed : Condition → Bool
  | all parts => allComposed parts
  | any parts => allComposed parts
  | negation inner => inner.isComposed
  | template _ _ => false
  | fragment _ => false
  | _ => true

/-- Whether no part of some conditions is written by hand. -/
def allComposed : List Condition → Bool
  | [] => true
  | part :: rest => part.isComposed && allComposed rest

end

theorem allComposed_eq (parts : List Condition) : allComposed parts = parts.all isComposed := by
  induction parts with
  | nil => rfl
  | cons part rest inductionHypothesis =>
    rw [allComposed, List.all_cons, inductionHypothesis]

theorem value_leads (value : Value) : Leads .free [.value value] .tight := by
  unfold Leads
  rfl

theorem enclosed_leads (pieces : List Piece) (leads : Leads .free pieces .tight) :
    Leads .free (Piece.enclosed "(" ")" pieces) .tight :=
  Leads.enclosed (by decide) leads (by decide)

theorem comparePieces_leads (dialect : Dialect) (column : String) (comparison : Comparison)
    (value : Value) :
    Ensures (Leads .free · .tight) (comparePieces dialect column comparison value) := by
  refine Ensures.bind (dialect.nameText_leads column) fun name named => ?_
  have operator : Leads .free [.text comparison.operator] .word := by
    cases comparison <;> decide
  have blank : Leads .word [.text " "] .free := by decide
  dsimp only
  split
  · have opening : Leads .free [.text "UPPER("] .free := by decide
    have middle : Leads .tight [.text ") "] .free := by decide
    have last : Leads .word [.text " UPPER("] .free := by decide
    have closing : Leads .tight [.text ")"] .tight := by decide
    refine Ensures.ok (Leads.cons ?_ ((value_leads _).cons closing))
    exact (((opening.textAppend named).textAppend middle).textAppend operator).textAppend last
  · have first : Leads .tight [.text " "] .free := by decide
    refine Ensures.ok (Leads.cons ?_ (value_leads _))
    exact ((named.textAppend first).textAppend operator).textAppend blank

theorem listPieces_leads (dialect : Dialect) {name : String}
    (named : Leads .free [.text name] .tight) (negated : Bool) (values : List Value) :
    Leads .free (listPieces dialect name negated values) .tight := by
  have opening : Leads .tight [.text (if negated then " NOT IN (" else " IN (")] .free := by
    cases negated <;> decide
  have bound : Leads .free (Piece.join ", " (values.map fun value => [valuePiece dialect value]))
      .tight :=
    Leads.join rfl (by decide) (List.forall_mem_map.mpr fun value _ => value_leads _)
  exact Leads.enclosed (named.textAppend opening) bound (by decide)

theorem membershipPieces_leads (dialect : Dialect) (column : String) (values : List Value)
    (negated : Bool) :
    Ensures (Leads .free · .tight) (membershipPieces dialect column values negated) := by
  unfold membershipPieces
  split
  · exact Ensures.ok (by cases negated <;> decide)
  · refine Ensures.bind (dialect.nameText_leads column) fun name named => Ensures.ok ?_
    refine parenthesized_holds _ enclosed_leads _ (Leads.join rfl (by cases negated <;> decide) ?_)
    exact List.forall_mem_map.mpr fun chunk _ => listPieces_leads dialect named negated chunk

/-- A condition without parts that are written by hand ends where it could have started, but for a
separator. -/
theorem pieces_leads (dialect : Dialect) (condition : Condition)
    (composed : condition.isComposed = true) :
    Ensures (Leads .free · .tight) (condition.pieces dialect) := by
  have joined (parts : List Condition) (wanted : Condition → Bool) (separator : String)
      (back : Leads .tight [.text separator] .free) (composed : allComposed parts = true)
      (each : ∀ part ∈ parts, part.isComposed = true →
        Ensures (Leads .free · .tight) (part.pieces dialect)) :
      Ensures (Leads .free · .tight)
        ((partPieces dialect wanted parts).map (Piece.join separator)) := by
    rw [allComposed_eq, List.all_eq_true] at composed
    refine Ensures.map (partPieces_each _ enclosed_leads dialect wanted parts fun part member =>
      each part member (composed part member)) fun _ => Leads.join rfl back
  induction condition with
  | all parts inductionHypothesis =>
    rw [pieces]
    exact joined parts _ _ (by decide) composed inductionHypothesis
  | any parts inductionHypothesis =>
    rw [pieces]
    exact joined parts _ _ (by decide) composed inductionHypothesis
  | negation inner inductionHypothesis =>
    rw [pieces]
    split
    · exact Ensures.ok (Leads.nil rfl)
    · refine Ensures.map (inductionHypothesis composed) fun _ leads => ?_
      exact Leads.enclosed (by decide) leads (by decide)
  | compare column comparison value =>
    rw [pieces]
    exact comparePieces_leads dialect column comparison value
  | nullness column isNull =>
    rw [pieces]
    refine Ensures.bind (dialect.nameText_leads column) fun name named => Ensures.ok ?_
    have test : Leads .tight [.text (if isNull then " IS NULL" else " IS NOT NULL")] .tight := by
      cases isNull <;> decide
    exact named.textAppend test
  | membership column values negated =>
    rw [pieces]
    exact membershipPieces_leads dialect column values negated
  | range column low high negated =>
    rw [pieces]
    refine Ensures.bind (dialect.nameText_leads column) fun name named => Ensures.ok ?_
    have test : Leads .tight [.text (if negated then " NOT BETWEEN " else " BETWEEN ")] .free := by
      cases negated <;> decide
    have middle : Leads .tight [.text " AND "] .free := by decide
    exact (named.textAppend test).cons ((value_leads _).cons (middle.cons (value_leads _)))
  | template sql values => cases composed
  | fragment sql => cases composed
  | always =>
    rw [pieces]
    exact Ensures.ok (by decide)
  | never =>
    rw [pieces]
    exact Ensures.ok (by decide)

end Condition

/-! ### Clauses -/

/-- Whether no condition of the filter is written by hand. -/
def Filter.isComposed (filter : Filter) : Bool :=
  filter.conditions.all Condition.isComposed

theorem Filter.clause_leads (dialect : Dialect) {keyword : String} (filter : Filter)
    (composed : filter.isComposed = true) (opens : Leads .tight [.text keyword] .free) :
    Ensures (Leads .tight · .tight) (filter.clause dialect keyword) := by
  unfold clause pieces
  split
  · exact Ensures.ok (Leads.nil rfl)
  · rw [isComposed, List.all_eq_true] at composed
    have parts := Condition.partPieces_each _ Condition.enclosed_leads dialect filter.enclosed
      filter.conditions fun condition member =>
        condition.pieces_leads dialect (composed condition member)
    have joined : Ensures (Leads .free · .tight)
        ((Condition.partPieces dialect filter.enclosed filter.conditions).map
          (Piece.join " AND ")) :=
      Ensures.map parts fun _ => Leads.join rfl (by decide)
    exact Ensures.map joined fun _ leads => opens.cons leads

end OracleSql
