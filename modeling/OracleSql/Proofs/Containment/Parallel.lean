/-
This file runs two rows of pieces side by side that write the same parts. Their texts may differ in
what quoted segments hold; their values may differ, since a value is written as its marker. The name
of a marker depends on the markers before it alone, so two assemblies that have come equally far
stay in step. Rows that are parallel are put together by looking at their edges, and what they make
up are statements with the same rest.
-/

import OracleSql.Proofs.Containment.Splitting

namespace OracleSql

/-! ### Assemblies in step -/

/-- The next marker has the same name in both assemblies. -/
def Assembly.InStep (first second : Assembly) : Prop :=
  first.markers = second.markers ∧ first.outs.length = second.outs.length

/-- What the two rows of pieces add to assemblies in step are texts with the same parts, between the
same edges. -/
def Parallel (style : MarkerStyle) (before : Edge) (first second : List Piece) (after : Edge) :
    Prop :=
  ∀ one other : Assembly, one.InStep other →
    (first.foldl (Assembly.add style) one).InStep (second.foldl (Assembly.add style) other) ∧
      ∃ text more, (first.foldl (Assembly.add style) one).sql = one.sql ++ text ∧
        (second.foldl (Assembly.add style) other).sql = other.sql ++ more ∧
        ParallelText style before text more after

namespace Parallel

variable {style : MarkerStyle} {before middle after : Edge}
  {first second further another : List Piece}

/-! ### Single pieces -/

theorem nil : Parallel style before [] [] before := by
  intro one other inStep
  refine ⟨inStep, "", "", String.append_empty.symm, String.append_empty.symm, [], ?_, ?_⟩
  · exact Fits.nil
  · exact Fits.nil

theorem text {sql other : String} (parallel : ParallelText style before sql other after) :
    Parallel style before [.text sql] [.text other] after :=
  fun _ _ inStep => ⟨inStep, sql, other, rfl, rfl, parallel⟩

theorem fixed {sql : String} (fixed : Fixed before sql after) :
    Parallel style before [.text sql] [.text sql] after :=
  text (.fixed fixed)

/-- A marker can stand anywhere, and its name is over before the next word. -/
theorem marked {name : String} (named : style.HasName name) :
    ParallelText style before (":" ++ name) (":" ++ name) .word := by
  have letters : (":" ++ name).toList = ':' :: name.toList := String.toList_append
  have splits := Splits.marker named rfl Splits.nil
  rw [List.append_nil] at splits
  have fits : Fits style before (":" ++ name).toList [.marker name] .word := by
    rw [letters]
    exact ⟨splits, fun _ => rfl, fun _ => rfl⟩
  exact ⟨_, fits, fits⟩

/-- A value is written as the next marker, whatever it is. -/
theorem value (value another : Value) :
    Parallel style before [.value value] [.value another] .word := by
  intro one other inStep
  obtain ⟨markers, outs⟩ := inStep
  cases style with
  | numbered =>
    refine ⟨⟨congrArg (· + 1) markers, outs⟩, _, _, String.append_assoc, ?_, marked ⟨_, rfl⟩⟩
    rw [markers]
    exact String.append_assoc
  | named =>
    refine ⟨⟨congrArg (· + 1) markers, outs⟩, _, _, String.append_assoc, ?_,
      marked ⟨_, Or.inl rfl⟩⟩
    rw [markers]
    exact String.append_assoc

/-- So is the place of a returned column. -/
theorem out (column other : String) (columnType another : Option ColumnType) (rows more : Nat) :
    Parallel style before [.out column columnType rows] [.out other another more] .word := by
  intro one other inStep
  obtain ⟨markers, outs⟩ := inStep
  have outsToo (out last : OutBind) :
      (one.outs ++ [out]).length = (other.outs ++ [last]).length := by
    rw [List.length_append, List.length_append, outs]
    rfl
  cases style with
  | numbered =>
    refine ⟨⟨congrArg (· + 1) markers, outsToo _ _⟩, _, _, String.append_assoc, ?_,
      marked ⟨_, rfl⟩⟩
    rw [markers]
    exact String.append_assoc
  | named =>
    refine ⟨⟨congrArg (· + 1) markers, outsToo _ _⟩, _, _, String.append_assoc, ?_,
      marked ⟨_, Or.inr rfl⟩⟩
    rw [outs]
    exact String.append_assoc

/-! ### Rows of pieces -/

theorem append (left : Parallel style before first second middle)
    (right : Parallel style middle further another after) :
    Parallel style before (first ++ further) (second ++ another) after := by
  intro one other inStep
  obtain ⟨inStepToo, text, more, written, writtenToo, parallel⟩ := left one other inStep
  obtain ⟨last, next, rest, behind, behindToo, others⟩ := right _ _ inStepToo
  refine ⟨?_, text ++ next, more ++ rest, ?_, ?_, parallel.append others⟩
  · rw [List.foldl_append, List.foldl_append]
    exact last
  · rw [List.foldl_append, behind, written, String.append_assoc]
  · rw [List.foldl_append, behindToo, writtenToo, String.append_assoc]

theorem cons {piece other : Piece} (left : Parallel style before [piece] [other] middle)
    (right : Parallel style middle first second after) :
    Parallel style before (piece :: first) (other :: second) after :=
  left.append right

theorem enclosed {opening closing : String} {inside behind : Edge}
    (starts : Fixed before opening inside) (inner : Parallel style inside first second behind)
    (ends : Fixed behind closing after) :
    Parallel style before (Piece.enclosed opening closing first)
      (Piece.enclosed opening closing second) after :=
  (fixed starts).cons (inner.append (fixed ends))

/-- Where a word may end behind, no word needs to. -/
theorem closing (parallel : Parallel style before first second after) :
    Parallel style before first second .word := by
  intro one other inStep
  obtain ⟨inStepToo, text, more, written, writtenToo, parts, fits, fitsToo⟩ :=
    parallel one other inStep
  exact ⟨inStepToo, text, more, written, writtenToo, parts, ⟨fits.splits, fits.opens, fun _ => rfl⟩,
    ⟨fitsToo.splits, fitsToo.opens, fun _ => rfl⟩⟩

/-- Members that are parallel are joined by a text that leads back to the edge before them. -/
theorem join {separator : String} {members others : List (List Piece)}
    (back : Fixed .word separator .free)
    (each : List.Forall₂ (Parallel style .free · · .word) members others) :
    Parallel style .free (Piece.join separator members) (Piece.join separator others) .word := by
  induction each with
  | nil => exact closing nil
  | cons head tail inductionHypothesis =>
    cases tail with
    | nil => exact head
    | cons next rest =>
      rw [Piece.join_cons_cons, Piece.join_cons_cons]
      exact head.append ((fixed back).cons inductionHypothesis)

theorem flatten {members others : List (List Piece)}
    (each : List.Forall₂ (Parallel style .word · · .word) members others) :
    Parallel style .word members.flatten others.flatten .word := by
  induction each with
  | nil => exact nil
  | cons head _ inductionHypothesis =>
    rw [List.flatten_cons, List.flatten_cons]
    exact head.append inductionHypothesis

end Parallel

/-! ### Statements -/

/-- Parallel rows of pieces make up statements with the same rest. -/
theorem Dialect.assemble_sameRest (dialect : Dialect) {first second : List Piece} {after : Edge}
    (shape other : Shape) (parallel : Parallel dialect.markerStyle .free first second after) :
    SameRest dialect.markerStyle (dialect.assemble first shape).sql
      (dialect.assemble second other).sql := by
  obtain ⟨_, text, more, written, writtenToo, parts, fits, fitsToo⟩ := parallel {} {} ⟨rfl, rfl⟩
  rw [String.empty_append] at written writtenToo
  refine ⟨parts, ?_, ?_⟩
  · show Splits _ parts (first.foldl (Assembly.add dialect.markerStyle) {}).sql.toList
    rw [written]
    exact fits.splits
  · show Splits _ parts (second.foldl (Assembly.add dialect.markerStyle) {}).sql.toList
    rw [writtenToo]
    exact fitsToo.splits

end OracleSql
