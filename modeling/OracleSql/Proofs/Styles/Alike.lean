/-
This file puts the two styles of markers side by side. The same pieces, assembled once with numbered
and once with named markers, make up two statements that say the same: the texts have the outline of
the pieces, and a marker stands in both for what its piece holds. The same is true if the values are
bound as a batch of rows, where every row has a value for each marker.
-/

import OracleSql.Proofs.Styles.Assembled

namespace OracleSql

/-- The dialect with markers of a style. -/
def Dialect.styled (dialect : Dialect) (style : MarkerStyle) : Dialect :=
  { dialect with markerStyle := style }

/-! ### Pieces with markers -/

namespace Piece

theorem count_slot (pieces : List Piece) :
    (pieces.map slot).count none = pieces.countP isMarker := by
  induction pieces with
  | nil => rfl
  | cons piece rest inductionHypothesis =>
    rw [List.map_cons, List.count_cons, List.countP_cons, inductionHypothesis]
    cases piece <;> rfl

/-- What texts do not hold is read off the pieces with markers. -/
theorem filterMap_isMarker {α : Type} {read : Piece → Option α}
    (silent : ∀ sql, read (.text sql) = none) (pieces : List Piece) :
    (pieces.filter isMarker).filterMap read = pieces.filterMap read := by
  rw [List.filterMap_filter]
  refine List.filterMap_congr fun piece _ => ?_
  cases piece with
  | text sql => exact (silent sql).symm
  | _ => rfl

/-- A marker is for a value or for a returned column. -/
theorem length_markers (pieces : List Piece) :
    (pieces.filterMap value?).length + (pieces.filterMap (outBind? "")).length =
      (pieces.filter isMarker).length := by
  induction pieces with
  | nil => rfl
  | cons piece rest inductionHypothesis =>
    cases piece with
    | text sql => exact inductionHypothesis
    | value bound | named name bound =>
      rw [List.filter_cons_of_pos rfl, List.length_cons, ← inductionHypothesis]
      exact Nat.add_right_comm _ 1 _
    | out column columnType rows =>
      rw [List.filter_cons_of_pos rfl, List.length_cons, ← inductionHypothesis]
      rfl

/-- A marker is for a value if it is not for a returned column. -/
theorem isSome_value? {piece : Piece} (marker : piece.isMarker = true) :
    piece.value?.isSome = !piece.isOut := by
  cases piece with
  | text sql => cases marker
  | _ => rfl

theorem map_unmarked_outsOf {markers : List Piece} {names : List String}
    (same : names.length = markers.length) :
    (outsOf (markers.zip names)).map OutBind.unmarked = markers.filterMap (outBind? "") := by
  induction markers generalizing names with
  | nil => rfl
  | cons piece rest inductionHypothesis =>
    cases names with
    | nil => cases same
    | cons name others =>
      have tail := inductionHypothesis (Nat.succ.inj same)
      rw [List.zip_cons_cons, List.filterMap_cons, ← tail]
      cases piece <;> rfl

theorem length_outsOf {markers : List Piece} {names : List String}
    (same : names.length = markers.length) :
    (outsOf (markers.zip names)).length = (markers.filterMap (outBind? "")).length := by
  rw [← map_unmarked_outsOf same, List.length_map]

end Piece

theorem Assembly.length_names (style : MarkerStyle) (assembly : Assembly) (pieces : List Piece) :
    (assembly.names style pieces).length = (pieces.filter Piece.isMarker).length := by
  induction pieces generalizing assembly with
  | nil => rfl
  | cons piece rest inductionHypothesis =>
    by_cases marker : piece.isMarker = true
    · rw [names_marker marker, List.filter_cons_of_pos marker, List.length_cons, List.length_cons,
        inductionHypothesis]
    · rw [names, if_neg marker, List.filter_cons_of_neg marker, inductionHypothesis]

/-- Markers are set apart where all of their names differ. -/
theorem SetApart.of_pairwise {names : List String}
    (distinct : names.Pairwise fun name other => Text.sameFolded name other = false)
    (markers : List Piece) : SetApart (markers.zip names) := by
  induction distinct generalizing markers with
  | nil =>
    rw [List.zip_nil_right]
    exact .nil
  | cons others _ inductionHypothesis =>
    cases markers with
    | nil => exact .nil
    | cons piece rest =>
      exact List.pairwise_cons.mpr
        ⟨fun pair member _ => others pair.2 (List.of_mem_zip member).2, inductionHypothesis rest⟩

theorem markerNumbers_pairwise (count : Nat) :
    (markerNumbers count).Pairwise fun name other => Text.sameFolded name other = false := by
  have rising : (List.range' 1 count).Pairwise (· < ·) := List.pairwise_lt_range'
  refine List.pairwise_map.mpr (rising.imp fun {first second} smaller => ?_)
  rw [Bool.eq_false_iff]
  intro same
  have made : Text.sameFolded ("" ++ toString first) ("" ++ toString second) = true := by
    rwa [String.empty_append, String.empty_append]
  have equal := number_eq_of_sameFolded made
  omega

/-- The place of a value among the values, before which so many markers stand. -/
def valuePlace (markers : List Piece) (index : Nat) : Nat :=
  (markers.take index).countP fun piece => !piece.isOut

/-- The value of a marker stands among the values in the marker's place. -/
theorem getElem?_valuePlace {pieces : List Piece} {index : Nat} {piece : Piece} {value : Value}
    (found : (pieces.filter Piece.isMarker)[index]? = some piece)
    (gives : piece.value? = some value) :
    (pieces.filterMap Piece.value?)[valuePlace (pieces.filter Piece.isMarker) index]? =
      some value := by
  have place : valuePlace (pieces.filter Piece.isMarker) index =
      ((pieces.filter Piece.isMarker).take index).countP fun piece => piece.value?.isSome := by
    refine List.countP_congr fun earlier member => ?_
    have marker := (List.mem_filter.mp (List.mem_of_mem_take member)).2
    rw [Piece.isSome_value? marker]
  rw [place, ← Piece.filterMap_isMarker fun _ => rfl]
  exact getElem?_filterMap found gives

/-! ### Statements -/

/-- The markers of two statements stand for the same things if the values under them are the
same. -/
theorem exists_meaning {numbered named : Statement} {markers : List Piece}
    {numbers names : List String} (length : numbers.length = markers.length)
    (also : names.length = markers.length) (outs : numbered.outs = outsOf (markers.zip numbers))
    (outsToo : named.outs = outsOf (markers.zip names)) (apart : SetApart (markers.zip numbers))
    (apartToo : SetApart (markers.zip names))
    (values : ∀ index piece number name, markers[index]? = some piece →
      names[index]? = some name → piece.isOut = false →
      ∃ bound, numbered.binds.at? (valuePlace markers index) number = some bound ∧
        named.binds.at? (valuePlace markers index) name = some bound)
    {index : Nat} (small : index < names.length) :
    ∃ meaning, numbered.meaning? numbers index = some meaning ∧
      named.meaning? names index = some meaning := by
  have inside : index < markers.length := also ▸ small
  have counted : index < numbers.length := length ▸ inside
  have found : (markers.zip numbers)[index]? = some (markers[index], numbers[index]) :=
    List.getElem?_zip_eq_some.mpr
      ⟨List.getElem?_eq_getElem inside, List.getElem?_eq_getElem counted⟩
  have foundToo : (markers.zip names)[index]? = some (markers[index], names[index]) :=
    List.getElem?_zip_eq_some.mpr
      ⟨List.getElem?_eq_getElem inside, List.getElem?_eq_getElem small⟩
  have first := meaning?_eq outs apart found
  have second := meaning?_eq outsToo apartToo foundToo
  rw [List.map_snd_zip (by omega), List.map_fst_zip (by omega)] at first second
  cases out : markers[index].isOut with
  | true =>
    rw [out, if_pos rfl] at first second
    exact ⟨_, first, second⟩
  | false =>
    obtain ⟨bound, here, there⟩ := values index _ numbers[index] _
      (List.getElem?_eq_getElem inside) (List.getElem?_eq_getElem small) out
    rw [out, if_neg Bool.false_ne_true] at first second
    refine ⟨.bound bound, first.trans ?_, second.trans ?_⟩
    · exact congrArg (Option.map Meaning.bound) here
    · exact congrArg (Option.map Meaning.bound) there

/-- What a statement does and on which table has no say in what its markers stand for. -/
theorem Statement.Same.labelled {numbered named : Statement} (same : Same numbered named)
    (operation : String) (table : Option String) :
    Same { numbered with operation, table } { named with operation, table } := by
  obtain ⟨outline, names, same⟩ := same
  have rest := congrArg (fun statement => { statement with operation, table }) same.rest
  exact ⟨outline, names, same.places, same.sqlNumbered, same.sqlNamed, same.meaning, same.binds,
    rest, same.used, same.distinct, same.apart⟩

/-- The place of a statement among others has no say in what its markers stand for. -/
theorem Statement.Same.placed {numbered named : Statement} (same : Same numbered named)
    (inputOffset : Nat) : Same { numbered with inputOffset } { named with inputOffset } := by
  obtain ⟨outline, names, same⟩ := same
  have rest := congrArg (fun statement => { statement with inputOffset }) same.rest
  exact ⟨outline, names, same.places, same.sqlNumbered, same.sqlNamed, same.meaning, same.binds,
    rest, same.used, same.distinct, same.apart⟩

namespace Dialect

variable (dialect : Dialect) {shape : Shape} {pieces : List Piece}

/-- The statement of pieces produces what the pieces say, whatever the names of its markers. -/
theorem unmarked_assemble (pieces : List Piece) (shape : Shape) :
    (dialect.assemble pieces shape).unmarked =
      { sql := ""
        shape :=
          if (pieces.filterMap (Piece.outBind? "")).isEmpty then shape.unmarked
          else .returning (pieces.filterMap (Piece.outBind? "")) } := by
  have outs := Assembly.outs_foldl dialect.markerStyle pieces {}
  rw [List.nil_append] at outs
  have unmarked := Piece.map_unmarked_outsOf (Assembly.length_names dialect.markerStyle {} pieces)
  rw [outsOf, ← outs, Piece.filterMap_isMarker fun _ => rfl] at unmarked
  rw [← unmarked]
  unfold assemble Statement.unmarked
  dsimp only
  cases (pieces.foldl (Assembly.add dialect.markerStyle) {}).outs <;> rfl

/-- The statement of pieces returns the columns that they take. -/
theorem outs_assemble_eq (plain : shape = .rows ∨ shape = .rowsAffected) (pieces : List Piece) :
    (dialect.assemble pieces shape).outs =
      outsOf ((pieces.filter Piece.isMarker).zip
        (({} : Assembly).names dialect.markerStyle pieces)) := by
  rw [dialect.outs_assemble plain, Assembly.outs_foldl, List.nil_append]
  rfl

/-- The names that pieces get where markers are numbered. -/
theorem names_eq_markerNumbers (pieces : List Piece) :
    ({} : Assembly).names .numbered pieces =
      markerNumbers (({} : Assembly).names .named pieces).length := by
  rw [Assembly.names_numbered, Assembly.length_names, List.countP_eq_length_filter]
  rfl

/-- What named markers keep when pieces are assembled. -/
theorem keeps_assembled (kept : Piece.Named pieces) :
    (pieces.foldl (Assembly.add .named) {}).Keeps ((pieces.filter Piece.isMarker).zip
      (({} : Assembly).names .named pieces)) :=
  Assembly.keeps_nil.foldl pieces (fun _ member => absurd member List.not_mem_nil) kept

/-- The same pieces say the same with numbered and with named markers, if what is bound says the
same of each value among them. -/
theorem assemble_sameWith (plain : shape = .rows ∨ shape = .rowsAffected)
    (kept : Piece.Named pieces) {first second : Binds}
    (values : ∀ index piece value number name,
      (pieces.filter Piece.isMarker)[index]? = some piece → piece.value? = some value →
      (({} : Assembly).names .named pieces)[index]? = some name →
      ∃ bound, first.at? (valuePlace (pieces.filter Piece.isMarker) index) number = some bound ∧
        second.at? (valuePlace (pieces.filter Piece.isMarker) index) name = some bound)
    (sorts : (∃ values pairs, first = .positional values ∧ second = .named pairs ∧
        values.length = (pieces.filterMap Piece.value?).length) ∨
      ∃ rows, first = .batch rows ∧ second = .batch rows ∧
        ∀ values ∈ rows, values.length = (pieces.filterMap Piece.value?).length)
    (distinct : second.names.Pairwise fun name other => Text.sameFolded name other = false)
    (known : ∀ name ∈ second.names, ∃ value,
      (name, value) ∈ (pieces.foldl (Assembly.add .named) {}).named) :
    Statement.SameWith (pieces.map Piece.slot) (({} : Assembly).names .named pieces)
      { (dialect.styled .numbered).assemble pieces shape with binds := first }
      { (dialect.styled .named).assemble pieces shape with binds := second } := by
  have keeps := keeps_assembled kept
  have length := Assembly.length_names .named {} pieces
  have numbers := names_eq_markerNumbers pieces
  have outs : ({ (dialect.styled .numbered).assemble pieces shape with binds := first } :
      Statement).outs = _ := (dialect.styled .numbered).outs_assemble_eq plain pieces
  have outsToo : ({ (dialect.styled .named).assemble pieces shape with binds := second } :
      Statement).outs = _ := (dialect.styled .named).outs_assemble_eq plain pieces
  have total : (pieces.filterMap Piece.value?).length +
      ({ (dialect.styled .numbered).assemble pieces shape with binds := first } :
        Statement).outs.length = (({} : Assembly).names .named pieces).length := by
    rw [outs, Piece.length_outsOf (Assembly.length_names _ {} pieces),
      Piece.filterMap_isMarker fun _ => rfl, Piece.length_markers, length]
  exact
    { places := by rw [Piece.count_slot, length, List.countP_eq_length_filter]
      sqlNumbered := by
        rw [← numbers]
        exact (Assembly.sql_foldl .numbered pieces {}).trans String.empty_append
      sqlNamed := (Assembly.sql_foldl .named pieces {}).trans String.empty_append
      meaning := fun index small => by
        have counted : SetApart ((pieces.filter Piece.isMarker).zip
            (({} : Assembly).names .numbered pieces)) :=
          numbers ▸ SetApart.of_pairwise (markerNumbers_pairwise _) _
        rw [← numbers]
        refine exists_meaning (Assembly.length_names .numbered {} pieces) length outs outsToo
          counted keeps.apart (fun index piece number name found named other => ?_) small
        have marker := (List.mem_filter.mp (List.mem_of_getElem? found)).2
        obtain ⟨value, gives⟩ := Assembly.value?_of_not_isOut marker other
        exact values index piece value number name found gives named
      binds := by
        refine sorts.imp ?_ ?_
        · rintro ⟨bound, pairs, positional, named, filled⟩
          exact ⟨bound, pairs, positional, named, filled ▸ total⟩
        · rintro ⟨rows, batch, also, filled⟩
          exact ⟨rows, batch, also, fun row member => filled row member ▸ total⟩
      rest := by
        have shapes := ((dialect.styled .numbered).unmarked_assemble pieces shape).trans
          ((dialect.styled .named).unmarked_assemble pieces shape).symm
        exact shapes
      used := fun name member => by
        obtain ⟨value, bound⟩ := known name member
        have marked := (keeps.origin name value bound).1
        rwa [List.map_snd_zip length.le] at marked
      distinct := distinct
      apart := fun name member out returned => by
        obtain ⟨value, bound⟩ := known name member
        have taken : out ∈ outsOf ((pieces.filter Piece.isMarker).zip
          (({} : Assembly).names .named pieces)) := outsToo ▸ returned
        obtain ⟨pair, inside, isOut, marker⟩ := exists_of_mem_outsOf taken
        obtain ⟨number, _, made⟩ := keeps.outs pair.1 pair.2 inside isOut
        rw [← marker, made]
        exact (keeps.origin name value bound).apart_out number }

/-- Pieces say the same with numbered and with named markers. -/
theorem assemble_same (plain : shape = .rows ∨ shape = .rowsAffected) (kept : Piece.Named pieces) :
    Statement.SameWith (pieces.map Piece.slot) (({} : Assembly).names .named pieces)
      ((dialect.styled .numbered).assemble pieces shape)
      ((dialect.styled .named).assemble pieces shape) := by
  have keeps := keeps_assembled kept
  have bound : (pieces.foldl (Assembly.add .numbered) {}).positional.reverse =
      pieces.filterMap Piece.value? := by
    rw [Assembly.positional_foldl, List.append_nil, List.reverse_reverse]
  have numbered : (dialect.styled .numbered).assemble pieces shape =
      { (dialect.styled .numbered).assemble pieces shape with
        binds := .positional (pieces.filterMap Piece.value?) } :=
    congrArg (fun values => { (dialect.styled .numbered).assemble pieces shape with
      binds := .positional values }) bound
  have named : (dialect.styled .named).assemble pieces shape =
      { (dialect.styled .named).assemble pieces shape with
        binds := .named (pieces.foldl (Assembly.add .named) {}).named.reverse } := rfl
  rw [numbered, named]
  have distinct : (pieces.foldl (Assembly.add .named) {}).named.reverse.Pairwise
      fun binding other => Text.sameFolded binding.1 other.1 = false := by
    refine List.pairwise_reverse.mpr (keeps.distinct.imp fun {binding other} differs => ?_)
    rwa [Text.sameFolded_comm]
  refine dialect.assemble_sameWith plain kept
    (fun index piece value number name found gives known => ⟨[value], ?_, ?_⟩)
    (Or.inl ⟨_, _, rfl, rfl, rfl⟩) ?_ fun name member => ?_
  · rw [Binds.at?, getElem?_valuePlace found gives]
    rfl
  · have member := keeps.bound piece name value
      (List.mem_of_getElem? (List.getElem?_zip_eq_some.mpr ⟨found, known⟩)) gives
    rw [Binds.at?, find?_of_distinct distinct (List.mem_reverse.mpr member)]
    rfl
  · exact List.pairwise_map.mpr distinct
  · obtain ⟨⟨_, value⟩, inside, rfl⟩ := List.mem_map.mp member
    exact ⟨value, List.mem_reverse.mp inside⟩

/-- Pieces say the same with numbered and with named markers where they run for a batch of rows,
each of which has a value for every marker. -/
theorem assemble_same_batch (plain : shape = .rows ∨ shape = .rowsAffected)
    (kept : Piece.Named pieces) {rows : List (List Value)}
    (wide : ∀ row ∈ rows, row.length = (pieces.filterMap Piece.value?).length) :
    Statement.SameWith (pieces.map Piece.slot) (({} : Assembly).names .named pieces)
      { (dialect.styled .numbered).assemble pieces shape with binds := .batch rows }
      { (dialect.styled .named).assemble pieces shape with binds := .batch rows } := by
  refine dialect.assemble_sameWith plain kept
    (fun index piece value number name found gives _ => ?_) (Or.inr ⟨rows, rfl, rfl, wide⟩) .nil
    fun _ member => absurd member List.not_mem_nil
  obtain ⟨small, _⟩ := List.getElem?_eq_some_iff.mp (getElem?_valuePlace found gives)
  obtain ⟨found, all⟩ := exists_mapM_eq_some fun row member =>
    ⟨_, List.getElem?_eq_getElem (wide row member ▸ small)⟩
  exact ⟨found, all, all⟩

end Dialect

end OracleSql
