/-
This file shows that the markers of an assembled statement are the markers that a reader finds in
its text. The count of markers fixes their names, the values come before the returned columns, and
no text between them looks like a marker to the reader. `Assembly.Marks` is the invariant of
assembling: it has the names that were written so far, and a reader who has come to the last marker
and still has the text behind it before him. A marked statement is accepted by the check of markers
against values.
-/

import OracleSql.Proofs.Markers.Reading
import Mathlib.Data.List.Range

namespace OracleSql

/-! ### Names of markers -/

namespace MarkerStyle

/-- The names of the markers of a statement with so many values and returned columns, in order. -/
def markerNames : MarkerStyle → (values outs : Nat) → List String
  | numbered, values, outs => (List.range (values + outs)).map fun index => toString (index + 1)
  | named, values, outs =>
    ((List.range values).map fun index => "p" ++ toString (index + 1)) ++
      (List.range outs).map fun index => "ret" ++ toString (index + 1)

/-- The name of the marker of a value. -/
def valueName : MarkerStyle → (number : Nat) → String
  | numbered, number => toString number
  | named, number => "p" ++ toString number

/-- The name of the marker of a returned column, after so many values. -/
def outName : MarkerStyle → (values number : Nat) → String
  | numbered, values, number => toString (values + number)
  | named, _, number => "ret" ++ toString number

theorem markerNames_nil (style : MarkerStyle) : style.markerNames 0 0 = [] := by
  cases style <;> rfl

theorem markerNames_value (style : MarkerStyle) (values : Nat) :
    style.markerNames (values + 1) 0 =
      style.markerNames values 0 ++ [style.valueName (values + 1)] := by
  cases style <;> simp [markerNames, valueName, List.range_succ]

theorem markerNames_out (style : MarkerStyle) (values outs : Nat) :
    style.markerNames values (outs + 1) =
      style.markerNames values outs ++ [style.outName values (outs + 1)] := by
  cases style <;> simp [markerNames, outName, List.range_succ, ← Nat.add_assoc]

theorem length_markerNames (style : MarkerStyle) (values outs : Nat) :
    (style.markerNames values outs).length = values + outs := by
  cases style <;> simp [markerNames]

theorem markerNames_split (style : MarkerStyle) (values outs : Nat) :
    style.markerNames values 0 ++ (style.markerNames values outs).drop values =
      style.markerNames values outs := by
  induction outs with
  | zero => rw [List.drop_of_length_le (by rw [length_markerNames]; rfl), List.append_nil]
  | succ outs inductionHypothesis =>
    rw [markerNames_out, List.drop_append_of_le_length (by rw [length_markerNames]; omega),
      ← List.append_assoc, inductionHypothesis]

/-- A name that a reader takes as the whole name of a marker. -/
def IsName (name : String) : Prop :=
  name.toList ≠ [] ∧ ∀ letter ∈ name.toList, Marker.isNameChar letter = true

theorem isName_append (start : String) (number : Nat)
    (plain : start.toList.all Marker.isNameChar = true) :
    IsName (start ++ toString number) := by
  have digits : (toString number).toList = Nat.toDigits 10 number := Nat.toList_repr
  rw [IsName, String.toList_append, digits]
  constructor
  · exact fun none => Nat.toDigits_ne_nil (List.append_eq_nil_iff.mp none).2
  · intro letter member
    rcases List.mem_append.mp member with member | member
    · exact List.all_eq_true.mp plain letter member
    · have digit := Nat.isDigit_of_mem_toDigits (by decide) (by decide) member
      simp [Marker.isNameChar, Char.isAlphanum, digit]

theorem isName_toString (number : Nat) : IsName (toString number) := by
  have named := isName_append "" number (by decide)
  rwa [String.empty_append] at named

theorem isName_valueName (style : MarkerStyle) (number : Nat) :
    IsName (style.valueName number) := by
  cases style with
  | numbered => exact isName_toString number
  | named => exact isName_append _ number (by decide)

theorem isName_outName (style : MarkerStyle) (values number : Nat) :
    IsName (style.outName values number) := by
  cases style with
  | numbered => exact isName_toString _
  | named => exact isName_append _ number (by decide)

end MarkerStyle

/-! ### Reading what is assembled -/

namespace Assembly

/-- A reader has come through the assembled text to a place, having found the names. The text
behind the last marker is still before him, since its end may not be its lexeme's end. -/
def Reads (assembly : Assembly) (place : Place) (names : List String) : Prop :=
  ∃ (base pending : List Char) (start : Place) (before : Marker.Before),
    assembly.sql.toList = base ++ pending ∧ start ≠ .quoted ∧ before.Suits start ∧
    start.run (pending.map Sign.ofLetter) = some place ∧
    ∀ rest, start.Admits rest → Marker.nativesFrom {} (base ++ rest) =
      (Marker.nativesFrom before rest).map (names ++ ·)

theorem reads_nil : ({} : Assembly).Reads .free [] := by
  refine ⟨[], [], .free, {}, rfl, by decide, fun _ => rfl, rfl, fun rest _ => ?_⟩
  rw [List.nil_append]
  cases Marker.nativesFrom {} rest <;> rfl

variable {assembly : Assembly} {place final : Place} {names : List String}

/-- A reader who is not inside a quoted name can go over all that is assembled. -/
theorem Reads.settled (reads : assembly.Reads place names) (outside : place ≠ .quoted) :
    ∃ before : Marker.Before, before.Suits place ∧ ∀ rest, place.Admits rest →
      Marker.nativesFrom {} (assembly.sql.toList ++ rest) =
        (Marker.nativesFrom before rest).map (names ++ ·) := by
  obtain ⟨base, pending, start, before, same, starts, suits, ran, found⟩ := reads
  obtain ⟨after, suitsToo, gone⟩ := Marker.nativesFrom_append ran starts outside suits
  refine ⟨after, suitsToo, fun rest admits => ?_⟩
  rw [same, List.append_assoc, found _ (Place.admits_append ran admits), gone rest admits]

theorem Reads.text (reads : assembly.Reads place names) {sql : String}
    (ran : place.run (sql.toList.map Sign.ofLetter) = some final) :
    ({ assembly with sql := assembly.sql ++ sql } : Assembly).Reads final names := by
  obtain ⟨base, pending, start, before, same, outside, suits, first, found⟩ := reads
  refine ⟨base, pending ++ sql.toList, start, before, ?_, outside, suits, ?_, found⟩
  · rw [String.toList_append, same, List.append_assoc]
  · rw [List.map_append, Place.run_append, first]
    exact ran

theorem Reads.marked (reads : assembly.Reads place names) {marker : String}
    (allowed : (place.step .out).isSome) (closed : final = .tight ∨ final = .returned)
    (name : MarkerStyle.IsName marker) :
    (assembly.marked marker).Reads final (names ++ [marker]) := by
  have outside : place ≠ .quoted := by
    rintro rfl
    cases allowed
  obtain ⟨before, suits, found⟩ := reads.settled outside
  refine ⟨(assembly.marked marker).sql.toList, [], final,
    marker.toList.foldl Marker.Before.push (before.push ':'), (List.append_nil _).symm, ?_, ?_, rfl,
    fun rest admits => ?_⟩
  · rcases closed with rfl | rfl <;> decide
  · intro possible
    rcases closed with rfl | rfl <;> cases possible
  · have ahead : ∀ letter ∈ rest.head?, Marker.isNameChar letter = false := by
      intro letter member
      have special : ∀ letter ∈ [' ', '(', ')', ',', '.', '=', '<', '>', '*'],
          Marker.isNameChar letter = false := by
        rw [← List.forall_iff_forall_mem]
        decide
      exact special letter (List.contains_iff_mem.mp (admits.separated closed letter member))
    have read := Marker.nativesFrom_native
      (Marker.extent_native (suits allowed) name.1 name.2 ahead)
    have colon : place.Admits (':' :: (marker.toList ++ rest)) := by
      intro letter same
      cases same
      exact Or.inr ⟨rfl, allowed⟩
    have whole : (assembly.marked marker).sql.toList ++ rest =
        assembly.sql.toList ++ ':' :: (marker.toList ++ rest) := by
      simp [Assembly.marked, String.toList_append]
    rw [whole, found _ colon, read, String.ofList_toList]
    cases Marker.nativesFrom (marker.toList.foldl Marker.Before.push (before.push ':')) rest with
    | error opened => rfl
    | ok others => simp [Except.map]

end Assembly

/-! ### Marked statements -/

/-- One run takes so many values, under the names of the markers where values have names. -/
def Binds.Takes (style : MarkerStyle) (values : Nat) : Binds → Prop
  | .positional bound => style = .numbered ∧ bound.length = values
  | .named pairs => style = .named ∧ pairs.map Prod.fst = style.markerNames values 0
  | .batch rows => ∀ row ∈ rows, row.length = values

/-- The reader finds in the text exactly the markers that were made, in order: those of so many
values for each run, and then those of so many returned columns. -/
def Statement.HasMarkers (style : MarkerStyle) (values outs : Nat) (statement : Statement) : Prop :=
  Marker.nativeNames statement.sql = .ok (style.markerNames values outs) ∧
    statement.binds.Takes style values ∧
    statement.outs.map OutBind.marker = (style.markerNames values outs).drop values

namespace Assembly

/-- What holds of an assembly at a place, with so many values and returned columns. -/
structure Marks (style : MarkerStyle) (values outs : Nat) (place : Place) (assembly : Assembly) :
    Prop where
  reads : assembly.Reads place (style.markerNames values outs)
  counted : assembly.markers = values + outs
  takes : (assembly.binds style).Takes style values
  returned : assembly.outs.map OutBind.marker = (style.markerNames values outs).drop values
  /-- Columns are returned last. -/
  early : place ≠ .listed → place ≠ .returned → outs = 0

namespace Marks

variable {style : MarkerStyle} {values outs : Nat} {place final : Place} {assembly : Assembly}

theorem start (style : MarkerStyle) : Marks style 0 0 .free {} where
  reads := by
    rw [style.markerNames_nil]
    exact reads_nil
  counted := rfl
  takes := by cases style <;> exact ⟨rfl, rfl⟩
  returned := by cases style <;> rfl
  early := fun _ _ => rfl

theorem length_outs (marks : Marks style values outs place assembly) :
    assembly.outs.length = outs := by
  have lengths := congrArg List.length marks.returned
  rw [List.length_map, List.length_drop, style.length_markerNames] at lengths
  omega

theorem text (marks : Marks style values outs place assembly) (sql : String)
    (ran : place.run (sql.toList.map Sign.ofLetter) = some final) :
    Marks style values outs final { assembly with sql := assembly.sql ++ sql } where
  reads := marks.reads.text ran
  counted := marks.counted
  takes := by cases style <;> exact marks.takes
  returned := marks.returned
  early := by
    intro unlisted unreturned
    refine marks.early ?_ ?_
    · exact fun listed => (Place.run_late _ ran (Or.inl listed)).elim unlisted unreturned
    · exact fun returned => (Place.run_late _ ran (Or.inr returned)).elim unlisted unreturned

theorem value (marks : Marks style values outs .free assembly) (value : Value) :
    Marks style (values + 1) outs .tight (assembly.add style (.value value)) := by
  obtain rfl : outs = 0 := marks.early (by decide) (by decide)
  have reads : (assembly.marked (style.valueName (assembly.markers + 1))).Reads .tight
      (style.markerNames (values + 1) 0) := by
    rw [style.markerNames_value, marks.counted]
    exact marks.reads.marked rfl (Or.inl rfl) (style.isName_valueName _)
  have none : assembly.outs = [] := List.eq_nil_of_length_eq_zero marks.length_outs
  have returned : assembly.outs.map OutBind.marker =
      (style.markerNames (values + 1) 0).drop (values + 1) := by
    rw [none, List.drop_of_length_le (by rw [style.length_markerNames])]
    rfl
  have counted : assembly.markers + 1 = values + 1 + 0 := congrArg Nat.succ marks.counted
  have takes := marks.takes
  cases style with
  | numbered =>
    refine ⟨reads, counted, ⟨rfl, ?_⟩, returned, fun _ _ => rfl⟩
    have length := takes.2
    rw [List.length_reverse] at length ⊢
    exact congrArg Nat.succ length
  | named =>
    refine ⟨reads, counted, ⟨rfl, ?_⟩, returned, fun _ _ => rfl⟩
    have equal : assembly.markers = values := marks.counted
    rw [MarkerStyle.markerNames_value, ← takes.2, ← equal]
    simp [add, addGenerated, MarkerStyle.valueName]

theorem out (marks : Marks style values outs place assembly) (marker : (place.step .out).isSome)
    (column : String) (columnType : Option ColumnType) (rows : Nat) :
    Marks style values (outs + 1) .returned
      (assembly.add style (.out column columnType rows)) := by
  have reads : (assembly.marked (style.outName values (outs + 1))).Reads .returned
      (style.markerNames values (outs + 1)) := by
    rw [style.markerNames_out]
    exact marks.reads.marked marker (Or.inr rfl) (style.isName_outName _ _)
  have returned : assembly.outs.map OutBind.marker ++ [style.outName values (outs + 1)] =
      (style.markerNames values (outs + 1)).drop values := by
    rw [marks.returned, style.markerNames_out,
      List.drop_append_of_le_length (by rw [style.length_markerNames]; omega)]
  have counted : assembly.markers + 1 = values + (outs + 1) := congrArg Nat.succ marks.counted
  have late : Place.returned ≠ .listed → Place.returned ≠ .returned → outs + 1 = 0 :=
    fun _ impossible => absurd rfl impossible
  have takes := marks.takes
  cases style with
  | numbered =>
    have name : toString (assembly.markers + 1) =
        MarkerStyle.numbered.outName values (outs + 1) := congrArg toString counted
    have added : assembly.add .numbered (.out column columnType rows) =
        assembly.addOut (MarkerStyle.numbered.outName values (outs + 1)) column columnType rows :=
      congrArg (assembly.addOut · column columnType rows) name
    rw [added]
    exact ⟨reads, counted, takes, by rw [addOut, List.map_append]; exact returned, late⟩
  | named =>
    have name : "ret" ++ toString (assembly.outs.length + 1) =
        MarkerStyle.named.outName values (outs + 1) := by
      rw [marks.length_outs]
      rfl
    have added : assembly.add .named (.out column columnType rows) =
        assembly.addOut (MarkerStyle.named.outName values (outs + 1)) column columnType rows :=
      congrArg (assembly.addOut · column columnType rows) name
    rw [added]
    exact ⟨reads, counted, takes, by rw [addOut, List.map_append]; exact returned, late⟩

/-- What holds of an assembly goes on holding while pieces are added that are allowed. -/
theorem foldl (marks : Marks style values outs place assembly) (pieces : List Piece)
    (ran : place.run (pieces.flatMap Piece.signs) = some final) :
    ∃ more, Marks style (values + Piece.valueCount pieces) (outs + more) final
      (pieces.foldl (Assembly.add style) assembly) := by
  induction pieces generalizing assembly place values outs with
  | nil =>
    cases ran
    exact ⟨0, marks⟩
  | cons piece rest inductionHypothesis =>
    rw [List.flatMap_cons, Place.run_append, Option.bind_eq_some_iff] at ran
    obtain ⟨next, first, ran⟩ := ran
    rw [List.foldl_cons]
    cases piece with
    | text sql => exact inductionHypothesis (marks.text sql first) ran
    | value value =>
      cases place <;> cases first
      have count : values + Piece.valueCount (.value value :: rest) =
          values + 1 + Piece.valueCount rest := by
        rw [Piece.valueCount, List.countP_cons_of_pos rfl, Nat.add_right_comm, Nat.add_assoc]
        rfl
      rw [count]
      exact inductionHypothesis (marks.value value) ran
    | named name value => cases place <;> cases first
    | out column columnType rows =>
      have allowed : (place.step .out).isSome ∧ next = .returned := by
        cases place <;> cases first <;> exact ⟨rfl, rfl⟩
      obtain ⟨marker, rfl⟩ := allowed
      obtain ⟨more, marks⟩ := inductionHypothesis (marks.out marker column columnType rows) ran
      exact ⟨1 + more, by rw [← Nat.add_assoc]; exact marks⟩

end Marks

end Assembly

/-- A statement returns the columns that were assembled. -/
theorem Dialect.outs_assemble (dialect : Dialect) {shape : Shape}
    (plain : shape = .rows ∨ shape = .rowsAffected) (pieces : List Piece) :
    (dialect.assemble pieces shape).outs =
      (pieces.foldl (Assembly.add dialect.markerStyle) {}).outs := by
  unfold assemble Statement.outs
  dsimp only
  rcases plain with rfl | rfl <;>
    cases (pieces.foldl (Assembly.add dialect.markerStyle) {}).outs <;> rfl

/-- The reader finds the markers of a statement that is assembled of allowed pieces. -/
theorem Dialect.assemble_hasMarkers (dialect : Dialect) {pieces : List Piece} {shape : Shape}
    (leads : Leads .free pieces .returned) (plain : shape = .rows ∨ shape = .rowsAffected) :
    ∃ outs, (dialect.assemble pieces shape).HasMarkers dialect.markerStyle
      (Piece.valueCount pieces) outs := by
  obtain ⟨place, ran, outside⟩ := Leads.iff_run.mp leads
  obtain ⟨outs, marks⟩ := (Assembly.Marks.start dialect.markerStyle).foldl pieces ran
  rw [Nat.zero_add, Nat.zero_add] at marks
  have ended : place ≠ .quoted := by
    rintro rfl
    cases outside
  refine ⟨outs, ?_, marks.takes, ?_⟩
  · obtain ⟨before, _, found⟩ := marks.reads.settled ended
    have all := found [] (fun letter impossible => by cases impossible)
    rw [List.append_nil] at all
    refine all.trans ?_
    rw [Marker.nativesFrom, Marker.lexemesFrom]
    exact congrArg Except.ok (List.append_nil _)
  · rw [← marks.returned, dialect.outs_assemble plain]

/-! ### The check -/

namespace Statement

variable {style : MarkerStyle} {values outs : Nat} {statement : Statement}

theorem sameMembers_self (names : List String) : sameMembers names names = true := by
  have each : names.all names.contains = true :=
    List.all_eq_true.mpr fun name member => List.contains_iff_mem.mpr member
  rw [sameMembers, each]
  rfl

theorem HasMarkers.length_outs (marked : statement.HasMarkers style values outs) :
    statement.outs.length = outs := by
  have lengths := congrArg List.length marked.2.2
  rw [List.length_map, List.length_drop, style.length_markerNames] at lengths
  omega

theorem HasMarkers.valueFault_eq (marked : statement.HasMarkers style values outs) :
    statement.valueFault? (style.markerNames values outs) = none := by
  have length := marked.length_outs
  have takes := marked.2.1
  unfold valueFault?
  dsimp only
  cases bound : statement.binds with
  | positional given =>
    rw [bound] at takes
    dsimp only
    rw [style.length_markerNames, length, takes.2, countFault?, if_pos rfl]
  | batch rows =>
    rw [bound] at takes
    dsimp only
    rw [List.findSome?_eq_none_iff]
    intro row member
    rw [style.length_markerNames, length, Nat.add_sub_cancel, takes row member, countFault?,
      if_pos rfl]
  | named pairs =>
    rw [bound] at takes
    dsimp only
    rw [takes.2, marked.2.2, style.markerNames_split, sameMembers_self, if_pos rfl]

theorem HasMarkers.outFault_eq (marked : statement.HasMarkers style values outs) :
    statement.outFault? (style.markerNames values outs) = none := by
  unfold outFault?
  rw [List.findSome?_eq_none_iff]
  intro out member
  have named : out.marker ∈ style.markerNames values outs := by
    have image := List.mem_map_of_mem (f := OutBind.marker) member
    rw [marked.2.2] at image
    exact List.mem_of_mem_drop image
  have folded : Text.memFolded out.marker (style.markerNames values outs) = true :=
    List.any_eq_true.mpr ⟨out.marker, named, beq_self_eq_true _⟩
  rw [if_pos folded]

/-- A marked statement that is no definition is accepted by the check. -/
theorem HasMarkers.check_eq (marked : statement.HasMarkers style values outs)
    (built : statement.operation ≠ definitionOperation) : statement.check = .ok () := by
  have found : statement.fault? = none := by
    unfold fault?
    rw [if_neg built, marked.1]
    dsimp only
    rw [marked.valueFault_eq, marked.outFault_eq]
    rfl
  rw [check, found]

end Statement

end OracleSql
