/-
This file says what the markers of a statement stand for, and what it is for two statements to be
the same but for their markers. A marker with the name of a returned column stands for that column;
any other one stands for the value that is bound in its place, or under its name, once for each run
of the statement. Two statements are the same if their texts have one outline and the markers in its
places stand for the same things.
-/

import OracleSql.Proofs.Styles.Names
import OracleSql.Proofs.Template.Outline

namespace OracleSql

/-! ### What markers stand for -/

/-- What a marker stands for. -/
inductive Meaning where
  /-- The returned column with so many before it. -/
  | returned (place : Nat)
  /-- A value for each run of the statement. -/
  | bound (values : List Value)
  deriving DecidableEq

/-- The values that are bound at a place among the values, or under a name, one for each run. -/
def Binds.at? (place : Nat) (name : String) : Binds → Option (List Value)
  | positional values => values[place]?.map ([·])
  | named pairs => (pairs.find? (Text.sameFolded ·.1 name)).map fun pair => [pair.2]
  | batch rows => rows.mapM (·[place]?)

/-- The names that values are bound under. -/
def Binds.names : Binds → List String
  | named pairs => pairs.map Prod.fst
  | _ => []

namespace Statement

/-- Whether a column is returned into the marker of this name. -/
def isReturned (statement : Statement) (name : String) : Bool :=
  statement.outs.any (Text.sameFolded ·.marker name)

/-- What the marker at an index stands for, where `names` are the names of all markers in order. -/
def meaning? (statement : Statement) (names : List String) (index : Nat) : Option Meaning := do
  let name ← names[index]?
  match statement.outs.findIdx? (Text.sameFolded ·.marker name) with
  | some place => some (.returned place)
  | none =>
    let place := (names.take index).countP fun earlier => !statement.isReturned earlier
    (statement.binds.at? place name).map .bound

end Statement

/-! ### Statements that differ in their markers -/

/-- The returned column without the name of its marker. -/
def OutBind.unmarked (out : OutBind) : OutBind :=
  { out with marker := "" }

/-- What a statement produces, without the names of markers. -/
def Shape.unmarked : Shape → Shape
  | returning outs => returning (outs.map OutBind.unmarked)
  | shape => shape

/-- The statement without its text, its values and the names of markers. -/
def Statement.unmarked (statement : Statement) : Statement :=
  { statement with sql := "", binds := .none, shape := statement.shape.unmarked }

/-- The names of so many numbered markers. -/
def markerNumbers (count : Nat) : List String :=
  (List.range' 1 count).map toString

/-- A statement with numbered markers and one with named ones that say the same: the outline is that
of both texts, with the numbers and with the names in its places, and each place means the same in
both. There are as many places as values for a run and returned columns, and no name is bound
without a place. The bound names differ from each other and from the markers of returned columns,
whatever the case of their letters. -/
structure Statement.SameWith (outline : Outline) (names : List String)
    (numbered named : Statement) : Prop where
  places : outline.count none = names.length
  sqlNumbered : numbered.sql = outline.written (markerNumbers names.length)
  sqlNamed : named.sql = outline.written names
  meaning : ∀ index < names.length, ∃ meaning,
    numbered.meaning? (markerNumbers names.length) index = some meaning ∧
      named.meaning? names index = some meaning
  binds : (∃ values pairs, numbered.binds = .positional values ∧ named.binds = .named pairs ∧
      values.length + numbered.outs.length = names.length) ∨
    ∃ rows, numbered.binds = .batch rows ∧ named.binds = .batch rows ∧
      ∀ values ∈ rows, values.length + numbered.outs.length = names.length
  rest : numbered.unmarked = named.unmarked
  used : ∀ name ∈ named.binds.names, name ∈ names
  distinct : named.binds.names.Pairwise fun name other => Text.sameFolded name other = false
  apart : ∀ name ∈ named.binds.names, ∀ out ∈ named.outs,
    Text.sameFolded name out.marker = false

/-- The statements say the same, one with numbered and one with named markers. -/
def Statement.Same (numbered named : Statement) : Prop :=
  ∃ outline names, Statement.SameWith outline names numbered named

/-- Plans whose statements say the same, and which are the same otherwise. -/
structure Plan.Same (numbered named : Plan) : Prop where
  statements : List.Forall₂ Statement.Same numbered.statements named.statements
  rest : { numbered with statements := [] } = { named with statements := [] }

/-! ### Markers of pieces -/

/-- Whether the piece takes a returned column. -/
def Piece.isOut (piece : Piece) : Bool :=
  piece.column?.isSome

/-- The returned columns of pieces with the names of their markers. -/
def outsOf (pairs : List (Piece × String)) : List OutBind :=
  pairs.filterMap fun pair => pair.1.outBind? pair.2

/-- The name of a returned column's marker is no other marker's. -/
def SetApart (pairs : List (Piece × String)) : Prop :=
  pairs.Pairwise fun pair other =>
    (pair.1.isOut = true ∨ other.1.isOut = true) → Text.sameFolded pair.2 other.2 = false

variable {pairs : List (Piece × String)} {piece : Piece} {name : String}

theorem outsOf_cons_of_isOut (out : piece.isOut = true) (name : String)
    (pairs : List (Piece × String)) :
    ∃ bind : OutBind, bind.marker = name ∧
      outsOf ((piece, name) :: pairs) = bind :: outsOf pairs := by
  cases piece with
  | out column columnType rows => exact ⟨_, rfl, rfl⟩
  | _ => cases out

theorem outsOf_cons_of_not_isOut (other : piece.isOut = false) (name : String)
    (pairs : List (Piece × String)) : outsOf ((piece, name) :: pairs) = outsOf pairs := by
  cases piece with
  | out column columnType rows => cases other
  | _ => rfl

theorem exists_of_mem_outsOf {out : OutBind} (member : out ∈ outsOf pairs) :
    ∃ pair ∈ pairs, pair.1.isOut = true ∧ pair.2 = out.marker := by
  obtain ⟨⟨piece, name⟩, inside, found⟩ := List.mem_filterMap.mp member
  cases piece with
  | out column columnType rows =>
    cases found
    exact ⟨_, inside, rfl, rfl⟩
  | _ => cases found

/-- A marker is found among those of returned columns if it is one, and at its place. -/
theorem findIdx?_outsOf (apart : SetApart pairs) {index : Nat}
    (found : pairs[index]? = some (piece, name)) :
    (outsOf pairs).findIdx? (Text.sameFolded ·.marker name) =
      if piece.isOut then some ((pairs.take index).countP (·.1.isOut)) else none := by
  induction pairs generalizing index with
  | nil => cases found
  | cons pair rest inductionHypothesis =>
    obtain ⟨first, start⟩ := pair
    obtain ⟨others, tail⟩ := List.pairwise_cons.mp apart
    cases index with
    | zero =>
      cases found
      cases out : piece.isOut with
      | true =>
        obtain ⟨bind, marker, split⟩ := outsOf_cons_of_isOut out name rest
        rw [split, List.findIdx?_cons, marker, Text.sameFolded_refl]
        rfl
      | false =>
        rw [outsOf_cons_of_not_isOut out, if_neg Bool.false_ne_true, List.findIdx?_eq_none_iff]
        intro bind member
        obtain ⟨pair, inside, returned, marker⟩ := exists_of_mem_outsOf member
        rw [← marker, Text.sameFolded_comm]
        exact others pair inside (Or.inr returned)
    | succ index =>
      have later := inductionHypothesis tail found
      rw [List.take_succ_cons, List.countP_cons]
      cases out : first.isOut with
      | true =>
        obtain ⟨bind, marker, split⟩ := outsOf_cons_of_isOut out start rest
        rw [split, List.findIdx?_cons, marker,
          others _ (List.mem_of_getElem? found) (Or.inl out), later]
        cases piece.isOut <;> rfl
      | false =>
        rw [outsOf_cons_of_not_isOut out, later]
        rfl

variable {statement : Statement}

theorem isReturned_eq (outs : statement.outs = outsOf pairs) (apart : SetApart pairs)
    (member : (piece, name) ∈ pairs) : statement.isReturned name = piece.isOut := by
  obtain ⟨index, found⟩ := List.getElem?_of_mem member
  rw [Statement.isReturned, outs, ← List.findIdx?_isSome, findIdx?_outsOf apart found]
  cases piece.isOut <;> rfl

/-- Where returned columns have names of their own, the markers stand for what their pieces say. -/
theorem meaning?_eq (outs : statement.outs = outsOf pairs) (apart : SetApart pairs) {index : Nat}
    (found : pairs[index]? = some (piece, name)) :
    statement.meaning? (pairs.map Prod.snd) index =
      if piece.isOut then
        some (.returned (((pairs.map Prod.fst).take index).countP Piece.isOut))
      else
        (statement.binds.at?
          (((pairs.map Prod.fst).take index).countP fun earlier => !earlier.isOut)
          name).map .bound := by
  have named : (pairs.map Prod.snd)[index]? = some name := by
    rw [List.getElem?_map, found]
    rfl
  have returned : ((pairs.map Prod.fst).take index).countP Piece.isOut =
      (pairs.take index).countP (·.1.isOut) := by
    rw [← List.map_take, List.countP_map]
    rfl
  have earlier : ((pairs.map Prod.snd).take index).countP (fun earlier =>
        !statement.isReturned earlier) =
      ((pairs.map Prod.fst).take index).countP fun earlier => !earlier.isOut := by
    rw [← List.map_take, ← List.map_take, List.countP_map, List.countP_map]
    refine List.countP_congr fun pair member => ?_
    rw [Function.comp_apply, Function.comp_apply,
      isReturned_eq outs apart (List.mem_of_mem_take member)]
  rw [Statement.meaning?, named, outs, Option.bind_eq_bind, Option.bind_some,
    findIdx?_outsOf apart found, returned, earlier]
  cases piece.isOut <;> rfl

/-! ### Values -/

/-- The values that are read off a list stand there in its order. -/
theorem getElem?_filterMap {α β : Type} {read : α → Option β} {items : List α} {index : Nat}
    {item : α} {value : β} (found : items[index]? = some item) (gives : read item = some value) :
    (items.filterMap read)[(items.take index).countP fun item => (read item).isSome]? =
      some value := by
  induction items generalizing index with
  | nil => cases found
  | cons first rest inductionHypothesis =>
    cases index with
    | zero =>
      cases found
      rw [List.filterMap_cons_some gives]
      rfl
    | succ index =>
      have later := inductionHypothesis found
      cases head : read first with
      | none =>
        rw [List.filterMap_cons_none head, List.take_succ_cons,
          List.countP_cons_of_neg (by rw [head]; exact Bool.false_ne_true), later]
      | some other =>
        rw [List.filterMap_cons_some head, List.take_succ_cons,
          List.countP_cons_of_pos (by rw [head]; rfl), List.getElem?_cons_succ, later]

/-- Where something is read off every item, it is read off all of them. -/
theorem exists_mapM_eq_some {α β : Type} {read : α → Option β} {items : List α}
    (each : ∀ item ∈ items, ∃ value, read item = some value) :
    ∃ values, items.mapM read = some values := by
  induction items with
  | nil => exact ⟨[], rfl⟩
  | cons item rest inductionHypothesis =>
    obtain ⟨head, tail⟩ := List.forall_mem_cons.mp each
    obtain ⟨value, first⟩ := head
    obtain ⟨values, others⟩ := inductionHypothesis tail
    exact ⟨value :: values, by rw [List.mapM_cons, first, others]; rfl⟩

/-- A name is found with its value where no other name is the same. -/
theorem find?_of_distinct {bindings : List (String × Value)} {value : Value}
    (distinct : bindings.Pairwise fun binding other =>
      Text.sameFolded binding.1 other.1 = false) (member : (name, value) ∈ bindings) :
    bindings.find? (Text.sameFolded ·.1 name) = some (name, value) := by
  induction bindings with
  | nil => cases member
  | cons binding rest inductionHypothesis =>
    obtain ⟨others, tail⟩ := List.pairwise_cons.mp distinct
    rcases List.mem_cons.mp member with rfl | later
    · rw [List.find?_cons, Text.sameFolded_refl]
    · rw [List.find?_cons, others _ later]
      exact inductionHypothesis tail later

end OracleSql
