/-
This file takes the spelling of the markers out of a text. An outline is a text with places for
markers; with a name for each place it is written out again. The outline of a statement is known
from its pieces, and the names that assembling puts into its places from the style of the markers:
`Assembly.names` has them in order. Numbered markers count the places.
-/

import OracleSql.Proofs.Pieces
import Mathlib.Data.List.Basic

namespace OracleSql

/-! ### Outlines -/

/-- A text with places for markers, `none` for each place. -/
abbrev Outline := List (Option String)

/-- The text with a marker of the given name in each place. -/
def Outline.written : Outline → List String → String
  | [], _ => ""
  | some text :: rest, names => text ++ written rest names
  | none :: rest, name :: names => ":" ++ name ++ written rest names
  | none :: rest, [] => written rest []

namespace Piece

/-- A piece in an outline: its text, or a place. -/
def slot : Piece → Option String
  | text sql => some sql
  | _ => none

/-- Whether the piece gets a marker. -/
def isMarker (piece : Piece) : Bool :=
  !piece.isText

/-- The returned column that a piece takes under a marker of this name. -/
def outBind? (name : String) : Piece → Option OutBind
  | out column columnType rows => some { marker := name, column, columnType, rows }
  | _ => none

theorem slot_of_isMarker {piece : Piece} (marker : piece.isMarker = true) : piece.slot = none := by
  cases piece with
  | text sql => cases marker
  | _ => rfl

end Piece

/-! ### Names of markers -/

namespace Assembly

/-- The name of the marker that a piece gets after what has been assembled. -/
def nextName (style : MarkerStyle) (assembly : Assembly) : Piece → String
  | .named name _ =>
    match style with
    | .numbered => toString (assembly.markers + 1)
    | .named => (assembly.named.find? (Text.sameFolded ·.1 name)).elim name Prod.fst
  | .out _ _ _ =>
    match style with
    | .numbered => toString (assembly.markers + 1)
    | .named => "ret" ++ toString (assembly.outs.length + 1)
  | _ =>
    match style with
    | .numbered => toString (assembly.markers + 1)
    | .named => "p" ++ toString (assembly.markers + 1)

/-- The names of the markers that pieces get, in order. -/
def names (style : MarkerStyle) : Assembly → List Piece → List String
  | _, [] => []
  | assembly, piece :: rest =>
    let others := names style (assembly.add style piece) rest
    if piece.isMarker then assembly.nextName style piece :: others else others

theorem names_marker {style : MarkerStyle} {assembly : Assembly} {piece : Piece}
    (marker : piece.isMarker = true) (rest : List Piece) :
    assembly.names style (piece :: rest) =
      assembly.nextName style piece :: (assembly.add style piece).names style rest := by
  rw [names, if_pos marker]

theorem sql_add (style : MarkerStyle) (assembly : Assembly) {piece : Piece}
    (marker : piece.isMarker = true) :
    (assembly.add style piece).sql = assembly.sql ++ (":" ++ assembly.nextName style piece) := by
  cases piece with
  | text sql => cases marker
  | value value => cases style <;> exact String.append_assoc
  | out column columnType rows => cases style <;> exact String.append_assoc
  | named name value =>
    cases style with
    | numbered => exact String.append_assoc
    | named =>
      simp only [add, addNamed, nextName]
      cases assembly.named.find? (Text.sameFolded ·.1 name) <;> exact String.append_assoc

/-- The text of what is assembled is its outline with the names of the markers. -/
theorem sql_foldl (style : MarkerStyle) (pieces : List Piece) (assembly : Assembly) :
    (pieces.foldl (Assembly.add style) assembly).sql =
      assembly.sql ++ Outline.written (pieces.map Piece.slot) (assembly.names style pieces) := by
  induction pieces generalizing assembly with
  | nil => exact String.append_empty.symm
  | cons piece rest inductionHypothesis =>
    rw [List.foldl_cons, inductionHypothesis, List.map_cons]
    by_cases marker : piece.isMarker = true
    · rw [names_marker marker, Piece.slot_of_isMarker marker, Outline.written,
        sql_add style assembly marker, String.append_assoc]
    · cases piece with
      | text sql => exact String.append_assoc
      | _ => exact absurd rfl marker

theorem outs_add (style : MarkerStyle) (assembly : Assembly) (piece : Piece) :
    (assembly.add style piece).outs =
      assembly.outs ++ (piece.outBind? (assembly.nextName style piece)).toList := by
  cases piece with
  | out column columnType rows => cases style <;> rfl
  | text sql => exact (List.append_nil _).symm
  | value value => cases style <;> exact (List.append_nil _).symm
  | named name value =>
    cases style with
    | numbered => exact (List.append_nil _).symm
    | named =>
      simp only [add, addNamed]
      cases assembly.named.find? (Text.sameFolded ·.1 name) <;> exact (List.append_nil _).symm

/-- The returned columns of what is assembled are those of the pieces, under their names. -/
theorem outs_foldl (style : MarkerStyle) (pieces : List Piece) (assembly : Assembly) :
    (pieces.foldl (Assembly.add style) assembly).outs =
      assembly.outs ++ ((pieces.filter Piece.isMarker).zip (assembly.names style pieces)).filterMap
        fun pair => pair.1.outBind? pair.2 := by
  induction pieces generalizing assembly with
  | nil => exact (List.append_nil _).symm
  | cons piece rest inductionHypothesis =>
    rw [List.foldl_cons, inductionHypothesis, outs_add, List.append_assoc]
    by_cases marker : piece.isMarker = true
    · rw [names_marker marker, List.filter_cons_of_pos marker, List.zip_cons_cons,
        List.filterMap_cons]
      cases piece.outBind? (assembly.nextName style piece) <;> rfl
    · cases piece with
      | text sql => rfl
      | _ => exact absurd rfl marker

/-! ### Numbers -/

/-- Where markers are numbered, their names are the numbers that follow. -/
theorem names_numbered (pieces : List Piece) (assembly : Assembly) :
    assembly.names .numbered pieces =
      (List.range' (assembly.markers + 1) (pieces.countP Piece.isMarker)).map toString := by
  induction pieces generalizing assembly with
  | nil => rfl
  | cons piece rest inductionHypothesis =>
    cases piece with
    | text sql => exact inductionHypothesis _
    | _ =>
      rw [names_marker rfl, inductionHypothesis, List.countP_cons_of_pos rfl, List.range'_succ]
      rfl

/-- Where markers are numbered, all values are bound in order. -/
theorem positional_foldl (pieces : List Piece) (assembly : Assembly) :
    (pieces.foldl (Assembly.add .numbered) assembly).positional =
      (pieces.filterMap Piece.value?).reverse ++ assembly.positional := by
  induction pieces generalizing assembly with
  | nil => rfl
  | cons piece rest inductionHypothesis =>
    rw [List.foldl_cons, inductionHypothesis]
    cases piece <;> simp [add, addNumbered, addOut, marked, List.filterMap_cons, Piece.value?]

end Assembly

end OracleSql
