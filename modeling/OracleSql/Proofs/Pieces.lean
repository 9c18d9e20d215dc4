/-
This file reads off pieces what they hold: values that are bound, columns that are returned, or only
text. Pieces that are joined hold what their members hold, since the separators are text.
-/

import OracleSql.Piece

namespace OracleSql

namespace Piece

/-- The value that the piece binds. -/
def value? : Piece → Option Value
  | value bound => some bound
  | named _ bound => some bound
  | _ => none

/-- The returned column that the piece takes. -/
def column? : Piece → Option String
  | out column _ _ => some column
  | _ => none

/-- Whether the piece is text. -/
def isText : Piece → Bool
  | text _ => true
  | _ => false

/-- Whether the marker of the piece gets its name by its number. -/
def isPlain : Piece → Bool
  | named _ _ => false
  | _ => true

variable {separator : String}

/-- What is read off the pieces of a joined list is read off its members. -/
theorem filterMap_join {α : Type} {read : Piece → Option α} (silent : read (.text separator) = none)
    (members : List (List Piece)) :
    (join separator members).filterMap read = members.flatten.filterMap read := by
  match members with
  | [] => rfl
  | [member] => rw [join, List.flatten_singleton]
  | member :: next :: rest =>
    have others := filterMap_join silent (next :: rest)
    rw [join_cons_cons, List.filterMap_append, List.filterMap_cons_none silent, others,
      ← List.filterMap_append]
    rfl

/-- A joined list has the pieces of its members and texts. -/
theorem all_join {holds : Piece → Bool} (silent : holds (.text separator) = true)
    (members : List (List Piece)) (each : ∀ member ∈ members, member.all holds = true) :
    (join separator members).all holds = true := by
  match members with
  | [] => rfl
  | [member] => exact each member List.mem_cons_self
  | member :: next :: rest =>
    obtain ⟨first, tail⟩ := List.forall_mem_cons.mp each
    have others := all_join silent (next :: rest) tail
    rw [join_cons_cons, List.all_append, List.all_cons, first, silent, others]
    rfl

/-- Nothing is read off texts. -/
theorem filterMap_of_isText {α : Type} {read : Piece → Option α}
    (silent : ∀ sql, read (.text sql) = none) {pieces : List Piece}
    (texts : pieces.all isText = true) : pieces.filterMap read = [] := by
  rw [List.filterMap_eq_nil_iff]
  intro piece member
  have written := List.all_eq_true.mp texts piece member
  cases piece with
  | text sql => exact silent sql
  | _ => cases written

theorem isPlain_of_isText {pieces : List Piece} (texts : pieces.all isText = true) :
    pieces.all isPlain = true := by
  rw [List.all_eq_true] at texts ⊢
  intro piece member
  have written := texts piece member
  cases piece with
  | text sql => rfl
  | _ => cases written

end Piece

end OracleSql
