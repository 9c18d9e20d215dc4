/-
This file takes the text of an assembled statement apart along the pieces it was made of. A text
piece stands there as it is, and every other piece as a marker of some name. So pieces that were
put together in order have texts that stand in the same order: `Spells` is the relation, and each
way of putting pieces together has a lemma that takes a spelled text apart again.
-/

import OracleSql.Proofs.Outcome
import OracleSql.Proofs.Template.Outline

namespace OracleSql

namespace Piece

/-- What pieces can be written as: texts as they stand, and markers for all others. -/
inductive Spells : List Piece → String → Prop
  | nil : Spells [] ""
  | text (sql : String) {rest : List Piece} {written : String} (others : Spells rest written) :
    Spells (.text sql :: rest) (sql ++ written)
  | marker {piece : Piece} (marker : piece.isMarker = true) (name : String) {rest : List Piece}
    {written : String} (others : Spells rest written) :
    Spells (piece :: rest) (":" ++ name ++ written)

namespace Spells

variable {pieces rest first second : List Piece} {written sql separator opening closing : String}

theorem of_text (spelled : Spells (.text sql :: rest) written) :
    ∃ others, Spells rest others ∧ written = sql ++ others := by
  cases spelled with
  | text _ others => exact ⟨_, others, rfl⟩
  | marker impossible _ _ => cases impossible

theorem of_value {value : Value} (spelled : Spells (.value value :: rest) written) :
    ∃ name others, Spells rest others ∧ written = ":" ++ name ++ others := by
  cases spelled with
  | marker _ name others => exact ⟨name, _, others, rfl⟩

theorem of_nil (spelled : Spells [] written) : written = "" := by
  cases spelled
  rfl

/-- A single text is written as it stands. -/
theorem of_single (spelled : Spells [.text sql] written) : written = sql := by
  obtain ⟨_, others, rfl⟩ := spelled.of_text
  rw [others.of_nil, String.append_empty]

/-- Pieces one after the other are written one after the other. -/
theorem of_append (spelled : Spells (first ++ second) written) :
    ∃ left right, Spells first left ∧ Spells second right ∧ written = left ++ right := by
  induction first generalizing written with
  | nil => exact ⟨"", written, .nil, spelled, String.empty_append.symm⟩
  | cons piece others inductionHypothesis =>
    cases spelled with
    | text sql others =>
      obtain ⟨left, right, before, after, rfl⟩ := inductionHypothesis others
      exact ⟨sql ++ left, right, .text sql before, after, String.append_assoc.symm⟩
    | marker isMarker name others =>
      obtain ⟨left, right, before, after, rfl⟩ := inductionHypothesis others
      exact ⟨":" ++ name ++ left, right, .marker isMarker name before, after,
        String.append_assoc.symm⟩

theorem of_enclosed (spelled : Spells (enclosed opening closing pieces) written) :
    ∃ inner, Spells pieces inner ∧ written = opening ++ inner ++ closing := by
  obtain ⟨_, others, rfl⟩ := spelled.of_text
  obtain ⟨inner, last, inside, closed, rfl⟩ := others.of_append
  rw [closed.of_single]
  exact ⟨inner, inside, String.append_assoc.symm⟩

/-- Joined members are written as their texts, joined. -/
theorem of_join {members : List (List Piece)} (spelled : Spells (join separator members) written) :
    ∃ texts, List.Forall₂ Spells members texts ∧ written = Text.join separator texts := by
  induction members generalizing written with
  | nil => exact ⟨[], .nil, spelled.of_nil⟩
  | cons member others inductionHypothesis =>
    cases others with
    | nil => exact ⟨[written], .cons spelled .nil, String.intercalate_singleton.symm⟩
    | cons next rest =>
      rw [join_cons_cons] at spelled
      obtain ⟨head, _, before, after, rfl⟩ := spelled.of_append
      obtain ⟨_, further, rfl⟩ := after.of_text
      obtain ⟨texts, each, rfl⟩ := inductionHypothesis further
      refine ⟨head :: texts, .cons before each, ?_⟩
      cases each with
      | cons => rw [Text.join, Text.join, String.intercalate_cons_cons, String.append_assoc]

/-- Joined members that write something of items each are written as such texts of the items. -/
theorem of_join_each {α : Type} {relation : α → String → Prop} {items : List α}
    {members : List (List Piece)}
    (each : List.Forall₂ (fun item member => ∀ written, Spells member written →
      relation item written) items members)
    (spelled : Spells (join separator members) written) :
    ∃ texts, List.Forall₂ relation items texts ∧ written = Text.join separator texts := by
  obtain ⟨texts, own, rfl⟩ := spelled.of_join
  refine ⟨texts, ?_, rfl⟩
  clear spelled
  induction each generalizing texts with
  | nil =>
    cases own
    exact .nil
  | cons head _ inductionHypothesis =>
    cases own with
    | cons first further => exact .cons (head _ first) (inductionHypothesis _ further)

/-- Members that can be written in one way only are joined in one way only. -/
theorem of_join_fixed {members : List (List Piece)} {texts : List String}
    (each : List.Forall₂ (fun text member => ∀ written, Spells member written → written = text)
      texts members)
    (spelled : Spells (join separator members) written) : written = Text.join separator texts := by
  obtain ⟨others, own, rfl⟩ := spelled.of_join_each each
  have same : others = texts := by
    rw [← List.forall₂_eq_eq_eq]
    exact own.flip
  rw [same]

/-- The text of an assembled statement is one that its pieces can be written as. -/
theorem assemble (dialect : Dialect) (pieces : List Piece) (shape : Shape) :
    Spells pieces (dialect.assemble pieces shape).sql := by
  have spells (assembly : Assembly) : ∃ written, Spells pieces written ∧
      (pieces.foldl (Assembly.add dialect.markerStyle) assembly).sql = assembly.sql ++ written := by
    induction pieces generalizing assembly with
    | nil => exact ⟨"", .nil, String.append_empty.symm⟩
    | cons piece rest inductionHypothesis =>
      obtain ⟨written, others, whole⟩ :=
        inductionHypothesis (assembly.add dialect.markerStyle piece)
      rw [List.foldl_cons, whole]
      by_cases marker : piece.isMarker = true
      · rw [Assembly.sql_add _ _ marker, String.append_assoc]
        exact ⟨_, .marker marker _ others, rfl⟩
      · cases piece with
        | text sql => exact ⟨_, .text sql others, String.append_assoc⟩
        | _ => exact absurd rfl marker
  obtain ⟨written, spelled, whole⟩ := spells {}
  rw [String.empty_append] at whole
  rw [← whole] at spelled
  exact spelled

end Spells

end Piece

/-- Texts that go on behind the members of a list are these members with what follows. -/
theorem exists_zipWith_of_forall₂ {α β γ : Type} (put : α → β → γ) {items : List α}
    {results : List γ}
    (each : List.Forall₂ (fun item result => ∃ other, result = put item other) items results) :
    ∃ others, others.length = items.length ∧ results = List.zipWith put items others := by
  induction each with
  | nil => exact ⟨[], rfl, rfl⟩
  | cons head _ inductionHypothesis =>
    obtain ⟨other, rfl⟩ := head
    obtain ⟨others, same, rfl⟩ := inductionHypothesis
    exact ⟨other :: others, congrArg Nat.succ same, rfl⟩

/-! ### Names -/

namespace Dialect

variable {dialect : Dialect}

/-- A piece that writes a name writes its text. -/
theorem namePiece_spells {name : String} {pieces : List Piece}
    (named : dialect.namePiece name = .ok pieces) :
    ∃ text, dialect.nameText name = .ok text ∧
      ∀ written, Piece.Spells pieces written → written = text := by
  obtain ⟨text, own, rfl⟩ := map_eq_ok.mp named
  exact ⟨text, own, fun _ => Piece.Spells.of_single⟩

/-- Members that each write a text made of a name write these texts. -/
theorem members_spell {make : String → String} {step : String → Draft}
    (steps : ∀ name, step name = (dialect.nameText name).map fun text => [.text (make text)])
    {names : List String} {members : List (List Piece)} (built : names.mapM step = .ok members) :
    ∃ texts, names.mapM dialect.nameText = .ok texts ∧
      List.Forall₂ (fun text member => ∀ written, Piece.Spells member written → written = text)
        (texts.map make) members := by
  have each : List.Forall₂ (fun name member => ∃ text, dialect.nameText name = .ok text ∧
      ∀ written, Piece.Spells member written → written = make text) names members := by
    refine (mapM_eq_ok_iff.mp built).imp fun name member own => ?_
    rw [steps] at own
    obtain ⟨text, named, rfl⟩ := map_eq_ok.mp own
    exact ⟨text, named, fun _ => Piece.Spells.of_single⟩
  obtain ⟨texts, own, fixed⟩ := forall₂_middle each
  exact ⟨texts, mapM_eq_ok_iff.mpr own, List.forall₂_map_left_iff.mpr fixed⟩

/-- Pieces that write names write their texts with commas between them. -/
theorem namePieces_spells {names : List String} {pieces : List Piece}
    (named : dialect.namePieces names = .ok pieces) :
    ∃ texts, names.mapM dialect.nameText = .ok texts ∧
      ∀ written, Piece.Spells pieces written → written = Text.join ", " texts := by
  obtain ⟨members, built, rfl⟩ := map_eq_ok.mp named
  have each := (mapM_eq_ok_iff.mp built).imp fun _ _ own => namePiece_spells own
  obtain ⟨texts, own, fixed⟩ := forall₂_middle each
  exact ⟨texts, mapM_eq_ok_iff.mpr own, fun _ => Piece.Spells.of_join_fixed fixed⟩

end Dialect

end OracleSql
