/-
This file runs two names side by side that have the same shape: as many segments, and the same ones
of them bare, in quotes or the star. Whatever the segments hold, each of them is written between
quotes, and neither a quote nor the null character gets in: a name with the null character is
refused, a name is cut at its quotes, and neither upper case nor the mark of a shortened name brings
them in again. So names of one shape are written as the same parts. References to tables are names
in a row, and they have a shape word by word.
-/

import OracleSql.Proofs.Containment.Parallel
import OracleSql.Proofs.Identifier.Segments
import OracleSql.TableReference

namespace OracleSql

/-! ### Shapes -/

/-- The segment without its spelling. -/
def IdentifierPart.withoutSpelling : IdentifierPart → IdentifierPart
  | bare _ => bare ""
  | quoted _ => quoted ""
  | star => star

/-- The segments of a name without their spellings, if the text is a name. -/
def Identifier.shape? (name : String) : Option (List IdentifierPart) :=
  (parse name).toOption.map fun identifier =>
    identifier.parts.map IdentifierPart.withoutSpelling

/-- The shapes of the words of a reference to a table, if its quotes are closed. -/
def TableReference.shape? (text : String) : Option (List (Option (List IdentifierPart))) :=
  (words? text).map (·.map Identifier.shape?)

/-! ### Names -/

namespace Identifier

/-- A segment that has neither a quote nor the null character. -/
def IsClean (part : IdentifierPart) : Prop :=
  Lacks '"' part ∧ Lacks '\x00' part

/-- A stored name between quotes is one segment, whatever it is. -/
theorem fits_inQuotes (style : MarkerStyle) {stored : String} (noQuote : '"' ∉ stored.toList)
    (noNull : '\x00' ∉ stored.toList) :
    Fits style .free (inQuotes stored).toList [.segment] .word := by
  have letters : (inQuotes stored).toList = '"' :: (stored.toList ++ ['"']) := by
    rw [inQuotes, String.toList_append, String.toList_append]
    rfl
  rw [letters]
  exact .between (.segment stored.toList noQuote noNull .nil)

/-- Segments of one kind are written as the same parts. -/
theorem partText_parallel (style : MarkerStyle) (dialect : Dialect) {part other : IdentifierPart}
    (same : part.withoutSpelling = other.withoutSpelling) (clean : IsClean part)
    (cleanToo : IsClean other) :
    ParallelText style .free (partText dialect part) (partText dialect other) .word := by
  have written {part : IdentifierPart} (clean : IsClean part) {stored : String}
      (kept : dialect.stored? part = some stored) :
      Fits style .free (inQuotes stored).toList [.segment] .word :=
    fits_inQuotes style (clean.1.stored (by decide) dialect stored kept)
      (clean.2.stored (by decide) dialect stored kept)
  cases part with
  | bare name =>
    cases other with
    | bare another => exact ⟨[.segment], written clean rfl, written cleanToo rfl⟩
    | _ => cases same
  | quoted name =>
    cases other with
    | quoted another => exact ⟨[.segment], written clean rfl, written cleanToo rfl⟩
    | _ => cases same
  | star =>
    cases other with
    | star =>
      have star : ParallelText style .free "*" "*" .word := .fixed (by decide)
      exact star
    | _ => cases same

/-- Rows of segments of the same kinds are written as the same parts. -/
theorem join_parallel (style : MarkerStyle) (dialect : Dialect) {parts others : List IdentifierPart}
    (same : List.Forall₂ (fun part other => part.withoutSpelling = other.withoutSpelling)
      parts others) (clean : ∀ part ∈ parts, IsClean part)
    (cleanToo : ∀ part ∈ others, IsClean part) :
    ParallelText style .free (Text.join "." (parts.map (partText dialect)))
      (Text.join "." (others.map (partText dialect))) .word := by
  induction same with
  | nil => exact ⟨[], .between .nil, .between .nil⟩
  | cons head tail inductionHypothesis =>
    obtain ⟨cleanHead, cleanTail⟩ := List.forall_mem_cons.mp clean
    obtain ⟨cleanHeadToo, cleanTailToo⟩ := List.forall_mem_cons.mp cleanToo
    have first := partText_parallel style dialect head cleanHead cleanHeadToo
    have others := inductionHypothesis cleanTail cleanTailToo
    cases tail with
    | nil =>
      rw [List.map_singleton, List.map_singleton, Text.join, String.intercalate_singleton,
        Text.join, String.intercalate_singleton]
      exact first
    | cons next rest =>
      have dot : ParallelText style .word "." "." .free := .fixed (by decide)
      simp only [List.map_cons, Text.join, String.intercalate_cons_cons] at others ⊢
      exact (first.append dot).append others

end Identifier

namespace Dialect

variable (dialect : Dialect)

/-- Names of one shape are written as the same parts. -/
theorem nameText_parallel {name other : String}
    (same : Identifier.shape? name = Identifier.shape? other) :
    Agree (ParallelText dialect.markerStyle .free · · .word) (dialect.nameText name)
      (dialect.nameText other) := by
  refine Agree.mapError _ _ fun written another built also => ?_
  obtain ⟨identifier, read, rfl⟩ := map_eq_ok.mp built
  obtain ⟨further, readToo, rfl⟩ := map_eq_ok.mp also
  have clean := (Identifier.parse_lacks name identifier read).2
  have cleanToo := (Identifier.parse_lacks other further readToo).2
  rw [Identifier.shape?, Identifier.shape?, read, readToo] at same
  have kinds := (map_eq_map_iff _ _).mp (Option.some.inj same)
  exact Identifier.join_parallel _ dialect kinds clean cleanToo

theorem namePiece_parallel {name other : String}
    (same : Identifier.shape? name = Identifier.shape? other) :
    Agree (Parallel dialect.markerStyle .free · · .word) (dialect.namePiece name)
      (dialect.namePiece other) :=
  Agree.map (dialect.nameText_parallel same) fun _ _ => Parallel.text

theorem namePieces_parallel {names others : List String}
    (same : List.Forall₂ (fun name other => Identifier.shape? name = Identifier.shape? other)
      names others) :
    Agree (Parallel dialect.markerStyle .free · · .word) (dialect.namePieces names)
      (dialect.namePieces others) :=
  Agree.map (Agree.mapM same fun _ _ => dialect.namePiece_parallel)
    fun _ _ => Parallel.join .comma

end Dialect

/-! ### References to tables -/

namespace TableReference

theorem aliasedPieces_parallel (dialect : Dialect) {name other shortName another : String}
    (same : Identifier.shape? name = Identifier.shape? other)
    (short : Identifier.shape? shortName = Identifier.shape? another) :
    Agree (Parallel dialect.markerStyle .free · · .word) (aliasedPieces dialect name shortName)
      (aliasedPieces dialect other another) := by
  refine Agree.bind (dialect.namePiece_parallel same) fun first further named => ?_
  refine Agree.bind (dialect.namePiece_parallel short) fun second last called => Agree.ok ?_
  exact named.append ((Parallel.fixed .blank).cons called)

/-- References of one shape are written as the same parts. -/
theorem pieces_parallel (dialect : Dialect) {text other : String}
    (same : shape? text = shape? other) :
    Agree (Parallel dialect.markerStyle .free · · .word) (pieces dialect text)
      (pieces dialect other) := by
  unfold shape? at same
  unfold pieces
  cases read : words? text with
  | none => exact Agree.errorLeft _ _
  | some words =>
    cases readToo : words? other with
    | none => exact Agree.errorRight _ _
    | some others =>
      rw [read, readToo] at same
      have shapes := (map_eq_map_iff _ _).mp (Option.some.inj same)
      rcases shapes with _ | ⟨first, _ | ⟨second, _ | ⟨third, _ | _⟩⟩⟩
      · exact Agree.errorLeft _ _
      · exact dialect.namePiece_parallel first
      · exact aliasedPieces_parallel dialect first second
      · dsimp only
        split
        · split
          · exact aliasedPieces_parallel dialect first third
          · exact Agree.errorRight _ _
        · exact Agree.errorLeft _ _
      · exact Agree.errorLeft _ _

end TableReference

end OracleSql
