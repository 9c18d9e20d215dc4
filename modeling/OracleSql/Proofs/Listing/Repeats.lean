/-
This file says what the checks of declared columns amount to. Rows and tables refuse a column whose
spelling an earlier one has, whatever the case of its ASCII letters. A statement writes names in
another way: quotes are taken off, letters are put into the case of the dialect, and long names are
shortened. So a checked list of columns is written without repetition just if names that are written
alike are also spelled alike, which is all that the checks look at.
-/

import Mathlib.Data.List.Nodup
import OracleSql.Migration.Definition
import OracleSql.Proofs.Change.Parts
import OracleSql.Proofs.Styles.Names

namespace OracleSql

/-! ### Spellings -/

namespace Text

theorem sameFolded_trans {first second third : String} (same : sameFolded first second = true)
    (also : sameFolded second third = true) : sameFolded first third = true :=
  sameFolded_iff.mpr ((sameFolded_iff.mp same).trans (sameFolded_iff.mp also))

/-- No two of the texts are the same but for the case of their ASCII letters. -/
def Distinct (texts : List String) : Prop :=
  texts.Pairwise fun text other => sameFolded text other = false

/-- Of such texts, only the same one is the same but for case. -/
theorem Distinct.eq_of_sameFolded {texts : List String} (distinct : Distinct texts)
    {text other : String} (member : text ∈ texts) (also : other ∈ texts)
    (same : sameFolded text other = true) : text = other := by
  have symmetric :
      Std.Symm fun text other : String => sameFolded text other = true → text = other :=
    ⟨fun _ _ each back => (each (sameFolded_symm back)).symm⟩
  have whole : texts.Pairwise fun text other => sameFolded text other = true → text = other :=
    distinct.imp fun apart same => absurd same (Bool.eq_false_iff.mp apart)
  exact whole.forall_of_forall (fun _ _ _ => rfl) member also same

end Text

/-! ### Checks -/

/-- Nothing is repeated where no name is an earlier one and no two of them are the same. -/
theorem Rows.repeatedName?_eq_none_iff {earlier names : List String} :
    Rows.repeatedName? earlier names = none ↔
      (∀ name ∈ names, Text.memFolded name earlier = false) ∧ Text.Distinct names := by
  induction names generalizing earlier with
  | nil => exact ⟨fun _ => ⟨fun _ member => absurd member List.not_mem_nil, .nil⟩, fun _ => rfl⟩
  | cons name rest inductionHypothesis =>
    unfold repeatedName?
    split
    next found =>
      refine ⟨fun impossible => (nomatch impossible), fun ⟨fresh, _⟩ => ?_⟩
      rw [fresh name List.mem_cons_self] at found
      cases found
    next fresh =>
      have split (other : String) : Text.memFolded other (name :: earlier) = false ↔
          Text.sameFolded name other = false ∧ Text.memFolded other earlier = false := by
        rw [Text.memFolded, List.any_cons, Bool.or_eq_false_iff, Text.sameFolded_comm,
          Text.memFolded]
      rw [inductionHypothesis, List.forall_mem_cons, Text.Distinct, Text.Distinct,
        List.pairwise_cons]
      simp only [split, Bool.eq_false_iff.mpr fresh, true_and]
      constructor
      · rintro ⟨each, distinct⟩
        exact ⟨fun other member => (each other member).2,
          fun other member => (each other member).1, distinct⟩
      · rintro ⟨fresh, apart, distinct⟩
        exact ⟨fun other member => ⟨apart other member, fresh other member⟩, distinct⟩

/-- Columns are compared by their names. -/
theorem Table.repeated?_eq_none_iff {earlier : List String} {columns : List Column} :
    Table.repeated? earlier columns = none ↔
      Rows.repeatedName? earlier (columns.map Column.name) = none := by
  induction columns generalizing earlier with
  | nil => exact ⟨fun _ => rfl, fun _ => rfl⟩
  | cons column rest inductionHypothesis =>
    rw [List.map_cons, repeated?, Rows.repeatedName?]
    split
    · exact ⟨fun impossible => (nomatch impossible), fun impossible => (nomatch impossible)⟩
    · exact inductionHypothesis

/-- Rows that are accepted have columns with different spellings. -/
theorem Rows.distinct_of_check {rows : Rows} {operation : String}
    (checked : rows.check operation = .ok ()) : Text.Distinct rows.columns := by
  cases found : repeatedName? [] rows.columns with
  | none => exact (repeatedName?_eq_none_iff.mp found).2
  | some column =>
    -- Whichever check fails first, there is no result.
    unfold check at checked
    rw [found] at checked
    dsimp only at checked
    repeat' split at checked
    all_goals cases checked

/-- A table that is accepted has columns with different spellings. -/
theorem Table.distinct_of_check {table : Table} (checked : table.check = .ok ()) :
    Text.Distinct (table.columns.map Column.name) := by
  cases found : repeated? [] table.columns with
  | none => exact (Rows.repeatedName?_eq_none_iff.mp (repeated?_eq_none_iff.mp found)).2
  | some column =>
    unfold check fault? at checked
    rw [found] at checked
    split at checked
    · cases checked
    · next none =>
      split at none <;> cases none

/-! ### Names as they are written -/

namespace Dialect

variable {dialect : Dialect} {names written : List String}

/-- Names that are written alike are spelled alike, but for the case of ASCII letters. -/
def SpellsApart (dialect : Dialect) (names : List String) : Prop :=
  ∀ name ∈ names, ∀ other ∈ names, dialect.nameText name = dialect.nameText other →
    Text.sameFolded name other = true

instance : Decidable (dialect.SpellsApart names) :=
  inferInstanceAs (Decidable (∀ name ∈ names, ∀ other ∈ names,
    dialect.nameText name = dialect.nameText other → Text.sameFolded name other = true))

/-- Written names are not repeated just if no two of the names are written alike. -/
theorem nodup_written_iff (named : names.mapM dialect.nameText = .ok written) :
    written.Nodup ↔
      names.Pairwise fun name other => dialect.nameText name ≠ dialect.nameText other := by
  obtain ⟨pairs, rfl, rfl, each⟩ := exists_pairs_of_forall₂ (mapM_eq_ok_iff.mp named)
  unfold List.Nodup
  rw [List.pairwise_map, List.pairwise_map]
  refine List.Pairwise.iff_of_mem fun member also => ?_
  rw [each _ member, each _ also, ne_eq, ne_eq, Except.ok.injEq]

/-- Where the spellings differ, written names are not repeated just if names that are written alike
are spelled alike. -/
theorem nodup_written_iff_spellsApart (named : names.mapM dialect.nameText = .ok written)
    (distinct : Text.Distinct names) : written.Nodup ↔ dialect.SpellsApart names := by
  rw [nodup_written_iff named]
  constructor
  · intro apart name member other also same
    have symmetric : Std.Symm fun name other : String =>
        dialect.nameText name = dialect.nameText other → Text.sameFolded name other = true :=
      ⟨fun _ _ each back => Text.sameFolded_symm (each back.symm)⟩
    have whole : names.Pairwise fun name other =>
        dialect.nameText name = dialect.nameText other → Text.sameFolded name other = true :=
      apart.imp fun differ same => absurd same differ
    exact whole.forall_of_forall (fun _ _ _ => Text.sameFolded_refl _) member also same
  · intro apart
    refine List.Pairwise.imp_of_mem (fun {name other} member also differ same => ?_) distinct
    rw [apart name member other also same] at differ
    cases differ

/-- No written name is one of the others just if no name is written like one of the others. -/
theorem disjoint_written_iff {others otherWritten : List String}
    (named : names.mapM dialect.nameText = .ok written)
    (othersNamed : others.mapM dialect.nameText = .ok otherWritten) :
    (∀ text ∈ written, text ∉ otherWritten) ↔
      ∀ name ∈ names, ∀ other ∈ others, dialect.nameText name ≠ dialect.nameText other := by
  obtain ⟨pairs, rfl, rfl, each⟩ := exists_pairs_of_forall₂ (mapM_eq_ok_iff.mp named)
  obtain ⟨otherPairs, rfl, rfl, otherEach⟩ :=
    exists_pairs_of_forall₂ (mapM_eq_ok_iff.mp othersNamed)
  rw [List.forall_mem_map, List.forall_mem_map]
  refine forall₂_congr fun pair member => ?_
  rw [List.forall_mem_map, List.mem_map, not_exists]
  refine forall_congr' fun other => not_and.trans (forall_congr' fun also => not_congr ?_)
  rw [each pair member, otherEach other also, Except.ok.injEq, eq_comm]

end Dialect

end OracleSql
