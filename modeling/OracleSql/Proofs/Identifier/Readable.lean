/-
This file says which names can be read at all, and which of them the database keeps an object under.
Both are asked of the name alone and not of the dialect: cases and limits change how a name is
written, but never whether. The case of letters in a name makes no difference either, since the
characters that a name is read by are no letters.
-/

import OracleSql.Migration.Definition
import OracleSql.Proofs.Identifier.Segments
import OracleSql.Proofs.Styles.Names

namespace OracleSql

/-! ### Outcomes that are results -/

section

variable {ε α β : Type}

theorem exists_bind_eq_ok {outcome : Except ε α} {next : α → Except ε β} :
    (∃ result, outcome >>= next = .ok result) ↔
      ∃ first, outcome = .ok first ∧ ∃ result, next first = .ok result := by
  simp only [bind_eq_ok, exists_comm (α := β), exists_and_left]

theorem exists_map_eq_ok {outcome : Except ε α} {change : α → β} :
    (∃ result, outcome.map change = .ok result) ↔ ∃ result, outcome = .ok result := by
  cases outcome <;> simp [Except.map]

theorem exists_mapM_eq_ok_iff {items : List α} {step : α → Except ε β} :
    (∃ results, items.mapM step = .ok results) ↔
      ∀ item ∈ items, ∃ result, step item = .ok result := by
  constructor
  · rintro ⟨results, built⟩ item member
    obtain ⟨result, _, own⟩ := exists_of_forall₂ (mapM_eq_ok_iff.mp built) member
    exact ⟨result, own⟩
  · exact exists_mapM_eq_ok

end

/-! ### Characters that are no letters -/

/-- Characters before the letters stand in the upper case of nothing but themselves. -/
theorem Text.toUpper_eq_iff {letter mark : Char} (low : mark.toNat < 65) :
    letter.toUpper = mark ↔ letter = mark := by
  have each : ∀ code < 0x80, ((Char.ofNat code).toUpper.toNat < 65 ∨ code < 65) →
      (Char.ofNat code).toUpper = Char.ofNat code := by decide
  have kept (small : letter.toUpper.toNat < 65 ∨ letter.toNat < 65) : letter.toUpper = letter := by
    by_cases ascii : letter.toNat < 0x80
    · have same := each letter.toNat ascii
      rw [Char.ofNat_toNat] at same
      exact same small
    · unfold Char.toUpper
      split
      · rename_i lower
        exact absurd (Nat.lt_of_le_of_lt lower.2 (by decide)) ascii
      · rfl
  constructor
  · rintro rfl
    exact (kept (.inl low)).symm
  · rintro rfl
    exact kept (.inr low)

namespace Identifier

theorem isNameChar_toUpper (letter : Char) : isNameChar letter.toUpper = isNameChar letter := by
  have dot : letter.toUpper = '.' ↔ letter = '.' := Text.toUpper_eq_iff (by decide)
  have quote : letter.toUpper = '"' ↔ letter = '"' := Text.toUpper_eq_iff (by decide)
  rw [Bool.eq_iff_iff]
  simp [isNameChar, dot, quote]

/-! ### Segments of a name in upper case -/

/-- Where the stars are among the segments that are read. -/
def stars (outcome : Except Fault (List IdentifierPart)) : Option (List Bool) :=
  outcome.toOption.map fun parts => parts.map fun part => part == .star

theorem stars_cons (part : IdentifierPart) (outcome : Except Fault (List IdentifierPart)) :
    stars (outcome.map (part :: ·)) = (stars outcome).map ((part == .star) :: ·) := by
  cases outcome <;> rfl

theorem bareOrStar_toUpper (letters : List Char) :
    (bareOrStar (letters.map Char.toUpper) == .star) = (bareOrStar letters == .star) := by
  have only : letters.map Char.toUpper = ['*'] ↔ letters = ['*'] := by
    match letters with
    | [] => simp
    | [letter] => simp [Text.toUpper_eq_iff (show '*'.toNat < 65 by decide)]
    | _ :: _ :: _ => simp
  unfold bareOrStar
  simp only [only]
  split <;> rfl

/-- Where the stars are, given the first segment and what stands behind it. -/
def starsBehind (text : String) (part : IdentifierPart) : List Char → Option (List Bool)
  | [] => some [part == .star]
  | mark :: rest =>
    if mark = '.' ∧ rest ≠ [] then (stars (readParts text rest)).map ((part == .star) :: ·)
    else none

theorem stars_readParts_quote (text : String) (letters : List Char) :
    stars (readParts text ('"' :: letters)) =
      if letters.dropWhile (· != '"') = [] ∨ letters.takeWhile (· != '"') = [] then none
      else starsBehind text (.quoted (String.ofList (letters.takeWhile (· != '"'))))
        (letters.dropWhile (· != '"')).tail := by
  rw [readParts]
  generalize letters.takeWhile (· != '"') = name
  rcases letters.dropWhile (· != '"') with _ | ⟨closing, _ | ⟨mark, rest⟩⟩
  · rfl
  · cases name <;> rfl
  · cases name with
    | nil => rfl
    | cons =>
      by_cases dot : mark = '.'
      · subst dot
        cases rest with
        | nil => rfl
        | cons => exact stars_cons _ _
      · simp [starsBehind, dot, stars, Except.toOption]

theorem stars_readParts_bare (text : String) {letters : List Char}
    (bare : letters.head? ≠ some '"') :
    stars (readParts text letters) =
      if letters.takeWhile isNameChar = [] then none
      else starsBehind text (bareOrStar (letters.takeWhile isNameChar))
        (letters.dropWhile isNameChar) := by
  unfold readParts
  split
  · exact absurd rfl bare
  · generalize letters.takeWhile isNameChar = name
    rcases letters.dropWhile isNameChar with _ | ⟨mark, rest⟩
    · cases name <;> rfl
    · by_cases dot : mark = '.'
      · subst dot
        cases name with
        | nil => rfl
        | cons =>
          cases rest with
          | nil => rfl
          | cons => exact stars_cons _ _
      · simp [starsBehind, dot, stars, Except.toOption]

/-- What stands behind the first segment may be in upper case, if that is so for a shorter name. -/
theorem starsBehind_toUpper {text other : String} {part another : IdentifierPart}
    (same : (another == .star) = (part == .star)) (letters : List Char)
    (shorter : ∀ mark rest, letters = mark :: rest →
      stars (readParts other (rest.map Char.toUpper)) = stars (readParts text rest)) :
    starsBehind other another (letters.map Char.toUpper) = starsBehind text part letters := by
  cases letters with
  | nil => exact congrArg (fun flag => some [flag]) same
  | cons mark rest =>
    have dot : mark.toUpper = '.' ↔ mark = '.' := Text.toUpper_eq_iff (by decide)
    rw [List.map_cons, starsBehind, starsBehind, shorter mark rest rfl, same]
    simp only [dot, ne_eq, List.map_eq_nil_iff]

/-- In upper case a name is cut at the same places, and has its stars where it had them. -/
theorem stars_readParts_toUpper (text other : String) (letters : List Char) :
    stars (readParts other (letters.map Char.toUpper)) = stars (readParts text letters) := by
  induction size : letters.length using Nat.strongRecOn generalizing letters with
  | ind count inductionHypothesis =>
    have mark (letter : Char) : letter.toUpper = '"' ↔ letter = '"' :=
      Text.toUpper_eq_iff (by decide)
    by_cases quoted : letters.head? = some '"'
    · obtain ⟨rest, rfl⟩ := List.head?_eq_some_iff.mp quoted
      have same : (fun letter : Char => letter != '"') ∘ Char.toUpper = (· != '"') := by
        funext letter
        rw [Bool.eq_iff_iff]
        simp [mark]
      have bound := length_dropWhile_le (· != '"') rest
      rw [List.map_cons, (mark '"').mpr rfl, stars_readParts_quote, stars_readParts_quote,
        List.takeWhile_map, List.dropWhile_map, same, ← List.map_tail]
      simp only [List.map_eq_nil_iff]
      refine if_congr Iff.rfl rfl (starsBehind_toUpper rfl _ fun next further behind => ?_)
      have shorter := congrArg List.length behind
      simp only [List.length_tail, List.length_cons] at shorter size
      exact inductionHypothesis _ (by omega) further rfl
    · have other : (letters.map Char.toUpper).head? ≠ some '"' := by
        rw [List.head?_map, ne_eq, Option.map_eq_some_iff]
        rintro ⟨letter, first, same⟩
        exact quoted (first.trans (congrArg some ((mark letter).mp same)))
      have same : isNameChar ∘ Char.toUpper = isNameChar := funext isNameChar_toUpper
      have bound := length_dropWhile_le isNameChar letters
      rw [stars_readParts_bare _ other, stars_readParts_bare _ quoted, List.takeWhile_map,
        List.dropWhile_map, same]
      simp only [List.map_eq_nil_iff]
      refine if_congr Iff.rfl rfl
        (starsBehind_toUpper (bareOrStar_toUpper _) _ fun next further behind => ?_)
      have shorter := congrArg List.length behind
      simp only [List.length_cons] at shorter
      exact inductionHypothesis _ (by omega) further rfl

/-! ### Readable names -/

/-- A name that is cut into segments without a fault. -/
def Readable (name : String) : Prop :=
  ∃ identifier, parse name = .ok identifier

/-- A name that is read, and does not end in a star. -/
def Storable (name : String) : Prop :=
  ∃ identifier part, parse name = .ok identifier ∧ identifier.parts.getLast? = some part ∧
    part ≠ .star

instance {name : String} : Decidable (Readable name) :=
  decidable_of_iff ((parse name).toOption.isSome = true) (by
    unfold Readable
    cases parse name <;> simp [Except.toOption])

instance {name : String} : Decidable (Storable name) :=
  decidable_of_iff ((parse name).toOption.any fun identifier =>
      identifier.parts.getLast?.any (· != .star)) (by
    unfold Storable
    cases parse name <;> simp [Except.toOption, Option.any_eq_true])

theorem Storable.readable {name : String} (storable : Storable name) : Readable name :=
  storable.imp fun _ found => found.choose_spec.1

/-- A name can be read where it has characters, none of them the null character, and a star only in
its last segment. -/
theorem readable_iff {name : String} :
    Readable name ↔ name.toList ≠ [] ∧ '\x00' ∉ name.toList ∧
      ∃ flags, stars (readParts name name.toList) = some flags ∧ true ∉ flags.dropLast := by
  have inner (parts : List IdentifierPart) :
      hasInnerStar parts = (parts.map fun part => part == .star).dropLast.contains true := by
    rw [hasInnerStar, ← List.map_dropLast]
    induction parts.dropLast with
    | nil => rfl
    | cons part rest inductionHypothesis =>
      rw [List.map_cons, List.contains_cons, List.contains_cons, inductionHypothesis]
      cases part <;> rfl
  unfold Readable parse
  by_cases empty : name.toList = []
  · simp [String.toList_eq_nil_iff.mp empty]
  have written : name.isEmpty = false := by
    rw [← Bool.not_eq_true, String.isEmpty_iff, ← String.toList_eq_nil_iff]
    exact empty
  rw [written, if_neg Bool.false_ne_true]
  by_cases null : '\x00' ∈ name.toList
  · simp [null]
  cases readParts name name.toList with
  | error fault => simp [null, stars, Except.toOption]
  | ok parts =>
    by_cases star : true ∈ (parts.map fun part => part == .star).dropLast
    · simp [null, stars, Except.toOption, inner, star]
    · simp [null, empty, stars, Except.toOption, inner, star]

/-- The case of its letters makes no difference to whether a name can be read. -/
theorem readable_congr {name other : String} (same : Text.sameFolded name other = true) :
    Readable name ↔ Readable other := by
  have upper (name : String) : Readable name ↔ Readable (Text.foldUpper name) := by
    have null : '\x00' ∈ name.toList.map Char.toUpper ↔ '\x00' ∈ name.toList := by
      simp [Text.toUpper_eq_iff (show '\x00'.toNat < 65 by decide)]
    rw [readable_iff, readable_iff, Text.foldUpper, String.toList_ofList, null,
      stars_readParts_toUpper name, ne_eq, ne_eq, List.map_eq_nil_iff]
  rw [upper name, upper other, Text.sameFolded_iff.mp same]

end Identifier

/-! ### Texts and stored names -/

namespace Dialect

open Identifier (Readable Storable)

/-- A name has a text where it can be read. -/
theorem exists_nameText_iff {dialect : Dialect} {name : String} :
    (∃ text, dialect.nameText name = .ok text) ↔ Readable name := by
  unfold nameText quote Readable
  cases Identifier.parse name <;> simp [Error.ofName, Except.mapError, Except.map]

/-- A name has a stored spelling where its last segment has one. -/
theorem exists_stored_iff (dialect : Dialect) {name : String} :
    (∃ kept, dialect.stored name = .ok kept) ↔ Storable name := by
  unfold stored storedName Storable
  cases Identifier.parse name with
  | error fault => simp [Error.ofName, Except.mapError]
  | ok identifier =>
    cases last : identifier.parts.getLast? with
    | none => simp [Error.ofName, Except.mapError, Identifier.storedName?, last]
    | some part =>
      cases part <;> simp [Error.ofName, Except.mapError, Identifier.storedName?, last, stored?]

/-- Names have a text together where each can be read. -/
theorem exists_nameTexts_iff {dialect : Dialect} {names : List String} :
    (∃ text, dialect.nameTexts names = .ok text) ↔ ∀ name ∈ names, Readable name := by
  unfold nameTexts
  rw [exists_map_eq_ok, exists_mapM_eq_ok_iff]
  simp only [exists_nameText_iff]

end Dialect

end OracleSql
