/-
This file reads identifiers back from their text. Hexadecimal digits write the number they are the
digits of; hyphens at their places are taken out again before the digits are read. So the canonical
text of an identifier has the canonical shape, all of it in ASCII, and writes that identifier.
-/

import Mathlib.Algebra.Group.Nat.Defs
import Mathlib.Data.List.Basic
import OracleSql.Uuid

namespace OracleSql

/-! ### Hexadecimal digits -/

namespace Text

theorem length_hexDigits (count number : Nat) : (hexDigits count number).length = count := by
  induction count with
  | zero => rfl
  | succ count inductionHypothesis => rw [hexDigits, List.length_cons, inductionHypothesis]

/-- What holds of the sixteen digits holds of every digit that is written. -/
theorem forall_mem_hexDigits {property : Char → Prop}
    (each : ∀ digit < 16, property (Nat.digitChar digit)) (count number : Nat) :
    ∀ letter ∈ hexDigits count number, property letter := by
  induction count with
  | zero => exact fun letter member => absurd member List.not_mem_nil
  | succ count inductionHypothesis =>
    exact List.forall_mem_cons.mpr ⟨each _ (Nat.mod_lt _ (by decide)), inductionHypothesis⟩

theorem hexValue?_digitChar : ∀ digit < 16, hexValue? (Nat.digitChar digit) = some digit := by
  decide

/-- Digits that are read after others move those to the left. -/
theorem foldlM_hexDigits (count number start : Nat) :
    (hexDigits count number).foldlM
        (fun number digit => (hexValue? digit).map (16 * number + ·)) start =
      some (start * 16 ^ count + number % 16 ^ count) := by
  induction count generalizing start with
  | zero => simp [hexDigits, Nat.mod_one]
  | succ count inductionHypothesis =>
    have digit := hexValue?_digitChar (number >>> (4 * count) % 16) (Nat.mod_lt _ (by decide))
    have place : number >>> (4 * count) = number / 16 ^ count := by
      rw [Nat.shiftRight_eq_div_pow, Nat.pow_mul]
    rw [hexDigits, List.foldlM_cons, digit, Option.map_some, Option.bind_eq_bind, Option.bind_some,
      inductionHypothesis, place, Nat.pow_succ, Nat.mod_mul, Nat.add_mul]
    congr 1
    rw [Nat.mul_comm (number / 16 ^ count % 16), Nat.mul_comm 16 start, Nat.mul_assoc,
      Nat.mul_comm 16]
    omega

/-- The digits of a number write it, as far as they reach. -/
theorem hexNumber?_hexDigits (count number : Nat) :
    hexNumber? (hexDigits count number) = some (number % 16 ^ count) := by
  rw [hexNumber?, foldlM_hexDigits, Nat.zero_mul, Nat.zero_add]

end Text

/-! ### The canonical text -/

namespace Uuid

/-- The digits of an identifier. -/
def digits (uuid : Uuid) : List Char :=
  Text.hexDigits 32 uuid.value.toNat

theorem toList_toText (uuid : Uuid) :
    uuid.toText.toList =
      uuid.digits.take 8 ++ '-' :: (uuid.digits.drop 8).take 4 ++
        '-' :: (uuid.digits.drop 12).take 4 ++ '-' :: (uuid.digits.drop 16).take 4 ++
        '-' :: uuid.digits.drop 20 :=
  String.toList_ofList

theorem length_digits (uuid : Uuid) : uuid.digits.length = 32 :=
  Text.length_hexDigits 32 _

/-- A group of four digits consists of digits of the identifier. -/
theorem group_subset (uuid : Uuid) (skipped : Nat) :
    (uuid.digits.drop skipped).take 4 ⊆ uuid.digits :=
  List.Subset.trans (List.take_subset _ _) (List.drop_subset _ _)

/-- The canonical text has 36 characters. -/
theorem length_toText (uuid : Uuid) : uuid.toText.toList.length = 36 := by
  simp [toList_toText, length_digits]

/-- What holds of the hyphen and of the sixteen digits holds of every character of the text. -/
theorem forall_mem_toText {property : Char → Prop} (hyphen : property '-')
    (each : ∀ digit < 16, property (Nat.digitChar digit)) (uuid : Uuid) :
    ∀ letter ∈ uuid.toText.toList, property letter := by
  have digit : ∀ letter ∈ uuid.digits, property letter := Text.forall_mem_hexDigits each 32 _
  have part : ∀ {letters : List Char}, letters ⊆ uuid.digits → ∀ letter ∈ letters,
      property letter := fun inside letter member => digit letter (inside member)
  rw [toList_toText]
  simp only [List.forall_mem_append, List.forall_mem_cons]
  exact ⟨⟨⟨⟨part (List.take_subset _ _),
    hyphen, part (uuid.group_subset _)⟩,
    hyphen, part (uuid.group_subset _)⟩,
    hyphen, part (uuid.group_subset _)⟩,
    hyphen, part (List.drop_subset _ _)⟩

/-- The canonical text is written in ASCII. -/
theorem isAscii_toText (uuid : Uuid) : ∀ letter ∈ uuid.toText.toList, letter.toNat < 128 :=
  forall_mem_toText (by decide) (by decide) uuid

/-- Whether a character is right at its place. -/
def fitsPlace (letter : Char) (place : Nat) : Bool :=
  if place ∈ hyphenPlaces then letter == '-' else (Text.hexValue? letter).isSome

/-- Digits fit between two places of hyphens. -/
theorem all_fitsPlace {letters : List Char} {start : Nat}
    (hex : ∀ letter ∈ letters, (Text.hexValue? letter).isSome)
    (free : ∀ place ∈ hyphenPlaces, place < start ∨ start + letters.length ≤ place) :
    ((letters.zipIdx start).all fun (letter, place) => fitsPlace letter place) = true := by
  refine List.all_eq_true.mpr fun (letter, place) member => ?_
  obtain ⟨lower, upper, same⟩ := List.mem_zipIdx member
  have between : place ∉ hyphenPlaces := fun inside => by
    have apart := free place inside
    omega
  change fitsPlace letter place = true
  unfold fitsPlace
  rw [if_neg between, same]
  exact hex _ (List.getElem_mem _)

theorem wellFormed_toText (uuid : Uuid) : wellFormed uuid.toText.toList = true := by
  have digit : ∀ letter ∈ uuid.digits, (Text.hexValue? letter).isSome :=
    Text.forall_mem_hexDigits (by decide) 32 _
  have length := uuid.length_digits
  have group : ∀ {letters : List Char} {start : Nat}, letters ⊆ uuid.digits →
      (∀ place ∈ hyphenPlaces, place < start ∨ start + letters.length ≤ place) →
      ((letters.zipIdx start).all fun (letter, place) => fitsPlace letter place) = true :=
    fun inside => all_fitsPlace fun letter member => digit letter (inside member)
  have places : (uuid.toText.toList.zipIdx.all fun (letter, place) => fitsPlace letter place) =
      true := by
    rw [toList_toText]
    simp only [List.zipIdx_append, List.zipIdx_cons, List.all_append, List.all_cons,
      Bool.and_eq_true, List.length_append, List.length_cons, List.length_take, List.length_drop,
      length]
    refine ⟨⟨⟨⟨?_, by decide, ?_⟩, by decide, ?_⟩, by decide, ?_⟩, by decide, ?_⟩
    · exact group (List.take_subset _ _) (by simp [hyphenPlaces, length])
    · exact group (uuid.group_subset _) (by simp [hyphenPlaces, length])
    · exact group (uuid.group_subset _) (by simp [hyphenPlaces, length])
    · exact group (uuid.group_subset _) (by simp [hyphenPlaces, length])
    · exact group (List.drop_subset _ _) (by simp [hyphenPlaces])
  rw [wellFormed, length_toText, beq_self_eq_true, Bool.true_and]
  exact places

/-- Without its hyphens the text is the digits. -/
theorem filter_toText (uuid : Uuid) :
    uuid.toText.toList.filter (· != '-') = uuid.digits := by
  have digit : ∀ letter ∈ uuid.digits, (letter != '-') = true :=
    Text.forall_mem_hexDigits (by decide) 32 _
  have part : ∀ {letters : List Char}, letters ⊆ uuid.digits →
      letters.filter (· != '-') = letters := fun inside =>
    List.filter_eq_self.mpr fun letter member => digit letter (inside member)
  have hyphen : ('-' != '-') = false := by decide
  rw [toList_toText]
  simp only [List.filter_append, List.filter_cons, hyphen, Bool.false_eq_true, if_false,
    part (List.take_subset _ _), part (List.drop_subset _ _),
    part (uuid.group_subset _)]
  rw [← List.drop_drop (i := 4) (j := 16), List.append_assoc, List.take_append_drop,
    ← List.drop_drop (i := 4) (j := 12), List.append_assoc, List.take_append_drop,
    ← List.drop_drop (i := 4) (j := 8), List.append_assoc, List.take_append_drop,
    List.take_append_drop]

/-- The canonical text of an identifier is read back as it. -/
theorem ofText?_toText (uuid : Uuid) : ofText? uuid.toText = some uuid := by
  have bound : uuid.value.toNat < 16 ^ 32 := uuid.value.isLt
  rw [ofText?, if_pos uuid.wellFormed_toText, filter_toText, digits, Text.hexNumber?_hexDigits,
    Nat.mod_eq_of_lt bound, Option.map_some, BitVec.ofNat_toNat, BitVec.setWidth_eq]

end Uuid

end OracleSql
