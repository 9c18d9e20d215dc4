/-
This file compares the names of markers. Names that are made for markers are a fixed start with a
number behind it, and they are different names, also without regard to case, if their numbers are;
a name that is not reserved for them is none of them in any case.
-/

import OracleSql.Proofs.Markers.Assembled
import OracleSql.Template

namespace OracleSql

/-! ### Comparison without case -/

namespace Text

variable {left right : String}

theorem sameFolded_iff : sameFolded left right = true ↔ foldUpper left = foldUpper right := by
  rw [sameFolded, beq_iff_eq]

theorem sameFolded_refl (text : String) : sameFolded text text = true :=
  sameFolded_iff.mpr rfl

theorem sameFolded_symm (same : sameFolded left right = true) : sameFolded right left = true :=
  sameFolded_iff.mpr (sameFolded_iff.mp same).symm

theorem sameFolded_comm (left right : String) : sameFolded left right = sameFolded right left :=
  Bool.eq_iff_iff.mpr ⟨sameFolded_symm, sameFolded_symm⟩

/-- Texts that are the same without regard to case are compared alike with any other. -/
theorem sameFolded_congr (same : sameFolded left right = true) (other : String) :
    sameFolded other left = sameFolded other right := by
  rw [sameFolded, sameFolded, sameFolded_iff.mp same]

/-- Only letters of ASCII have an upper case here. -/
theorem toUpper_of_large {letter : Char} (large : ¬letter.toNat < 0x80) :
    letter.toUpper = letter := by
  unfold Char.toUpper
  split
  · rename_i lower
    exact absurd (Nat.lt_of_le_of_lt lower.2 (by decide)) large
  · rfl

theorem toLower_toUpper (letter : Char) : letter.toUpper.toLower = letter.toLower := by
  by_cases small : letter.toNat < 0x80
  · have each : ∀ code < 0x80, (Char.ofNat code).toUpper.toLower = (Char.ofNat code).toLower := by
      decide
    have same := each _ small
    rwa [Char.ofNat_toNat] at same
  · rw [toUpper_of_large small]

theorem foldLower_eq_of_sameFolded (same : sameFolded left right = true) :
    foldLower left = foldLower right := by
  have upper : left.toList.map Char.toUpper = right.toList.map Char.toUpper :=
    String.ofList_injective (sameFolded_iff.mp same)
  have lower := congrArg (List.map Char.toLower) upper
  simp only [List.map_map, Function.comp_def, toLower_toUpper] at lower
  rw [foldLower, foldLower, lower]

end Text

/-! ### Reserved names -/

/-- The names that are kept for markers: `p` or `ret` in any case with digits behind. -/
def IsReserved (name : String) : Prop :=
  ∃ start digits, name.toList = start ++ digits ∧
    (start.map Char.toLower = ['p'] ∨ start.map Char.toLower = ['r', 'e', 't']) ∧
    digits ≠ [] ∧ ∀ digit ∈ digits, digit.isDigit = true

theorem toLower_of_isDigit {letter : Char} (digit : letter.isDigit = true) :
    letter.toLower = letter := by
  simp only [Char.isDigit, Bool.and_eq_true, decide_eq_true_eq] at digit
  unfold Char.toLower
  split
  · grind
  · rfl

theorem toUpper_of_isDigit {letter : Char} (digit : letter.isDigit = true) :
    letter.toUpper = letter := by
  simp only [Char.isDigit, Bool.and_eq_true, decide_eq_true_eq] at digit
  unfold Char.toUpper
  split
  · grind
  · rfl

theorem isDigit_toLower (letter : Char) : letter.toLower.isDigit = letter.isDigit := by
  unfold Char.toLower Char.isDigit
  split
  · grind
  · rfl

theorem isNumberedName_iff {start name : String} :
    isNumberedName start name = true ↔
      ∃ digits, name.toList = start.toList ++ digits ∧ digits ≠ [] ∧
        ∀ digit ∈ digits, digit.isDigit = true := by
  rw [isNumberedName, Bool.and_eq_true, Bool.and_eq_true, List.isPrefixOf_iff_prefix,
    Bool.not_eq_true', List.isEmpty_eq_false_iff, List.all_eq_true, ← String.length_toList]
  constructor
  · rintro ⟨⟨⟨digits, split⟩, some⟩, each⟩
    rw [← split, List.drop_left] at some each
    exact ⟨digits, split.symm, some, each⟩
  · rintro ⟨digits, split, some, each⟩
    rw [split, List.drop_left]
    exact ⟨⟨List.prefix_append _ _, some⟩, each⟩

/-- The made names are the reserved ones. -/
theorem isGeneratedName_iff {name : String} : isGeneratedName name = true ↔ IsReserved name := by
  have folded (start : String) : isNumberedName start (Text.foldLower name) = true ↔
      ∃ front digits, name.toList = front ++ digits ∧ front.map Char.toLower = start.toList ∧
        digits ≠ [] ∧ ∀ digit ∈ digits, digit.isDigit = true := by
    rw [isNumberedName_iff, Text.foldLower, String.toList_ofList]
    constructor
    · rintro ⟨digits, split, some, each⟩
      obtain ⟨front, back, whole, lower, rfl⟩ := List.map_eq_append_iff.mp split
      refine ⟨front, back, whole, lower, fun none => some (by rw [none]; rfl),
        fun digit member => ?_⟩
      rw [← isDigit_toLower]
      exact each _ (List.mem_map_of_mem member)
    · rintro ⟨front, digits, whole, lower, some, each⟩
      refine ⟨digits, ?_, some, each⟩
      have kept : digits.map Char.toLower = digits :=
        (List.map_congr_left fun digit member => toLower_of_isDigit (each digit member)).trans
          (List.map_id _)
      rw [whole, List.map_append, lower, kept]
  rw [isGeneratedName, Bool.or_eq_true, folded, folded]
  constructor
  · rintro (⟨front, digits, whole, lower, rest⟩ | ⟨front, digits, whole, lower, rest⟩)
    · exact ⟨front, digits, whole, Or.inl lower, rest⟩
    · exact ⟨front, digits, whole, Or.inr lower, rest⟩
  · rintro ⟨front, digits, whole, lower | lower, rest⟩
    · exact Or.inl ⟨front, digits, whole, lower, rest⟩
    · exact Or.inr ⟨front, digits, whole, lower, rest⟩

/-- Whether a name is reserved does not depend on its case. -/
theorem isGeneratedName_congr {left right : String} (same : Text.sameFolded left right = true) :
    isGeneratedName left = isGeneratedName right := by
  rw [isGeneratedName, isGeneratedName, Text.foldLower_eq_of_sameFolded same]

/-! ### Made names -/

theorem isDigit_of_mem_toString {number : Nat} {letter : Char}
    (member : letter ∈ (toString number).toList) : letter.isDigit = true := by
  have digits : (toString number).toList = Nat.toDigits 10 number := Nat.toList_repr
  rw [digits] at member
  exact Nat.isDigit_of_mem_toDigits (by decide) (by decide) member

/-- A start with a number behind it, put into upper case. -/
theorem foldUpper_made (start : String) (number : Nat) :
    (Text.foldUpper (start ++ toString number)).toList =
      start.toList.map Char.toUpper ++ (toString number).toList := by
  have kept : (toString number).toList.map Char.toUpper = (toString number).toList :=
    (List.map_congr_left fun letter member =>
      toUpper_of_isDigit (isDigit_of_mem_toString member)).trans (List.map_id _)
  rw [Text.foldUpper, String.toList_ofList, String.toList_append, List.map_append, kept]

/-- Names with the same start are the same only if their numbers are. -/
theorem number_eq_of_sameFolded {start : String} {first second : Nat}
    (same : Text.sameFolded (start ++ toString first) (start ++ toString second) = true) :
    first = second := by
  have letters := congrArg String.toList (Text.sameFolded_iff.mp same)
  rw [foldUpper_made, foldUpper_made] at letters
  have digits : Nat.toDigits 10 first = Nat.toDigits 10 second :=
    (Nat.toList_repr.symm.trans (List.append_cancel_left letters)).trans Nat.toList_repr
  rw [← @Nat.ofDigitChars_ten_toDigits first, digits, Nat.ofDigitChars_ten_toDigits]

/-- A name for a value is none for a returned column. -/
theorem not_sameFolded_of_starts (first second : Nat) :
    Text.sameFolded ("p" ++ toString first) ("ret" ++ toString second) = false := by
  rw [Bool.eq_false_iff]
  intro same
  have letters := congrArg String.toList (Text.sameFolded_iff.mp same)
  rw [foldUpper_made, foldUpper_made] at letters
  exact absurd (List.cons.inj letters).1 (by decide)

theorem isGeneratedName_value (number : Nat) :
    isGeneratedName ("p" ++ toString number) = true :=
  isGeneratedName_iff.mpr ⟨['p'], (toString number).toList, String.toList_append, Or.inl rfl,
    (MarkerStyle.isName_toString number).1, fun _ => isDigit_of_mem_toString⟩

theorem isGeneratedName_out (number : Nat) :
    isGeneratedName ("ret" ++ toString number) = true :=
  isGeneratedName_iff.mpr ⟨['r', 'e', 't'], (toString number).toList, String.toList_append,
    Or.inr rfl, (MarkerStyle.isName_toString number).1, fun _ => isDigit_of_mem_toString⟩

/-- A name that is not reserved is no made one. -/
theorem not_sameFolded_of_isGeneratedName {name made : String}
    (free : isGeneratedName name = false) (reserved : isGeneratedName made = true) :
    Text.sameFolded name made = false := by
  rw [Bool.eq_false_iff]
  intro same
  rw [isGeneratedName_congr same, reserved] at free
  cases free

end OracleSql
