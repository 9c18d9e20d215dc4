/-
This file turns the encoders around: from a stored value it says what was read from the given one
and how the column changed it. Where an encoder takes several kinds of values it takes them as the
reader of the same type does, so the inversions are stated with the readers. A whole number is
stored in one of two forms, and `Writes` says which number a form writes.
-/

import OracleSql.Decode
import OracleSql.Encode
import OracleSql.Proofs.Number.Decimal
import OracleSql.Proofs.Outcome
import OracleSql.Proofs.Uuid

namespace OracleSql

/-! ### Whole numbers -/

/-- The value is a whole number, of 64 bits or a decimal without a fraction. -/
inductive Value.Writes : Value → Int → Prop
  | int (number : Int64) : Writes (.int number) number.toInt
  | decimal {number : Decimal} (whole : number.isWhole = true) :
    Writes (.decimal number) number.toInt

/-- A value writes one whole number. -/
theorem Value.Writes.unique {value : Value} {first second : Int} (writes : value.Writes first)
    (other : value.Writes second) : first = second := by
  cases writes <;> cases other <;> rfl

/-- A decimal made from a whole number is whole, and the number is its whole part. -/
theorem Decimal.isWhole_of_ofInt? {number : Int} {decimal : Decimal}
    (made : Decimal.ofInt? number = some decimal) :
    decimal.isWhole = true ∧ decimal.toInt = number := by
  obtain ⟨sign, coefficient, scale⟩ := Decimal.make?_eq_some made
  have whole : decimal.isWhole = true := by
    rw [Decimal.isWhole, scale]
    exact beq_iff_eq.mpr (Nat.mod_one _)
  have values : ((decimal.toInt : ℤ) : ℚ) = number := by
    rw [← Decimal.value_of_isWhole whole, Decimal.value_of_ofInt? made]
  exact ⟨whole, by exact_mod_cast values⟩

theorem Value.writes_of_ofInt? {number : Int} {decimal : Decimal}
    (made : Decimal.ofInt? number = some decimal) : (Value.decimal decimal).Writes number := by
  obtain ⟨whole, same⟩ := Decimal.isWhole_of_ofInt? made
  exact same ▸ .decimal whole

/-- A number of 64 bits with a sign is written as it is. -/
theorem Value.writes_int {number : Int} (lower : Int64.minValue.toInt ≤ number)
    (upper : number ≤ Int64.maxValue.toInt) : (Value.int (Int64.ofInt number)).Writes number := by
  have same : (Int64.ofInt number).toInt = number := by
    refine Int64.toInt_ofInt_of_le lower ?_
    change number ≤ 9223372036854775807 at upper
    omega
  have writes := Value.Writes.int (Int64.ofInt number)
  rwa [same] at writes

namespace Column

variable {column : Column} {value stored : Value}

/-- The whole number lies in the range of the column, if its type has one. -/
def InRange (column : Column) (number : Int) : Prop :=
  ∀ range ∈ column.fieldType.range?, range.1 ≤ number ∧ number ≤ range.2

/-- A whole number is stored as itself, in the range of its column. -/
theorem integer_eq_ok {number : Int} (encoded : column.integer number = .ok stored) :
    column.InRange number ∧ stored.Writes number := by
  obtain ⟨within, fits⟩ := guarded_eq_ok.mp encoded
  constructor
  · intro range member
    rw [Option.mem_def.mp member] at within
    simp only [Bool.or_eq_true, decide_eq_true_eq] at within
    omega
  · split at fits
    next narrow =>
      cases fits
      exact Value.writes_int narrow.1 narrow.2
    next =>
      split at fits
      next decimal made =>
        cases fits
        exact Value.writes_of_ofInt? made
      next => cases fits

/-- A column of whole numbers stores the number that it is given. -/
theorem encodeInteger_eq_ok (encoded : column.encodeInteger value = .ok stored) :
    ∃ number, value.Writes number ∧ column.InRange number ∧ stored.Writes number := by
  cases value with
  | int number =>
    obtain ⟨inside, writes⟩ := integer_eq_ok encoded
    exact ⟨number.toInt, .int number, inside, writes⟩
  | decimal number =>
    simp only [encodeInteger] at encoded
    split at encoded
    next whole =>
      obtain ⟨inside, writes⟩ := integer_eq_ok encoded
      exact ⟨number.toInt, .decimal whole, inside, writes⟩
    next => cases encoded
  | _ => cases encoded

/-! ### Binary numbers and decimals -/

/-- A column of binary numbers stores what it reads; one of 32 bits none that is too large. -/
theorem encodeFloat_eq_ok (encoded : column.encodeFloat value = .ok stored) :
    ∃ number, value.readFloat = .ok number ∧ stored = .float number ∧
      (column.fieldType = .float32 → number.isFinite = true →
        number.magnitude ≤ greatestSingle) := by
  have fits : ∀ {number : Binary64},
      (if column.fieldType = .float32 ∧ number.isFinite ∧ greatestSingle < number.magnitude then
        Except.error (DataFault.floatRange number) else .ok (.float number)) = .ok stored →
      stored = .float number ∧ (column.fieldType = .float32 → number.isFinite = true →
        number.magnitude ≤ greatestSingle) := by
    intro number fit
    obtain ⟨small, same⟩ := guarded_eq_ok.mp fit
    exact ⟨(Except.ok.inj same).symm,
      fun single finite => Nat.le_of_not_lt fun large => small ⟨single, finite, large⟩⟩
  cases value with
  | float number => exact ⟨number, rfl, fits encoded⟩
  | int number => exact ⟨_, rfl, fits encoded⟩
  | decimal number => exact ⟨_, rfl, fits encoded⟩
  | _ => cases encoded

/-- A column of decimals fits what it reads. -/
theorem encodeDecimal_eq_ok (encoded : column.encodeDecimal value = .ok stored) :
    ∃ number, value.readDecimal = .ok number ∧ column.fitDecimal number = .ok stored := by
  cases value with
  | decimal number => exact ⟨number, rfl, encoded⟩
  | int number => exact ⟨_, rfl, encoded⟩
  | float number =>
    simp only [encodeDecimal] at encoded
    split at encoded
    next decimal exact =>
      refine ⟨decimal, ?_, encoded⟩
      simp only [Value.readDecimal, exact]
    next => cases encoded
  | _ => cases encoded

/-- Rounding to a scale, which may be negative, leaves no more places, and takes none away that
were there. -/
theorem roundToScale_eq_ok {number rounded : Decimal} {precision : Nat} {scale : Int}
    (made : roundToScale number precision scale = .ok rounded) :
    HasPlaces scale rounded.value ∧
      (HasPlaces scale number.value → rounded.value = number.value) := by
  simp only [roundToScale] at made
  split at made
  next positive =>
    cases made
    have same : (scale.toNat : Int) = scale := Int.toNat_of_nonneg positive
    exact ⟨same ▸ Decimal.roundedTo_hasPlaces _ number,
      fun has => Decimal.value_roundedTo (same.symm ▸ has)⟩
  next negative =>
    obtain ⟨-, rounds⟩ := guarded_eq_ok.mp made
    split at rounds
    next result power =>
      cases rounds
      have same : -(scale.natAbs : Int) = scale := by omega
      exact ⟨same ▸ Decimal.roundedToPower?_hasPlaces power,
        fun has => Decimal.value_of_roundedToPower? (same.symm ▸ has) power⟩
    next => cases rounds

/-- A column of decimals without a precision stores every decimal as it is; one with a precision
stores numerals of its precision and scale, and those unchanged. -/
theorem fitDecimal_eq_ok {number : Decimal} (encoded : column.fitDecimal number = .ok stored) :
    ∃ kept, stored = .decimal kept ∧
      (∀ precision ∈ column.precision,
        IsNumeral precision (column.scale.getD 0) kept.value) ∧
      ((∀ precision ∈ column.precision, HasPlaces (column.scale.getD 0) number.value) →
        kept.value = number.value) := by
  simp only [fitDecimal] at encoded
  split at encoded
  next missing =>
    cases encoded
    refine ⟨number, rfl, ?_, fun _ => rfl⟩
    rw [missing]
    exact fun _ impossible => nomatch impossible
  next precision given =>
    split at encoded
    · cases encoded
    next rounded made =>
      obtain ⟨few, same⟩ := guarded_eq_ok.mp encoded
      obtain ⟨places, kept⟩ := roundToScale_eq_ok made
      have digits : rounded.wholeDigits ≤
          ((precision : Int) - column.scale.getD 0).toNat := by omega
      have small := Decimal.abs_value_lt digits
      rw [← zpow_natCast, Int.toNat_of_nonneg (by omega)] at small
      rw [given]
      refine ⟨rounded, (Except.ok.inj same).symm, ?_, fun has => kept (has precision rfl)⟩
      rintro _ ⟨⟩
      exact places.isNumeral small

/-! ### Byte strings, identifiers and documents -/

/-- A column of byte strings stores one as it is, none longer than its size. -/
theorem encodeBytes_eq_ok (encoded : column.encodeBytes value = .ok stored) :
    ∃ content, value = .bytes content ∧ stored = .bytes content ∧
      ∀ limit ∈ column.size, content.length ≤ limit := by
  cases value with
  | bytes content =>
    simp only [encodeBytes] at encoded
    split at encoded
    next limit sized =>
      obtain ⟨short, same⟩ := guarded_eq_ok.mp encoded
      refine ⟨content, rfl, (Except.ok.inj same).symm, ?_⟩
      rw [sized]
      rintro _ ⟨⟩
      exact Nat.le_of_not_lt short
    next unsized =>
      cases encoded
      refine ⟨content, rfl, rfl, ?_⟩
      rw [unsized]
      exact fun _ impossible => nomatch impossible
  | _ => cases encoded

/-- A column of identifiers stores the canonical text of the one it reads. -/
theorem encodeUuid_eq_ok (encoded : column.encodeUuid value = .ok stored) :
    ∃ identifier, value.readUuid = .ok identifier ∧ stored = .text identifier.toText := by
  cases value with
  | uuid identifier =>
    cases encoded
    exact ⟨identifier, rfl, rfl⟩
  | text content =>
    simp only [encodeUuid] at encoded
    split at encoded
    next identifier reads =>
      cases encoded
      refine ⟨identifier, ?_, rfl⟩
      simp only [Value.readUuid, Uuid.parse, reads]
    next => cases encoded
  | _ => cases encoded

/-- A column of documents stores a text that is one. -/
theorem encodeJson_eq_ok (encoded : column.encodeJson value = .ok stored) :
    ∃ content document, value = .text content ∧ stored = .text content ∧
      Json.parse? content = some document := by
  cases value with
  | text content =>
    simp only [encodeJson] at encoded
    split at encoded
    next parses =>
      cases encoded
      obtain ⟨document, reads⟩ := Option.isSome_iff_exists.mp parses
      exact ⟨content, document, rfl, rfl, reads⟩
    next => cases encoded
  | _ => cases encoded

end Column

namespace Dialect

variable {dialect : Dialect} {column : Column} {value stored : Value}

/-! ### Flags and texts -/

/-- A column of flags stores the flag that it reads. -/
theorem encodeBool_eq_ok (encoded : dialect.encodeBool column value = .ok stored) :
    ∃ flag, value.readBool = .ok flag ∧ stored = dialect.flagValue flag := by
  cases value with
  | bool flag =>
    cases encoded
    exact ⟨flag, rfl, rfl⟩
  | int number =>
    simp only [encodeBool] at encoded
    split at encoded
    next zero =>
      cases encoded
      exact ⟨false, if_pos zero, rfl⟩
    next some =>
      split at encoded
      next one =>
        cases encoded
        exact ⟨true, (if_neg some).trans (if_pos one), rfl⟩
      next => cases encoded
  | _ => cases encoded

/-- The text is the content, or its start where longer ones are cut. -/
def Cuts (dialect : Dialect) (column : Column) (content kept : String) : Prop :=
  kept = content ∨ dialect.overflow = .truncate ∧ ∃ limit, column.size = some limit ∧
    limit < content.toList.length ∧ kept.toList = content.toList.take limit

/-- A text is stored whole or cut, and is then no longer than the column. -/
theorem fitText_eq_ok {content : String} (encoded : dialect.fitText column content = .ok stored) :
    ∃ kept, stored = .text kept ∧ dialect.Cuts column content kept ∧
      ∀ limit ∈ column.size, kept.toList.length ≤ limit := by
  simp only [fitText] at encoded
  split at encoded
  next unsized =>
    cases encoded
    refine ⟨content, rfl, .inl rfl, ?_⟩
    rw [unsized]
    exact fun _ impossible => nomatch impossible
  next limit sized =>
    split at encoded
    next short =>
      cases encoded
      refine ⟨content, rfl, .inl rfl, ?_⟩
      rw [sized]
      rintro _ ⟨⟩
      exact short
    next long =>
      split at encoded
      · cases encoded
      next cut =>
        cases encoded
        refine ⟨_, rfl, .inr ⟨cut, limit, sized, Nat.lt_of_not_le long, String.toList_ofList⟩, ?_⟩
        rw [sized]
        rintro _ ⟨⟩
        rw [String.toList_ofList]
        exact List.length_take_le _ _

/-- A column of texts stores a text, or the canonical text of an identifier. -/
theorem encodeText_eq_ok (encoded : dialect.encodeText column value = .ok stored) :
    ∃ content kept, (∀ given, value = .text given → given = content) ∧ stored = .text kept ∧
      dialect.Cuts column content kept ∧ ∀ limit ∈ column.size, kept.toList.length ≤ limit := by
  cases value with
  | text content =>
    obtain ⟨kept, parts⟩ := fitText_eq_ok encoded
    exact ⟨content, kept, fun _ same => (Value.text.inj same).symm, parts⟩
  | uuid identifier =>
    obtain ⟨kept, parts⟩ := fitText_eq_ok encoded
    exact ⟨identifier.toText, kept, (fun _ impossible => nomatch impossible), parts⟩
  | _ => cases encoded

end Dialect

end OracleSql
