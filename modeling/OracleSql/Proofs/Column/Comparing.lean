/-
This file shows that the comparison of a live column with its declaration is exact. Of two types
that differ in their sizes, the declared one is found to be no smaller just if every content of the
live column is one of the declared column, and the two are found to be the same just if they are of
one family and have the same contents. So neither is a widening reported that would lose data, nor
is one held back that would not. For numbers this needs both of the greatest numeral, which asks for
the digits before the point, and of the smallest positive one, which asks for the places after it.

`FitsIn` says once what the comparison finds to be no smaller. It is an order on all types, up to
the two ways of writing a number without a precision, of which declared columns have only one.
-/

import OracleSql.Proofs.Column.Widening

namespace OracleSql

/-! ### Numerals of different sizes -/

/-- A power of ten has the places that it is the unit of, and no fewer. -/
theorem hasPlaces_unit_iff {places unit : Int} :
    HasPlaces places (10 ^ (-unit)) ↔ unit ≤ places := by
  refine ⟨?_, fun le => HasPlaces.mono le ⟨1, by rw [Int.cast_one, one_mul]⟩⟩
  rintro ⟨count, same⟩
  by_contra more
  have above : 1 ≤ (unit - places).toNat := by omega
  have split : (10 : ℚ) ^ (-places) = 10 ^ (unit - places).toNat * 10 ^ (-unit) := by
    rw [← zpow_natCast, ← zpow_add₀ (by norm_num)]
    congr 1
    omega
  have one : count * 10 ^ (unit - places).toNat = 1 := by
    rw [split, ← mul_assoc, eq_comm, mul_eq_right₀ (tenPower_pos _).ne'] at same
    exact_mod_cast same
  have divides : (10 : ℤ) ∣ 1 :=
    one ▸ Dvd.dvd.mul_left (dvd_pow_self 10 (Nat.one_le_iff_ne_zero.mp above)) count
  omega

/-- Places are allowed by more of them, and by no others. -/
theorem hasPlaces_subset_iff {fewer more : Int} :
    (∀ number, HasPlaces fewer number → HasPlaces more number) ↔ fewer ≤ more :=
  ⟨fun each => hasPlaces_unit_iff.mp (each _ (hasPlaces_unit_iff.mpr le_rfl)),
    fun le _ places => places.mono le⟩

/-- All numerals of a size are among those of another just if these have no fewer digits on either
side of the point. -/
theorem isNumeral_subset_iff {precision otherPrecision : Nat} {scale otherScale : Int}
    (digit : 1 ≤ precision) :
    (∀ number, IsNumeral precision scale number → IsNumeral otherPrecision otherScale number) ↔
      scale ≤ otherScale ∧ (precision : Int) - scale ≤ otherPrecision - otherScale := by
  refine ⟨fun each => ⟨?_, ?_⟩, fun room _ => IsNumeral.mono room.1 room.2⟩
  · have least : IsNumeral precision scale (10 ^ (-scale)) := by
      refine ⟨1, by rw [Int.cast_one, one_mul], ?_⟩
      rw [abs_one]
      exact one_lt_pow₀ (by norm_num) (Nat.one_le_iff_ne_zero.mp digit)
    exact hasPlaces_unit_iff.mp (each _ least).hasPlaces
  · have positive : (1 : ℤ) ≤ 10 ^ precision := one_le_pow₀ (by norm_num)
    have greatest : IsNumeral precision scale (((10 ^ precision - 1 : ℤ) : ℚ) * 10 ^ (-scale)) := by
      refine ⟨_, rfl, ?_⟩
      rw [abs_of_nonneg (by omega)]
      omega
    have small := (each _ greatest).abs_lt
    rw [abs_of_nonneg (mul_nonneg (by exact_mod_cast sub_nonneg.mpr positive)
      (tenPower_pos _).le)] at small
    by_contra fewer
    -- With a digit less before the point there would be room for a tenth at most.
    have room : (10 : ℚ) ^ ((otherPrecision : Int) - otherScale) ≤
        10 ^ (precision - 1) * 10 ^ (-scale) := by
      rw [← zpow_natCast, ← zpow_add₀ (by norm_num)]
      exact zpow_le_zpow_right₀ (by norm_num) (by omega)
    have less := lt_of_mul_lt_mul_right (small.trans_le room) (tenPower_pos _).le
    have tenth : (10 : ℤ) ^ precision = 10 * 10 ^ (precision - 1) := by
      rw [← pow_succ', Nat.sub_add_cancel digit]
    have some : (1 : ℤ) ≤ 10 ^ (precision - 1) := one_le_pow₀ (by norm_num)
    have whole : (10 : ℤ) ^ precision - 1 < 10 ^ (precision - 1) := by exact_mod_cast less
    omega

/-! ### Contents of sized types -/

/-- The content of a row in a column with a size. A time is in seconds, with any fraction of them:
a precision may ask for more digits than clocks have. -/
inductive SizedContent where
  | number (content : ℚ)
  | text (content : String)
  | bytes (content : List UInt8)
  | time (zone : TimestampZone) (seconds : ℚ)

namespace ColumnType

/-- The contents of a column of a type with a size. Both types of texts take all that are not too
long. -/
def Admits : ColumnType → SizedContent → Prop
  | .number (some precision) scale, .number content =>
    IsNumeral precision (scale.getD 0) content
  | .varchar size, .text content => content.toList.length ≤ size
  | .char size, .text content => content.toList.length ≤ size
  | .raw size, .bytes content => content.length ≤ size
  | .timestamp zone precision, .time ofContent seconds =>
    ofContent = zone ∧ HasPlaces precision seconds
  | _, _ => False

/-- Every content of the type is one of the other. -/
def Within (live declared : ColumnType) : Prop :=
  ∀ content, live.Admits content → declared.Admits content

/-- What is left of a type without its size. -/
def family : ColumnType → ColumnType
  | .number _ _ => .number none none
  | .varchar _ => .varchar 0
  | .char _ => .char 0
  | .raw _ => .raw 0
  | .timestamp zone _ => .timestamp zone 0
  | columnType => columnType

/-- Two types that differ in their sizes, or a text padded with blanks and one that is not. A number
has a digit at least, and any scale. -/
inductive Comparable : ColumnType → ColumnType → Prop
  | number {live declared : Nat} (scale otherScale : Option Int) (digit : 1 ≤ live)
    (also : 1 ≤ declared) :
    Comparable (.number (some live) scale) (.number (some declared) otherScale)
  | varchar (live declared : Nat) : Comparable (.varchar live) (.varchar declared)
  | char (live declared : Nat) : Comparable (.char live) (.char declared)
  | padded (live declared : Nat) : Comparable (.char live) (.varchar declared)
  | raw (live declared : Nat) : Comparable (.raw live) (.raw declared)
  | timestamp (zone : TimestampZone) (live declared : Nat) :
    Comparable (.timestamp zone live) (.timestamp zone declared)

/-! ### What the comparison finds -/

/-- The declared type is no smaller than the live one. -/
inductive FitsIn : ColumnType → ColumnType → Prop
  | refl (columnType : ColumnType) : FitsIn columnType columnType
  | varchar {live declared : Nat} (le : live ≤ declared) :
    FitsIn (.varchar live) (.varchar declared)
  | char {live declared : Nat} (le : live ≤ declared) : FitsIn (.char live) (.char declared)
  | padded {live declared : Nat} (le : live ≤ declared) : FitsIn (.char live) (.varchar declared)
  | raw {live declared : Nat} (le : live ≤ declared) : FitsIn (.raw live) (.raw declared)
  | timestamp {zone : TimestampZone} {live declared : Nat} (le : live ≤ declared) :
    FitsIn (.timestamp zone live) (.timestamp zone declared)
  | unlimited (precision : Option Nat) (scale otherScale : Option Int) :
    FitsIn (.number precision scale) (.number none otherScale)
  | digits {live declared : Nat} {scale otherScale : Option Int}
    (places : scale.getD 0 ≤ otherScale.getD 0)
    (whole : (live : Int) - scale.getD 0 ≤ declared - otherScale.getD 0) :
    FitsIn (.number (some live) scale) (.number (some declared) otherScale)

/-- The comparison says that no content of the live column is lost. -/
def Change.Keeps (change : Change) : Prop :=
  change = .same ∨ change = .widen

theorem keeps_bySize {live declared : Nat} (keeps : (bySize live declared).Keeps) :
    live ≤ declared := by
  rcases keeps with same | widens
  · unfold bySize at same
    split at same <;> cases same
  · exact (lt_of_bySize widens).le

/-- What the comparison finds to be no smaller. -/
theorem fits_of_keeps {live declared : ColumnType} (keeps : (live.compare declared).Keeps) :
    FitsIn live.normalized declared.normalized := by
  unfold compare at keeps
  by_cases equal : live.normalized = declared.normalized
  · rw [equal]
    exact .refl _
  rw [if_neg equal] at keeps
  generalize live.normalized = old at keeps equal
  generalize declared.normalized = new at keeps equal
  split at keeps
  case h_1 => exact .varchar (keeps_bySize keeps)
  case h_2 => exact .char (keeps_bySize keeps)
  case h_3 => exact .raw (keeps_bySize keeps)
  case h_4 =>
    split at keeps
    next le => exact .padded le
    next => rcases keeps with impossible | impossible <;> cases impossible
  case h_5 => exact .unlimited _ _ _
  case h_6 => rcases keeps with impossible | impossible <;> cases impossible
  case h_7 =>
    rcases keeps with same | widens
    · unfold byDigits at same
      split at same <;> cases same
    · exact .digits (of_byDigits widens).1 (of_byDigits widens).2
  case h_8 =>
    split at keeps
    next zone =>
      subst zone
      exact .timestamp (keeps_bySize keeps)
    next => rcases keeps with impossible | impossible <;> cases impossible
  case h_9 => rcases keeps with impossible | impossible <;> cases impossible

theorem bySize_eq_widen {live declared : Nat} (less : live < declared) :
    bySize live declared = .widen :=
  if_pos less

/-- Sizes and digits are only compared where they differ. -/
theorem bySize_eq_or (live declared : Nat) :
    bySize live declared = .widen ∨ bySize live declared = .narrow := by
  unfold bySize
  split
  · exact Or.inl rfl
  · exact Or.inr rfl

theorem byDigits_eq_or (live declared : Nat × Int) :
    byDigits live declared = .widen ∨ byDigits live declared = .narrow := by
  unfold byDigits
  split
  · exact Or.inl rfl
  · exact Or.inr rfl

/-- All that is no smaller is found to be so. -/
theorem keeps_of_fits {live declared : ColumnType}
    (fits : FitsIn live.normalized declared.normalized) : (live.compare declared).Keeps := by
  unfold compare
  by_cases equal : live.normalized = declared.normalized
  · exact Or.inl (if_pos equal)
  rw [if_neg equal]
  refine Or.inr ?_
  generalize live.normalized = old at fits equal ⊢
  generalize declared.normalized = new at fits equal ⊢
  cases fits with
  | refl => exact absurd rfl equal
  | varchar le => exact bySize_eq_widen (le.lt_of_ne fun same => equal (same ▸ rfl))
  | char le => exact bySize_eq_widen (le.lt_of_ne fun same => equal (same ▸ rfl))
  | raw le => exact bySize_eq_widen (le.lt_of_ne fun same => equal (same ▸ rfl))
  | padded le => exact if_pos le
  | timestamp le =>
    exact (if_pos rfl).trans (bySize_eq_widen (le.lt_of_ne fun same => equal (same ▸ rfl)))
  | unlimited precision scale otherScale => cases precision <;> rfl
  | digits places whole => exact if_pos ⟨by omega, places, whole⟩

theorem keeps_compare_iff {live declared : ColumnType} :
    (live.compare declared).Keeps ↔ FitsIn live.normalized declared.normalized :=
  ⟨fits_of_keeps, keeps_of_fits⟩

/-- No smaller than what is no smaller is no smaller. -/
theorem FitsIn.trans {first second third : ColumnType} (one : FitsIn first second)
    (other : FitsIn second third) : FitsIn first third := by
  cases one with
  | refl => exact other
  | varchar le =>
    cases other with
    | refl => exact .varchar le
    | varchar further => exact .varchar (le.trans further)
  | char le =>
    cases other with
    | refl => exact .char le
    | char further => exact .char (le.trans further)
    | padded further => exact .padded (le.trans further)
  | padded le =>
    cases other with
    | refl => exact .padded le
    | varchar further => exact .padded (le.trans further)
  | raw le =>
    cases other with
    | refl => exact .raw le
    | raw further => exact .raw (le.trans further)
  | timestamp le =>
    cases other with
    | refl => exact .timestamp le
    | timestamp further => exact .timestamp (le.trans further)
  | unlimited =>
    cases other with
    | refl => exact .unlimited _ _ _
    | unlimited => exact .unlimited _ _ _
  | digits places whole =>
    cases other with
    | refl => exact .digits places whole
    | unlimited => exact .unlimited _ _ _
    | digits further more => exact .digits (places.trans further) (whole.trans more)

/-! ### Types of different sizes -/

theorem normalized_number (precision : Nat) (scale : Option Int) :
    (number (some precision) scale).normalized = number (some precision) (some (scale.getD 0)) := by
  cases scale <;> rfl

theorem fits_number_iff {precision otherPrecision : Nat} {scale otherScale : Option Int} :
    FitsIn (number (some precision) scale) (number (some otherPrecision) otherScale) ↔
      scale.getD 0 ≤ otherScale.getD 0 ∧
        (precision : Int) - scale.getD 0 ≤ otherPrecision - otherScale.getD 0 :=
  ⟨fun | .refl _ => ⟨le_rfl, le_rfl⟩ | .digits places whole => ⟨places, whole⟩,
    fun room => .digits room.1 room.2⟩

/-- A list of every length there is. -/
theorem length_subset_iff {α : Type} (item : α) {size other : Nat} :
    (∀ items : List α, items.length ≤ size → items.length ≤ other) ↔ size ≤ other := by
  refine ⟨fun each => ?_, fun le _ short => short.trans le⟩
  have long := each (List.replicate size item) List.length_replicate.le
  rwa [List.length_replicate] at long

theorem text_subset_iff {size other : Nat} :
    (∀ text : String, text.toList.length ≤ size → text.toList.length ≤ other) ↔ size ≤ other := by
  rw [← length_subset_iff ' ']
  refine ⟨fun each letters short => ?_, fun each text => each text.toList⟩
  have long := each (String.ofList letters)
  rw [String.toList_ofList] at long
  exact long short

variable {live declared : ColumnType}

/-- A type whose contents are all of one kind has them among those of another just if each of this
kind is. -/
theorem within_iff {kind : Type} (wrap : kind → SizedContent)
    (only : ∀ content, live.Admits content → ∃ inner, content = wrap inner) :
    live.Within declared ↔ ∀ inner, live.Admits (wrap inner) → declared.Admits (wrap inner) := by
  refine ⟨fun each inner => each (wrap inner), fun each content admitted => ?_⟩
  obtain ⟨inner, rfl⟩ := only content admitted
  exact each inner admitted

theorem exists_text_of_admits {size : Nat} (content : SizedContent)
    (admitted : (varchar size).Admits content ∨ (char size).Admits content) :
    ∃ text, content = .text text := by
  cases content with
  | text text => exact ⟨text, rfl⟩
  | _ => exact (admitted.elim id id).elim

theorem number_within_iff {precision otherPrecision : Nat} {scale otherScale : Option Int}
    (digit : 1 ≤ precision) :
    (number (some precision) scale).Within (number (some otherPrecision) otherScale) ↔
      scale.getD 0 ≤ otherScale.getD 0 ∧
        (precision : Int) - scale.getD 0 ≤ otherPrecision - otherScale.getD 0 := by
  refine (within_iff .number fun content admitted => ?_).trans (isNumeral_subset_iff digit)
  cases content with
  | number content => exact ⟨content, rfl⟩
  | _ => exact admitted.elim

theorem raw_within_iff {size other : Nat} : (raw size).Within (raw other) ↔ size ≤ other := by
  refine (within_iff .bytes fun content admitted => ?_).trans (length_subset_iff (0 : UInt8))
  cases content with
  | bytes content => exact ⟨content, rfl⟩
  | _ => exact admitted.elim

theorem timestamp_within_iff {zone : TimestampZone} {size other : Nat} :
    (timestamp zone size).Within (timestamp zone other) ↔ size ≤ other := by
  rw [← Int.ofNat_le, ← hasPlaces_subset_iff]
  refine (within_iff (.time zone) fun content admitted => ?_).trans ?_
  · cases content with
    | time ofContent seconds =>
      obtain ⟨rfl, _⟩ := admitted
      exact ⟨seconds, rfl⟩
    | _ => exact admitted.elim
  · exact ⟨fun each seconds places => (each seconds ⟨rfl, places⟩).2,
      fun each seconds admitted => ⟨rfl, each seconds admitted.2⟩⟩

/-- Of types that differ in their sizes, the one that is no smaller has all contents of the
other. -/
theorem Comparable.fits_iff_within (comparable : Comparable live declared) :
    FitsIn live.normalized declared.normalized ↔ live.Within declared := by
  cases comparable with
  | number scale otherScale digit =>
    rw [normalized_number, normalized_number, number_within_iff digit]
    exact fits_number_iff
  | varchar size other =>
    rw [within_iff .text fun content admitted => exists_text_of_admits content (Or.inl admitted)]
    refine Iff.trans ?_ text_subset_iff.symm
    exact ⟨fun | .refl _ => le_rfl | .varchar le => le, .varchar⟩
  | char size other =>
    rw [within_iff .text fun content admitted => exists_text_of_admits content (Or.inr admitted)]
    refine Iff.trans ?_ text_subset_iff.symm
    exact ⟨fun | .refl _ => le_rfl | .char le => le, .char⟩
  | padded size other =>
    rw [within_iff .text fun content admitted => exists_text_of_admits content (Or.inr admitted)]
    refine Iff.trans ?_ text_subset_iff.symm
    exact ⟨fun | .padded le => le, .padded⟩
  | raw size other =>
    rw [raw_within_iff]
    exact ⟨fun | .refl _ => le_rfl | .raw le => le, .raw⟩
  | timestamp zone size other =>
    rw [timestamp_within_iff]
    exact ⟨fun | .refl _ => le_rfl | .timestamp le => le, .timestamp⟩

/-! ### Equal types -/

theorem normalized_normalized (columnType : ColumnType) :
    columnType.normalized.normalized = columnType.normalized := by
  cases columnType with
  | number precision scale => cases precision <;> cases scale <;> rfl
  | _ => rfl

theorem family_normalized (columnType : ColumnType) :
    columnType.normalized.family = columnType.family := by
  cases columnType with
  | number precision scale => cases precision <;> cases scale <;> rfl
  | _ => rfl

theorem admits_normalized (columnType : ColumnType) (content : SizedContent) :
    columnType.normalized.Admits content ↔ columnType.Admits content := by
  cases columnType with
  | number precision scale =>
    cases precision with
    | none => rfl
    | some precision => cases scale <;> cases content <;> rfl
  | _ => rfl

/-- Types of which neither is smaller are one, if a number without a precision has no scale. -/
theorem FitsIn.antisymm {first second : ColumnType} (one : FitsIn first second)
    (other : FitsIn second first) (settled : first.normalized = first)
    (also : second.normalized = second) (plain : ∀ scale, first ≠ .number none (some scale))
    (plainly : ∀ scale, second ≠ .number none (some scale)) : first = second := by
  cases one with
  | refl => rfl
  | varchar le =>
    cases other with
    | refl => rfl
    | varchar further => rw [le.antisymm further]
  | char le =>
    cases other with
    | refl => rfl
    | char further => rw [le.antisymm further]
  | padded => cases other
  | raw le =>
    cases other with
    | refl => rfl
    | raw further => rw [le.antisymm further]
  | timestamp le =>
    cases other with
    | refl => rfl
    | timestamp further => rw [le.antisymm further]
  | unlimited precision scale otherScale =>
    cases other with
    | refl => rfl
    | unlimited =>
      cases scale with
      | some scale => exact absurd rfl (plain scale)
      | none =>
        cases otherScale with
        | some scale => exact absurd rfl (plainly scale)
        | none => rfl
  | @digits precision otherPrecision scale otherScale places whole =>
    obtain ⟨further, more⟩ := fits_number_iff.mp other
    have digits : precision = otherPrecision := by omega
    rw [normalized_number] at settled also
    rw [← settled, ← also, digits, places.antisymm further]

/-- Types that differ in their sizes are found to be the same, wider or narrower. -/
theorem Comparable.keeps_or_narrow (comparable : Comparable live declared) :
    (live.compare declared).Keeps ∨ live.compare declared = .narrow := by
  unfold compare
  by_cases equal : live.normalized = declared.normalized
  · exact Or.inl (Or.inl (if_pos equal))
  rw [if_neg equal]
  have keeps {change : Change} (either : change = .widen ∨ change = .narrow) :
      change.Keeps ∨ change = .narrow :=
    either.imp_left Or.inr
  cases comparable with
  | number scale otherScale =>
    rw [normalized_number, normalized_number]
    exact keeps (byDigits_eq_or _ _)
  | varchar size other => exact keeps (bySize_eq_or size other)
  | char size other => exact keeps (bySize_eq_or size other)
  | padded size other =>
    by_cases le : size ≤ other
    · exact keeps (Or.inl (if_pos le))
    · exact keeps (Or.inr (if_neg le))
  | raw size other => exact keeps (bySize_eq_or size other)
  | timestamp zone size other =>
    exact keeps ((bySize_eq_or size other).imp (if_pos rfl).trans (if_pos rfl).trans)

/-- The types are found to be the same just if they are, up to the two ways to write a scale of
zero. -/
theorem compare_eq_same_iff :
    live.compare declared = .same ↔ live.normalized = declared.normalized := by
  refine ⟨fun same => ?_, fun equal => if_pos equal⟩
  by_contra differs
  have other {change : Change} (either : change = .widen ∨ change = .narrow) : change ≠ .same := by
    rcases either with rfl | rfl <;> decide
  unfold compare at same
  rw [if_neg differs] at same
  split at same
  case h_1 => exact other (bySize_eq_or _ _) same
  case h_2 => exact other (bySize_eq_or _ _) same
  case h_3 => exact other (bySize_eq_or _ _) same
  case h_4 => split at same <;> cases same
  case h_5 => cases same
  case h_6 => cases same
  case h_7 => exact other (byDigits_eq_or _ _) same
  case h_8 =>
    split at same
    · exact other (bySize_eq_or _ _) same
    · cases same
  case h_9 => cases same

/-- Types of one family that differ in their sizes can be taken the other way round. -/
theorem Comparable.symm (comparable : Comparable live declared)
    (alike : live.family = declared.family) : Comparable declared live := by
  cases comparable with
  | number scale otherScale digit also => exact .number otherScale scale also digit
  | varchar size other => exact .varchar other size
  | char size other => exact .char other size
  | padded size other => cases alike
  | raw size other => exact .raw other size
  | timestamp zone size other => exact .timestamp zone other size

/-- Types that differ in their sizes are numbers with a precision, or no numbers. -/
theorem Comparable.plain (comparable : Comparable live declared) (scale : Int) :
    live.normalized ≠ .number none (some scale) ∧
      declared.normalized ≠ .number none (some scale) := by
  cases comparable with
  | number scale otherScale =>
    rw [normalized_number, normalized_number]
    exact ⟨nofun, nofun⟩
  | _ => exact ⟨nofun, nofun⟩

/-- Types that differ in their sizes are found to be the same just if they are of one family and
have the same contents. -/
theorem Comparable.same_iff (comparable : Comparable live declared) :
    live.compare declared = .same ↔
      live.family = declared.family ∧ ∀ content, live.Admits content ↔ declared.Admits content := by
  rw [compare_eq_same_iff]
  constructor
  · intro equal
    refine ⟨?_, fun content => ?_⟩
    · rw [← family_normalized live, equal, family_normalized]
    · rw [← admits_normalized live, equal, admits_normalized]
  · rintro ⟨alike, contents⟩
    have one := comparable.fits_iff_within.mpr fun content => (contents content).mp
    have other := (comparable.symm alike).fits_iff_within.mpr fun content => (contents content).mpr
    exact one.antisymm other (normalized_normalized live) (normalized_normalized declared)
      (fun scale => (comparable.plain scale).1) fun scale => (comparable.plain scale).2

/-- Some declared column is stored as the type. -/
def IsDeclared (columnType : ColumnType) : Prop :=
  ∃ (dialect : Dialect) (column : Column), dialect.columnType column = .ok columnType

theorem IsDeclared.plain {columnType : ColumnType} (isDeclared : columnType.IsDeclared)
    (scale : Int) : columnType.normalized ≠ .number none (some scale) := by
  obtain ⟨dialect, column, typed⟩ := isDeclared
  intro same
  unfold normalized at same
  split at same
  · cases same
  · exact dialect.typeOf_ne_number column scale ((Dialect.typeOf_of_columnType typed).trans same)

/-- **The comparison of types is exact.** Of two types that differ in their sizes, or of a padded
text and one that is not, no content is lost just if every content of the live column is one of the
declared one; if there is another, the declared type is narrower. They are the same just if they are
of one family and have the same contents. Among the types that declared columns are stored as, to
lose nothing is an order: it holds of a type and itself, it goes on from one type to the next, and
no two types are each wider than the other. -/
theorem compare_exact :
    (∀ live declared, Comparable live declared →
      ((live.compare declared).Keeps ↔ live.Within declared) ∧
      (live.compare declared = .narrow ↔ ¬live.Within declared) ∧
      (live.compare declared = .same ↔ live.family = declared.family ∧
        ∀ content, live.Admits content ↔ declared.Admits content)) ∧
    (∀ columnType, IsDeclared columnType → (columnType.compare columnType).Keeps) ∧
    (∀ first second third, IsDeclared first → IsDeclared second → IsDeclared third →
      (first.compare second).Keeps → (second.compare third).Keeps →
        (first.compare third).Keeps) ∧
    ∀ first second, IsDeclared first → IsDeclared second →
      ¬(first.compare second = .widen ∧ second.compare first = .widen) := by
  refine ⟨fun live declared comparable => ?_, fun columnType _ => ?_,
    fun first second third _ _ _ one other => ?_, fun first second one other widens => ?_⟩
  · have keeps : (live.compare declared).Keeps ↔ live.Within declared :=
      keeps_compare_iff.trans comparable.fits_iff_within
    refine ⟨keeps, ⟨fun narrows within => ?_, fun without => ?_⟩, comparable.same_iff⟩
    · have impossible := keeps.mpr within
      rw [narrows] at impossible
      rcases impossible with same | same <;> cases same
    · exact comparable.keeps_or_narrow.resolve_left fun held => without (keeps.mp held)
  · exact keeps_compare_iff.mpr (.refl _)
  · exact keeps_compare_iff.mpr ((keeps_compare_iff.mp one).trans (keeps_compare_iff.mp other))
  · have equal := (keeps_compare_iff.mp (Or.inr widens.1)).antisymm
      (keeps_compare_iff.mp (Or.inr widens.2)) (normalized_normalized first)
      (normalized_normalized second) one.plain other.plain
    have same := compare_eq_same_iff.mpr equal
    rw [widens.1] at same
    cases same

/-- A scale below zero and one above the precision, and the types of three columns. -/
theorem compare_exact_scales :
    (number (some 3) (some (-2))).compare (number (some 5) none) = .widen ∧
      (number (some 3) (some (-2))).Within (number (some 5) none) ∧
      ¬(number (some 2) (some 5)).Within (number (some 6) (some 4)) ∧
      ((char 36).compare (varchar 50)).Keeps ∧
      ¬((char 36).compare (varchar 40) = .widen ∧ (varchar 40).compare (char 36) = .widen) := by
  have identifier : IsDeclared (char 36) :=
    ⟨{}, ⟨"ID", .uuid, none, none, none, true, none, false, none⟩, rfl⟩
  have short : IsDeclared (varchar 40) :=
    ⟨{}, ⟨"NAME", .string, some 40, none, none, true, none, false, none⟩, rfl⟩
  have long : IsDeclared (varchar 50) :=
    ⟨{}, ⟨"NAME", .string, some 50, none, none, true, none, false, none⟩, rfl⟩
  refine ⟨rfl, ?_, ?_, ?_, ?_⟩
  · have comparable := Comparable.number (some (-2)) none (by decide : 1 ≤ 3) (by decide : 1 ≤ 5)
    exact (compare_exact.1 _ _ comparable).1.mp (Or.inr rfl)
  · have comparable := Comparable.number (some 5) (some 4) (by decide : 1 ≤ 2) (by decide : 1 ≤ 6)
    exact (compare_exact.1 _ _ comparable).2.1.mp rfl
  · exact compare_exact.2.2.1 _ _ _ identifier short long (Or.inr rfl) (Or.inr rfl)
  · exact compare_exact.2.2.2 _ _ identifier short

end ColumnType

end OracleSql
