/-
This file says which texts are those of identifiers, byte by byte, and proves that both ways to the
database agree on them. A text is read as an identifier just if it has 36 bytes, hyphens at four
places and hexadecimal digits of either case elsewhere; characters of several bytes never pass,
since each of their bytes is beyond ASCII. What is stored for such a text is the text in lower case,
which is the canonical text of the identifier it is read as, and storing it again changes nothing.
-/

import OracleSql.Proofs.Column.Encoding

namespace OracleSql

/-! ### Bytes -/

namespace Text

/-- The bytes of a text. -/
def bytes (text : String) : List UInt8 :=
  text.toUTF8.data.toList

/-- The bytes of a text are those of its characters. -/
theorem bytes_eq_flatMap (text : String) :
    bytes text = text.toList.flatMap String.utf8EncodeChar := by
  rw [bytes, String.toUTF8_eq_toByteArray, ← String.utf8Encode_toList, List.utf8Encode,
    List.toList_data_toByteArray]

/-- A character of ASCII is one byte. -/
theorem utf8EncodeChar_of_ascii {letter : Char} (ascii : letter.toNat < 128) :
    String.utf8EncodeChar letter = [UInt8.ofNat letter.toNat] := by
  have single : letter.utf8Size = 1 := by
    rw [Char.utf8Size_eq_one_iff, UInt32.le_iff_toNat_le]
    exact Nat.le_of_lt_succ ascii
  rw [String.utf8EncodeChar_eq_singleton single]
  rfl

/-- Of any other character the last byte is beyond ASCII. -/
theorem exists_wide_of_not_ascii {letter : Char} (wide : 128 ≤ letter.toNat) :
    ∃ byte ∈ String.utf8EncodeChar letter, 128 ≤ byte := by
  refine ⟨letter.val.toUInt8 &&& 0x3f ||| 0x80, ?_, ?_⟩
  · rcases letter.utf8Size_eq with one | two | three | four
    · rw [Char.utf8Size_eq_one_iff, UInt32.le_iff_toNat_le] at one
      exact absurd wide (Nat.not_le_of_lt (Nat.lt_succ_of_le one))
    · simp [String.utf8EncodeChar_eq_cons_cons two]
    · simp [String.utf8EncodeChar_eq_cons_cons_cons three]
    · simp [String.utf8EncodeChar_eq_cons_cons_cons_cons four]
  · rw [UInt8.le_iff_toNat_le, UInt8.toNat_or]
    exact Nat.right_le_or

/-- A text is written in ASCII just if its bytes are. -/
theorem forall_bytes_iff (text : String) :
    (∀ byte ∈ bytes text, byte < 128) ↔ ∀ letter ∈ text.toList, letter.toNat < 128 := by
  rw [bytes_eq_flatMap]
  constructor
  · intro narrow letter member
    by_contra wide
    obtain ⟨byte, inside, beyond⟩ := exists_wide_of_not_ascii (Nat.le_of_not_lt wide)
    have below := narrow byte (List.mem_flatMap.mpr ⟨letter, member, inside⟩)
    rw [UInt8.lt_iff_toNat_lt] at below
    rw [UInt8.le_iff_toNat_le] at beyond
    omega
  · intro ascii byte inside
    obtain ⟨letter, member, encoded⟩ := List.mem_flatMap.mp inside
    have below := ascii letter member
    rw [utf8EncodeChar_of_ascii below, List.mem_singleton] at encoded
    rw [encoded, UInt8.lt_iff_toNat_lt, UInt8.toNat_ofNat_of_lt' (below.trans (by decide))]
    exact below

/-- The bytes of a text in ASCII are its characters. -/
theorem bytes_of_ascii {text : String} (ascii : ∀ letter ∈ text.toList, letter.toNat < 128) :
    bytes text = text.toList.map fun letter => UInt8.ofNat letter.toNat := by
  rw [bytes_eq_flatMap]
  generalize text.toList = letters at ascii
  induction letters with
  | nil => rfl
  | cons letter rest inductionHypothesis =>
    obtain ⟨first, others⟩ := List.forall_mem_cons.mp ascii
    rw [List.flatMap_cons, List.map_cons, utf8EncodeChar_of_ascii first,
      inductionHypothesis others, List.singleton_append]

/-- What holds of the codes of ASCII holds of its characters. -/
theorem forall_ascii (property : Char → Prop)
    (each : ∀ code < 128, property (Char.ofNat code)) {letter : Char}
    (ascii : letter.toNat < 128) : property letter := by
  have own := each letter.toNat ascii
  rwa [Char.ofNat_toNat] at own

/-! ### Hexadecimal digits of either case -/

/-- The bytes of hexadecimal digits. -/
def isHexByte (byte : UInt8) : Bool :=
  (48 ≤ byte && byte ≤ 57) || (65 ≤ byte && byte ≤ 70) || (97 ≤ byte && byte ≤ 102)

theorem narrow_of_isHexByte {byte : UInt8} (hex : isHexByte byte = true) : byte < 128 := by
  simp only [isHexByte, Bool.or_eq_true, Bool.and_eq_true, decide_eq_true_eq,
    UInt8.le_iff_toNat_le] at hex
  rw [UInt8.lt_iff_toNat_lt]
  simp at hex ⊢
  omega

/-- Hexadecimal digits are characters of ASCII. -/
theorem ascii_of_hexValue? {letter : Char} {value : Nat} (read : hexValue? letter = some value) :
    letter.toNat < 128 := by
  unfold hexValue? at read
  split at read
  next range => exact Nat.lt_of_le_of_lt (Char.le_def.mp range.2) (by decide)
  next =>
    split at read
    next range => exact Nat.lt_of_le_of_lt (Char.le_def.mp range.2) (by decide)
    next =>
      split at read
      next range => exact Nat.lt_of_le_of_lt (Char.le_def.mp range.2) (by decide)
      next => cases read

theorem isSome_hexValue?_iff {letter : Char} (ascii : letter.toNat < 128) :
    (hexValue? letter).isSome = isHexByte (UInt8.ofNat letter.toNat) :=
  forall_ascii (fun letter =>
    (hexValue? letter).isSome = isHexByte (UInt8.ofNat letter.toNat)) (by decide +kernel) ascii

/-- A digit is the lower-case digit of its value, but for its case. -/
theorem digitChar_of_hexValue? {letter : Char} {value : Nat}
    (read : hexValue? letter = some value) :
    value < 16 ∧ Nat.digitChar value = letter.toLower := by
  have each : ∀ code < 128, ∀ value ∈ hexValue? (Char.ofNat code),
      value < 16 ∧ Nat.digitChar value = (Char.ofNat code).toLower := by
    decide +kernel
  exact forall_ascii (fun letter => ∀ value ∈ hexValue? letter,
    value < 16 ∧ Nat.digitChar value = letter.toLower) each (ascii_of_hexValue? read) value read

/-- Digits that do not reach as far as a higher part do not show it. -/
theorem hexDigits_add (count high number : Nat) :
    hexDigits count (high * 16 ^ count + number) = hexDigits count number := by
  induction count generalizing high with
  | zero => rfl
  | succ count inductionHypothesis =>
    have split : high * 16 ^ (count + 1) + number = high * 16 * 16 ^ count + number := by
      rw [Nat.pow_succ, Nat.mul_comm (16 ^ count), Nat.mul_assoc]
    have place (number : Nat) : number >>> (4 * count) = number / 16 ^ count := by
      rw [Nat.shiftRight_eq_div_pow, Nat.pow_mul]
    have digit : (high * 16 * 16 ^ count + number) / 16 ^ count % 16 =
        number / 16 ^ count % 16 := by
      rw [Nat.add_comm, Nat.add_mul_div_right _ _ (Nat.pow_pos (by decide)),
        Nat.add_mul_mod_self_right]
    rw [split, hexDigits, hexDigits, inductionHypothesis, place, place, digit]

/-- Digits of either case that are read after others write a number in the places behind them, and
are the digits of that number but for their case. -/
theorem exists_foldlM_hexValue? {digits : List Char}
    (hex : ∀ digit ∈ digits, (hexValue? digit).isSome) (start : Nat) :
    ∃ number < 16 ^ digits.length, hexDigits digits.length number = digits.map Char.toLower ∧
      digits.foldlM (fun number digit => (hexValue? digit).map (16 * number + ·)) start =
        some (start * 16 ^ digits.length + number) := by
  induction digits generalizing start with
  | nil => exact ⟨0, by decide, rfl, by simp⟩
  | cons digit rest inductionHypothesis =>
    obtain ⟨first, others⟩ := List.forall_mem_cons.mp hex
    obtain ⟨value, read⟩ := Option.isSome_iff_exists.mp first
    obtain ⟨small, lower⟩ := digitChar_of_hexValue? read
    obtain ⟨number, bound, written, reads⟩ := inductionHypothesis others (16 * start + value)
    have place : (value * 16 ^ rest.length + number) >>> (4 * rest.length) % 16 = value := by
      rw [Nat.shiftRight_eq_div_pow, Nat.pow_mul, Nat.add_comm,
        Nat.add_mul_div_right _ _ (Nat.pow_pos (by decide)), Nat.div_eq_of_lt bound, Nat.zero_add,
        Nat.mod_eq_of_lt small]
    refine ⟨value * 16 ^ rest.length + number, ?_, ?_, ?_⟩
    · calc value * 16 ^ rest.length + number
        _ < value * 16 ^ rest.length + 16 ^ rest.length := Nat.add_lt_add_left bound _
        _ = (value + 1) * 16 ^ rest.length := (Nat.succ_mul _ _).symm
        _ ≤ 16 * 16 ^ rest.length := Nat.mul_le_mul_right _ small
        _ = 16 ^ (digit :: rest).length := (Nat.pow_succ').symm
    · rw [List.length_cons, hexDigits, place, hexDigits_add, written, lower, List.map_cons]
    · rw [List.foldlM_cons, read, Option.map_some, Option.bind_eq_bind, Option.bind_some, reads,
        List.length_cons, Nat.pow_succ]
      congr 1
      ring

/-- Hexadecimal digits of either case are those of the number they write, but for their case. -/
theorem exists_hexNumber? {digits : List Char}
    (hex : ∀ digit ∈ digits, (hexValue? digit).isSome) :
    ∃ number < 16 ^ digits.length, hexDigits digits.length number = digits.map Char.toLower ∧
      hexNumber? digits = some number := by
  obtain ⟨number, bound, written, reads⟩ := exists_foldlM_hexValue? hex 0
  rw [Nat.zero_mul, Nat.zero_add] at reads
  exact ⟨number, bound, written, reads⟩

end Text

/-! ### The shape of an identifier -/

namespace Uuid

/-- The text has the shape of an identifier: 36 bytes, hyphens at their places and hexadecimal
digits of either case everywhere else. -/
def HasShape (text : String) : Prop :=
  (Text.bytes text).length = 36 ∧ ∀ (place : Nat) (byte : UInt8),
    (Text.bytes text)[place]? = some byte →
      if place ∈ hyphenPlaces then byte = 45 else Text.isHexByte byte

/-- The characters are right at their places, the first of which is `start`. -/
def Fits (start : Nat) (letters : List Char) : Prop :=
  ∀ (place : Nat) (letter : Char), letters[place]? = some letter →
    fitsPlace letter (start + place) = true

theorem wellFormed_iff (letters : List Char) :
    wellFormed letters = true ↔ letters.length = 36 ∧ Fits 0 letters := by
  rw [wellFormed, Bool.and_eq_true, beq_iff_eq, List.all_eq_true]
  refine and_congr_right fun _ => ⟨fun each place letter found => ?_, fun fits pair member => ?_⟩
  · rw [Nat.zero_add]
    exact each (letter, place) (List.mk_mem_zipIdx_iff_getElem?.mpr found)
  · have own := fits pair.2 pair.1 (List.mk_mem_zipIdx_iff_getElem?.mp member)
    rwa [Nat.zero_add] at own

theorem ascii_of_fitsPlace {letter : Char} {place : Nat} (fits : fitsPlace letter place = true) :
    letter.toNat < 128 := by
  unfold fitsPlace at fits
  split at fits
  · rw [beq_iff_eq.mp fits]
    decide
  · obtain ⟨value, read⟩ := Option.isSome_iff_exists.mp fits
    exact Text.ascii_of_hexValue? read

/-- A character of ASCII is right at its place just if its byte is. -/
theorem fitsPlace_iff {letter : Char} (ascii : letter.toNat < 128) (place : Nat) :
    fitsPlace letter place = true ↔
      if place ∈ hyphenPlaces then UInt8.ofNat letter.toNat = 45
      else Text.isHexByte (UInt8.ofNat letter.toNat) := by
  have hyphen : letter = '-' ↔ UInt8.ofNat letter.toNat = 45 :=
    Text.forall_ascii (fun letter => letter = '-' ↔ UInt8.ofNat letter.toNat = 45)
      (by decide +kernel) ascii
  unfold fitsPlace
  split
  · rw [beq_iff_eq, hyphen]
  · rw [Text.isSome_hexValue?_iff ascii]

/-- The reader looks at characters, and takes the texts whose bytes have the shape. -/
theorem wellFormed_iff_hasShape (text : String) :
    wellFormed text.toList = true ↔ HasShape text := by
  have same (ascii : ∀ letter ∈ text.toList, letter.toNat < 128) :
      wellFormed text.toList = true ↔ HasShape text := by
    rw [wellFormed_iff, HasShape, Text.bytes_of_ascii ascii, List.length_map]
    refine and_congr_right fun _ =>
      ⟨fun fits place byte found => ?_, fun fits place letter found => ?_⟩
    · rw [List.getElem?_map] at found
      obtain ⟨letter, listed, rfl⟩ := Option.map_eq_some_iff.mp found
      have own := fits place letter listed
      rw [Nat.zero_add] at own
      exact (fitsPlace_iff (ascii letter (List.mem_of_getElem? listed)) place).mp own
    · rw [Nat.zero_add]
      refine (fitsPlace_iff (ascii letter (List.mem_of_getElem? found)) place).mpr (fits place _ ?_)
      rw [List.getElem?_map, found, Option.map_some]
  -- Characters and bytes agree in ASCII, and either side of the statement leaves no other text.
  constructor
  · intro formed
    refine (same fun letter member => ?_).mp formed
    obtain ⟨place, found⟩ := List.getElem?_of_mem member
    exact ascii_of_fitsPlace (((wellFormed_iff _).mp formed).2 place letter found)
  · intro shape
    refine (same ((Text.forall_bytes_iff text).mp fun byte member => ?_)).mpr shape
    obtain ⟨place, found⟩ := List.getElem?_of_mem member
    have fits := shape.2 place byte found
    split at fits
    · rw [fits]
      decide
    · exact Text.narrow_of_isHexByte fits

/-- Where no hyphen has its place there are digits. -/
theorem hex_of_fits {start : Nat} {letters : List Char} (fits : Fits start letters)
    (free : ∀ place ∈ hyphenPlaces, place < start ∨ start + letters.length ≤ place) :
    ∀ letter ∈ letters, (Text.hexValue? letter).isSome := by
  intro letter member
  obtain ⟨place, found⟩ := List.getElem?_of_mem member
  have within := (List.getElem?_eq_some_iff.mp found).1
  have own := fits place letter found
  have apart : start + place ∉ hyphenPlaces := fun listed => by
    have outside := free _ listed
    omega
  rwa [fitsPlace, if_neg apart] at own

/-- Up to the next place of a hyphen there is a group of digits. -/
theorem exists_group (count : Nat) {start : Nat} {letters : List Char} (fits : Fits start letters)
    (long : count < letters.length) (hyphen : start + count ∈ hyphenPlaces)
    (free : ∀ place ∈ hyphenPlaces, place < start ∨ start + count ≤ place) :
    ∃ group rest, letters = group ++ '-' :: rest ∧ group.length = count ∧
      (∀ letter ∈ group, (Text.hexValue? letter).isSome) ∧ Fits (start + count + 1) rest := by
  have length : (letters.take count).length = count := List.length_take_of_le long.le
  have mark : letters[count] = '-' := by
    have own := fits count letters[count] (List.getElem?_eq_getElem long)
    rw [fitsPlace, if_pos hyphen] at own
    exact beq_iff_eq.mp own
  refine ⟨letters.take count, letters.drop (count + 1), ?_, length, ?_, ?_⟩
  · rw [← mark, ← List.drop_eq_getElem_cons long, List.take_append_drop]
  · have begins : Fits start (letters.take count) := fun place letter found => by
      rw [List.getElem?_take] at found
      split at found
      · exact fits place letter found
      · cases found
    exact hex_of_fits begins (by rwa [length])
  · intro place letter found
    rw [List.getElem?_drop] at found
    have own := fits _ letter found
    rwa [← Nat.add_assoc, ← Nat.add_assoc] at own

/-- A text of the shape is written in five groups of digits with hyphens between them. -/
theorem exists_groups {letters : List Char} (formed : wellFormed letters = true) :
    ∃ first second third fourth fifth : List Char,
      letters = first ++ '-' :: (second ++ '-' :: (third ++ '-' :: (fourth ++ '-' :: fifth))) ∧
        first.length = 8 ∧ second.length = 4 ∧ third.length = 4 ∧ fourth.length = 4 ∧
        fifth.length = 12 ∧
        ∀ letter ∈ first ++ second ++ third ++ fourth ++ fifth, (Text.hexValue? letter).isSome := by
  obtain ⟨length, fits⟩ := (wellFormed_iff letters).mp formed
  -- Each step takes a group and its hyphen; what remains is right at the places behind them.
  obtain ⟨first, rest, rfl, eight, firstHex, fits⟩ :=
    exists_group 8 fits (by omega) (by decide) (by decide)
  rw [List.length_append, List.length_cons, eight] at length
  obtain ⟨second, rest, rfl, four, secondHex, fits⟩ :=
    exists_group 4 fits (by omega) (by decide) (by decide)
  rw [List.length_append, List.length_cons, four] at length
  obtain ⟨third, rest, rfl, fourToo, thirdHex, fits⟩ :=
    exists_group 4 fits (by omega) (by decide) (by decide)
  rw [List.length_append, List.length_cons, fourToo] at length
  obtain ⟨fourth, fifth, rfl, fourAlso, fourthHex, fits⟩ :=
    exists_group 4 fits (by omega) (by decide) (by decide)
  rw [List.length_append, List.length_cons, fourAlso] at length
  have twelve : fifth.length = 12 := by omega
  have fifthHex := hex_of_fits fits (by simp [hyphenPlaces])
  refine ⟨first, second, third, fourth, fifth, rfl, eight, four, fourToo, fourAlso, twelve, ?_⟩
  simp only [List.forall_mem_append]
  exact ⟨⟨⟨⟨firstHex, secondHex⟩, thirdHex⟩, fourthHex⟩, fifthHex⟩

theorem filter_of_hex {digits : List Char}
    (hex : ∀ digit ∈ digits, (Text.hexValue? digit).isSome) :
    digits.filter (· != '-') = digits := by
  refine List.filter_eq_self.mpr fun digit member => bne_iff_ne.mpr ?_
  rintro rfl
  exact absurd (hex '-' member) (by decide)

/-- The canonical text of an identifier is its digits in their groups. -/
theorem toList_toText_of_groups {identifier : Uuid} {first second third fourth fifth : List Char}
    (split : identifier.digits = first ++ (second ++ (third ++ (fourth ++ fifth))))
    (eight : first.length = 8) (four : second.length = 4) (fourToo : third.length = 4)
    (fourAlso : fourth.length = 4) :
    identifier.toText.toList =
      first ++ '-' :: (second ++ '-' :: (third ++ '-' :: (fourth ++ '-' :: fifth))) := by
  have drop₂ : identifier.digits.drop 12 = third ++ (fourth ++ fifth) := by
    rw [split, ← List.drop_drop (i := 4) (j := 8), List.drop_left' eight, List.drop_left' four]
  have drop₃ : identifier.digits.drop 16 = fourth ++ fifth := by
    rw [← List.drop_drop (i := 4) (j := 12), drop₂, List.drop_left' fourToo]
  have drop₄ : identifier.digits.drop 20 = fifth := by
    rw [← List.drop_drop (i := 4) (j := 16), drop₃, List.drop_left' fourAlso]
  rw [toList_toText, drop₄, drop₃, drop₂, split, List.take_left' eight, List.drop_left' eight,
    List.take_left' four, List.take_left' fourToo, List.take_left' fourAlso]
  simp only [List.append_assoc, List.cons_append]

/-- A text of the shape is read, and the canonical text of what is read is the text in lower
case. -/
theorem exists_ofText? {text : String} (formed : wellFormed text.toList = true) :
    ∃ identifier, ofText? text = some identifier ∧ identifier.toText = Text.foldLower text := by
  obtain ⟨first, second, third, fourth, fifth, split, eight, four, fourToo, fourAlso, twelve,
    hex⟩ := exists_groups formed
  obtain ⟨number, bound, written, reads⟩ := Text.exists_hexNumber? hex
  have length : (first ++ second ++ third ++ fourth ++ fifth).length = 32 := by
    simp only [List.length_append, eight, four, fourToo, fourAlso, twelve]
  have filtered : text.toList.filter (· != '-') =
      first ++ second ++ third ++ fourth ++ fifth := by
    simp only [List.forall_mem_append] at hex
    obtain ⟨⟨⟨⟨firstHex, secondHex⟩, thirdHex⟩, fourthHex⟩, fifthHex⟩ := hex
    have hyphen : ('-' != '-') = false := by decide
    simp only [split, List.filter_append, List.filter_cons, hyphen, Bool.false_eq_true, if_false,
      filter_of_hex firstHex, filter_of_hex secondHex, filter_of_hex thirdHex,
      filter_of_hex fourthHex, filter_of_hex fifthHex, List.append_assoc]
  refine ⟨⟨.ofNat 128 number⟩, ?_, ?_⟩
  · rw [ofText?, if_pos formed, filtered, reads, Option.map_some]
  · have digits : digits ⟨.ofNat 128 number⟩ =
        (first ++ second ++ third ++ fourth ++ fifth).map Char.toLower := by
      rw [length] at written bound
      have small : number < 2 ^ 128 := bound
      rw [Uuid.digits, BitVec.toNat_ofNat, Nat.mod_eq_of_lt small, written]
    have hyphen : Char.toLower '-' = '-' := by decide
    simp only [List.map_append, List.append_assoc] at digits
    apply String.toList_inj.mp
    rw [toList_toText_of_groups digits (by rwa [List.length_map]) (by rwa [List.length_map])
      (by rwa [List.length_map]) (by rwa [List.length_map]), Text.foldLower,
      String.toList_ofList, split]
    simp only [List.map_append, List.map_cons, hyphen]

/-! ### Reading and storing -/

theorem hasShape_toText (identifier : Uuid) : HasShape identifier.toText :=
  (wellFormed_iff_hasShape _).mp identifier.wellFormed_toText

/-- The canonical text is in lower case. -/
theorem foldLower_toText (identifier : Uuid) :
    Text.foldLower identifier.toText = identifier.toText := by
  have lower : ∀ letter ∈ identifier.toText.toList, letter.toLower = id letter :=
    forall_mem_toText (by decide) (by decide) identifier
  rw [Text.foldLower, List.map_congr_left lower, List.map_id, String.ofList_toList]

/-- Just the texts of the shape are read. -/
theorem exists_parse_iff (text : String) :
    (∃ identifier, parse text = .ok identifier) ↔ HasShape text := by
  rw [← wellFormed_iff_hasShape]
  constructor
  · rintro ⟨identifier, read⟩
    by_contra malformed
    rw [parse, ofText?, if_neg malformed] at read
    cases read
  · intro formed
    obtain ⟨identifier, read, -⟩ := exists_ofText? formed
    exact ⟨identifier, by rw [parse, read]⟩

/-- The canonical text of an identifier is read as it. -/
theorem parse_toText (identifier : Uuid) : parse identifier.toText = .ok identifier := by
  rw [parse, ofText?_toText]

/-- A column of identifiers takes a text that is read, and stores it in lower case. -/
theorem encodeUuid_of_hasShape (column : Column) {text : String} (shape : HasShape text) :
    column.encodeUuid (.text text) = .ok (.text (Text.foldLower text)) := by
  obtain ⟨identifier, read, lower⟩ := exists_ofText? ((wellFormed_iff_hasShape text).mpr shape)
  simp only [Column.encodeUuid, read, lower]

/-- It takes no other text. -/
theorem encodeUuid_of_not_hasShape (column : Column) {text : String} (shape : ¬HasShape text) :
    column.encodeUuid (.text text) = .error (.uuid text) := by
  rw [← wellFormed_iff_hasShape] at shape
  rw [Column.encodeUuid, ofText?, if_neg shape]

/-- A text of the shape still has it in lower case. -/
theorem hasShape_foldLower {text : String} (shape : HasShape text) :
    HasShape (Text.foldLower text) := by
  obtain ⟨identifier, -, lower⟩ := exists_ofText? ((wellFormed_iff_hasShape text).mpr shape)
  exact lower ▸ identifier.hasShape_toText

/-- **The text of an identifier is canonical both ways.** In a column of identifiers every one of
the 2¹²⁸ identifiers is stored as a text of 36 characters in lower case, which has the shape and is
read as that identifier. A text is read just if it has the shape; then the column stores it in lower
case, and stores that once more as it is. Any other text is refused. -/
theorem canonical_both_ways (dialect : Dialect) (column : Column)
    (kind : column.fieldType = .uuid) :
    (∀ identifier : Uuid, ∃ text : String,
      dialect.encode column (toValue identifier) = .ok (.text text) ∧
        text.toList.length = 36 ∧ HasShape text ∧ Text.foldLower text = text ∧
        parse text = .ok identifier) ∧
      ∀ text : String,
        ((∃ identifier, parse text = .ok identifier) ↔ HasShape text) ∧
          (HasShape text →
            dialect.encode column (toValue text) = .ok (.text (Text.foldLower text)) ∧
              dialect.encode column (.text (Text.foldLower text)) =
                .ok (.text (Text.foldLower text))) ∧
          (¬HasShape text → dialect.encode column (toValue text) = .error (.uuid text)) := by
  have own (value : Value) (given : value.isNull = false) :
      dialect.encode column value = column.encodeUuid value := by
    simp only [Dialect.encode, given, Bool.false_eq_true, if_false, kind]
  refine ⟨fun identifier => ⟨identifier.toText, own _ rfl, identifier.length_toText,
    identifier.hasShape_toText, identifier.foldLower_toText, identifier.parse_toText⟩,
    fun text => ⟨exists_parse_iff text, fun shape => ⟨?_, ?_⟩, fun shape => ?_⟩⟩
  · exact (own _ rfl).trans (encodeUuid_of_hasShape column shape)
  · have twice : Text.foldLower (Text.foldLower text) = Text.foldLower text := by
      obtain ⟨identifier, -, lower⟩ := exists_ofText? ((wellFormed_iff_hasShape text).mpr shape)
      rw [← lower, foldLower_toText]
    rw [own _ rfl, encodeUuid_of_hasShape column (hasShape_foldLower shape), twice]
  · exact (own _ rfl).trans (encodeUuid_of_not_hasShape column shape)

/-- A text with letters of both cases is stored in lower case, and one in braces is refused. -/
theorem canonical_both_ways_mixed_case :
    let column : Column := { name := "KEY", fieldType := .uuid }
    ({} : Dialect).encode column (toValue "550E8400-e29b-41D4-A716-446655440000") =
        .ok (.text "550e8400-e29b-41d4-a716-446655440000") ∧
      ({} : Dialect).encode column (toValue "{50e8400-e29b-41d4-a716-44665544000}") =
        .error (.uuid "{50e8400-e29b-41d4-a716-44665544000}") := by
  intro column
  obtain ⟨-, texts⟩ := canonical_both_ways {} column rfl
  obtain ⟨-, stored, -⟩ := texts "550E8400-e29b-41D4-A716-446655440000"
  obtain ⟨-, -, refused⟩ := texts "{50e8400-e29b-41d4-a716-44665544000}"
  refine ⟨?_, refused ?_⟩
  · exact (stored ((wellFormed_iff_hasShape _).mp (by decide +kernel))).1
  · exact fun shape => absurd ((wellFormed_iff_hasShape _).mpr shape) (by decide +kernel)

end Uuid

end OracleSql
