/-
This file proves that a program reads back what it wrote. Every column has a type of the program
whose values it holds. Whatever value the encoder of a column accepts, the stored one is read as
that type, the null as nothing; and a content of the type that was lifted and stored is read as
itself, up to what the column is declared to drop: places of a decimal beyond its scale,
nanoseconds within a microsecond, and characters beyond a size under a policy that cuts.
-/

import OracleSql.Proofs.Column.Encoding

namespace OracleSql

/-! ### The contents of a column -/

namespace FieldType

/-- The type of a program whose values a column of this type holds. -/
def Content : FieldType → Type
  | bool => Bool
  | int8 => Int8
  | int16 => Int16
  | int32 => Int32
  | int64 => Int64
  | uint8 => UInt8
  | uint16 => UInt16
  | uint32 => UInt32
  | uint64 => UInt64
  | float32 => Binary32
  | float64 => Binary64
  | decimal => Decimal
  | string => String
  | bytes => List UInt8
  | instant => Instant
  | localTimestamp => LocalTimestamp
  | uuid => Uuid
  | json => Json

instance : (fieldType : FieldType) → OfValue fieldType.Content
  | bool => inferInstanceAs (OfValue Bool)
  | int8 => inferInstanceAs (OfValue Int8)
  | int16 => inferInstanceAs (OfValue Int16)
  | int32 => inferInstanceAs (OfValue Int32)
  | int64 => inferInstanceAs (OfValue Int64)
  | uint8 => inferInstanceAs (OfValue UInt8)
  | uint16 => inferInstanceAs (OfValue UInt16)
  | uint32 => inferInstanceAs (OfValue UInt32)
  | uint64 => inferInstanceAs (OfValue UInt64)
  | float32 => inferInstanceAs (OfValue Binary32)
  | float64 => inferInstanceAs (OfValue Binary64)
  | decimal => inferInstanceAs (OfValue Decimal)
  | string => inferInstanceAs (OfValue String)
  | bytes => inferInstanceAs (OfValue (List UInt8))
  | instant => inferInstanceAs (OfValue Instant)
  | localTimestamp => inferInstanceAs (OfValue LocalTimestamp)
  | uuid => inferInstanceAs (OfValue Uuid)
  | json => inferInstanceAs (OfValue Json)

instance : (fieldType : FieldType) → ToValue fieldType.Content
  | bool => inferInstanceAs (ToValue Bool)
  | int8 => inferInstanceAs (ToValue Int8)
  | int16 => inferInstanceAs (ToValue Int16)
  | int32 => inferInstanceAs (ToValue Int32)
  | int64 => inferInstanceAs (ToValue Int64)
  | uint8 => inferInstanceAs (ToValue UInt8)
  | uint16 => inferInstanceAs (ToValue UInt16)
  | uint32 => inferInstanceAs (ToValue UInt32)
  | uint64 => inferInstanceAs (ToValue UInt64)
  | float32 => inferInstanceAs (ToValue Binary32)
  | float64 => inferInstanceAs (ToValue Binary64)
  | decimal => inferInstanceAs (ToValue Decimal)
  | string => inferInstanceAs (ToValue String)
  | bytes => inferInstanceAs (ToValue (List UInt8))
  | instant => inferInstanceAs (ToValue Instant)
  | localTimestamp => inferInstanceAs (ToValue LocalTimestamp)
  | uuid => inferInstanceAs (ToValue Uuid)
  | json => inferInstanceAs (ToValue Json)

end FieldType

/-- The reading is the other one at the start of its microsecond. -/
def Timestamp.IsCutOf (kept given : Timestamp) : Prop :=
  kept.seconds = given.seconds ∧ 1000 ∣ kept.nanoseconds ∧
    kept.nanoseconds ≤ given.nanoseconds ∧ given.nanoseconds < kept.nanoseconds + 1000

/-- Whole microseconds are a cut. -/
theorem Timestamp.isCutOf_wholeMicroseconds (timestamp : Timestamp) :
    timestamp.wholeMicroseconds.IsCutOf timestamp := by
  unfold IsCutOf wholeMicroseconds
  refine ⟨rfl, ?_, ?_, ?_⟩ <;> simp only <;> omega

/-- What is read back of a content that was stored in a column: the content itself, as far as the
column keeps it. Of decimals only the number is kept, and under a precision only that of numbers
with the places of the scale. A document is kept if its text is one of it. -/
def Dialect.Keeps (dialect : Dialect) (column : Column) :
    (fieldType : FieldType) → (given kept : fieldType.Content) → Prop
  | .decimal, given, kept =>
    (∀ precision ∈ column.precision, HasPlaces (column.scale.getD 0) (Decimal.value given)) →
      Decimal.value kept = Decimal.value given
  | .string, given, kept => dialect.Cuts column given kept
  | .instant, given, kept => kept.universal.IsCutOf given.universal
  | .localTimestamp, given, kept => kept.wall.IsCutOf given.wall
  | .json, given, kept => Json.parse? (Json.render given) = some given → kept = given
  | _, given, kept => kept = given

/-- What is stored for a value is no null and is read back as the type, and whichever content the
value was lifted from is kept in it. -/
def Dialect.ReadsBack (dialect : Dialect) (column : Column) (fieldType : FieldType)
    (value stored : Value) : Prop :=
  stored.isNull = false ∧ ∃ content : fieldType.Content, ofValue stored = .ok content ∧
    ∀ given : fieldType.Content, toValue given = value →
      dialect.Keeps column fieldType given content

/-! ### Whole numbers -/

namespace Value

variable {value : Value} {number least greatest : Int}

/-- What writes a whole number is read as it between any bounds around it. -/
theorem readWhole_of_writes {typeName : String} (writes : value.Writes number)
    (lower : least ≤ number) (upper : number ≤ greatest) :
    value.readWhole least greatest typeName = .ok number := by
  cases writes with
  | int number => exact if_pos ⟨lower, upper⟩
  | decimal whole => simp [readWhole, whole, lower, upper]

theorem readInt64_of_writes (writes : value.Writes number)
    (lower : Int64.minValue.toInt ≤ number) (upper : number ≤ Int64.maxValue.toInt) :
    value.readInt64 = .ok number :=
  readWhole_of_writes writes lower upper

/-- Bounds within 64 bits are read in two steps, and both pass. -/
theorem readNarrow_of_writes {typeName : String} (writes : value.Writes number)
    (inside : least ≤ number ∧ number ≤ greatest) (lower : Int64.minValue.toInt ≤ least)
    (upper : greatest ≤ Int64.maxValue.toInt) :
    value.readNarrow least greatest typeName = .ok number := by
  rw [readNarrow, readInt64_of_writes writes (lower.trans inside.1) (inside.2.trans upper)]
  exact if_pos inside

/-- A natural of 64 bits is written by the value that it is lifted to. -/
theorem writes_ofNat64 (number : UInt64) : (ofNat64 number).Writes number.toNat := by
  have bound := number.toNat_lt
  unfold ofNat64
  split
  next narrow =>
    exact writes_int (Int.le_trans (by decide) (Int.natCast_nonneg _)) narrow
  next =>
    have room : number.toNat < Decimal.bound := bound.trans (by decide)
    have made : Decimal.ofInt? number.toNat =
        some ⟨(number.toNat : Int) < 0, number.toNat, 0, room, by decide⟩ :=
      dif_pos ⟨room, by decide⟩
    rw [made]
    exact writes_of_ofInt? made

end Value

/-- Values that write a number of the range are read as the type, and a content that is lifted to a
value of the same number is what was read. -/
def ReadsWhole (α : Type) [OfValue α] [ToValue α] (range : Int × Int) : Prop :=
  ∀ ⦃stored : Value⦄ ⦃number : Int⦄, range.1 ≤ number ∧ number ≤ range.2 → stored.Writes number →
    ∃ content : α, ofValue stored = .ok content ∧
      ∀ given : α, (toValue given).Writes number → content = given

/-- A type whose elements are whole numbers is read by making an element of the number. -/
theorem readsWhole_of_inverse {α : Type} [OfValue α] [ToValue α] {range : Int × Int}
    (make : Int → α) (number : α → Int)
    (reads : ∀ ⦃stored : Value⦄ ⦃whole : Int⦄, range.1 ≤ whole ∧ whole ≤ range.2 →
      stored.Writes whole → ofValue stored = .ok (make whole))
    (writes : ∀ given : α, (toValue given).Writes (number given))
    (inverse : ∀ given : α, make (number given) = given) : ReadsWhole α range := by
  intro stored whole inside written
  refine ⟨make whole, reads inside written, fun given same => ?_⟩
  rw [same.unique (writes given), inverse]

/-- A number that is lifted to 64 bits is written by what it is lifted to. -/
theorem writes_of_toInt {number : Int64} {whole : Int} (same : number.toInt = whole) :
    (Value.int number).Writes whole :=
  same ▸ .int number

theorem int8_readsWhole : ReadsWhole Int8 (Int8.minValue.toInt, Int8.maxValue.toInt) :=
  readsWhole_of_inverse Int8.ofInt Int8.toInt
    (fun _ _ inside written => congrArg (Except.map Int8.ofInt)
      (Value.readNarrow_of_writes written inside (by decide) (by decide)))
    (fun given => writes_of_toInt given.toInt_toInt64) Int8.ofInt_toInt

theorem int16_readsWhole : ReadsWhole Int16 (Int16.minValue.toInt, Int16.maxValue.toInt) :=
  readsWhole_of_inverse Int16.ofInt Int16.toInt
    (fun _ _ inside written => congrArg (Except.map Int16.ofInt)
      (Value.readNarrow_of_writes written inside (by decide) (by decide)))
    (fun given => writes_of_toInt given.toInt_toInt64) Int16.ofInt_toInt

theorem int32_readsWhole : ReadsWhole Int32 (Int32.minValue.toInt, Int32.maxValue.toInt) :=
  readsWhole_of_inverse Int32.ofInt Int32.toInt
    (fun _ _ inside written => congrArg (Except.map Int32.ofInt)
      (Value.readNarrow_of_writes written inside (by decide) (by decide)))
    (fun given => writes_of_toInt given.toInt_toInt64) Int32.ofInt_toInt

theorem int64_readsWhole : ReadsWhole Int64 (Int64.minValue.toInt, Int64.maxValue.toInt) :=
  readsWhole_of_inverse Int64.ofInt Int64.toInt
    (fun _ _ inside written => congrArg (Except.map Int64.ofInt)
      (Value.readInt64_of_writes written inside.1 inside.2))
    Value.Writes.int Int64.ofInt_toInt

theorem uint8_readsWhole : ReadsWhole UInt8 (0, UInt8.size - 1) :=
  readsWhole_of_inverse (fun whole => UInt8.ofNat whole.toNat) (fun given => given.toNat)
    (fun _ _ inside written => congrArg (Except.map _)
      (Value.readNarrow_of_writes written inside (by decide) (by decide)))
    (fun given => writes_of_toInt (Int64.toInt_ofNat_of_lt (given.toNat_lt.trans (by decide))))
    fun _ => UInt8.ofNat_toNat

theorem uint16_readsWhole : ReadsWhole UInt16 (0, UInt16.size - 1) :=
  readsWhole_of_inverse (fun whole => UInt16.ofNat whole.toNat) (fun given => given.toNat)
    (fun _ _ inside written => congrArg (Except.map _)
      (Value.readNarrow_of_writes written inside (by decide) (by decide)))
    (fun given => writes_of_toInt (Int64.toInt_ofNat_of_lt (given.toNat_lt.trans (by decide))))
    fun _ => UInt16.ofNat_toNat

theorem uint32_readsWhole : ReadsWhole UInt32 (0, UInt32.size - 1) :=
  readsWhole_of_inverse (fun whole => UInt32.ofNat whole.toNat) (fun given => given.toNat)
    (fun _ _ inside written => congrArg (Except.map _)
      (Value.readNarrow_of_writes written inside (by decide) (by decide)))
    (fun given => writes_of_toInt (Int64.toInt_ofNat_of_lt (given.toNat_lt.trans (by decide))))
    fun _ => UInt32.ofNat_toNat

theorem uint64_readsWhole : ReadsWhole UInt64 (0, UInt64.size - 1) :=
  readsWhole_of_inverse (fun whole => UInt64.ofNat whole.toNat) (fun given => given.toNat)
    (fun _ _ inside written => congrArg (Except.map _)
      (Value.readWhole_of_writes written inside.1 inside.2))
    Value.writes_ofNat64 fun _ => UInt64.ofNat_toNat

namespace Dialect

variable {dialect : Dialect} {column : Column} {value stored : Value}

/-- A column of whole numbers gives them back. -/
theorem readsBack_integer {fieldType : FieldType} {range : Int × Int}
    (kind : column.fieldType = fieldType) (ranged : fieldType.range? = some range)
    (reads : ReadsWhole fieldType.Content range)
    (keeps : ∀ content, dialect.Keeps column fieldType content content)
    (encoded : column.encodeInteger value = .ok stored) :
    dialect.ReadsBack column fieldType value stored := by
  obtain ⟨number, read, inside, written⟩ := Column.encodeInteger_eq_ok encoded
  obtain ⟨content, same, back⟩ := reads (inside range (by rw [kind, ranged]; rfl)) written
  refine ⟨by cases written <;> rfl, content, same, ?_⟩
  rintro other rfl
  exact back other read ▸ keeps content

/-! ### Flags, binary numbers and decimals -/

/-- A stored flag is read as it. -/
theorem readBool_flagValue (dialect : Dialect) (flag : Bool) :
    (dialect.flagValue flag).readBool = .ok flag := by
  unfold flagValue
  cases dialect.nativeBoolean <;> cases flag <;> rfl

theorem readsBack_bool (encoded : dialect.encodeBool column value = .ok stored) :
    dialect.ReadsBack column .bool value stored := by
  obtain ⟨flag, reads, rfl⟩ := encodeBool_eq_ok encoded
  refine ⟨?_, flag, readBool_flagValue dialect flag, ?_⟩
  · unfold flagValue
    cases dialect.nativeBoolean <;> rfl
  · rintro other rfl
    exact (Except.ok.inj reads).symm

theorem readsBack_float32 (encoded : column.encodeFloat value = .ok stored) :
    dialect.ReadsBack column .float32 value stored := by
  obtain ⟨number, reads, rfl, -⟩ := Column.encodeFloat_eq_ok encoded
  refine ⟨rfl, number.convert .single, rfl, ?_⟩
  rintro other rfl
  have wide : Binary.convert .double other = number := Except.ok.inj reads
  rw [← wide]
  exact Binary.convert_convert other

theorem readsBack_float64 (encoded : column.encodeFloat value = .ok stored) :
    dialect.ReadsBack column .float64 value stored := by
  obtain ⟨number, reads, rfl, -⟩ := Column.encodeFloat_eq_ok encoded
  refine ⟨rfl, number, rfl, ?_⟩
  rintro other rfl
  exact (Except.ok.inj reads).symm

theorem readsBack_decimal (encoded : column.encodeDecimal value = .ok stored) :
    dialect.ReadsBack column .decimal value stored := by
  obtain ⟨number, reads, fits⟩ := Column.encodeDecimal_eq_ok encoded
  obtain ⟨kept, rfl, -, exact⟩ := Column.fitDecimal_eq_ok fits
  refine ⟨rfl, kept, rfl, ?_⟩
  rintro other rfl
  cases Except.ok.inj reads
  exact exact

/-! ### Texts and byte strings -/

theorem readsBack_string (encoded : dialect.encodeText column value = .ok stored) :
    dialect.ReadsBack column .string value stored := by
  obtain ⟨content, kept, source, rfl, cuts, -⟩ := encodeText_eq_ok encoded
  refine ⟨rfl, kept, rfl, ?_⟩
  rintro other rfl
  exact source other rfl ▸ cuts

theorem readsBack_bytes (encoded : column.encodeBytes value = .ok stored) :
    dialect.ReadsBack column .bytes value stored := by
  obtain ⟨content, rfl, rfl, -⟩ := Column.encodeBytes_eq_ok encoded
  refine ⟨rfl, content, rfl, ?_⟩
  intro other same
  exact (Value.bytes.inj same).symm

/-- The canonical text of an identifier is read as it. -/
theorem readUuid_toText (identifier : Uuid) :
    (Value.text identifier.toText).readUuid = .ok identifier := by
  simp only [Value.readUuid, Uuid.parse, Uuid.ofText?_toText]

theorem readsBack_uuid (encoded : column.encodeUuid value = .ok stored) :
    dialect.ReadsBack column .uuid value stored := by
  obtain ⟨identifier, reads, rfl⟩ := Column.encodeUuid_eq_ok encoded
  have read : ∀ value : Value, (ofValue value : Except DecodeFault FieldType.uuid.Content) =
      value.readUuid := fun _ => rfl
  refine ⟨rfl, identifier, (read _).trans (readUuid_toText identifier), ?_⟩
  rintro other rfl
  exact (Except.ok.inj reads).symm

theorem readsBack_json (encoded : column.encodeJson value = .ok stored) :
    dialect.ReadsBack column .json value stored := by
  obtain ⟨content, document, rfl, rfl, parses⟩ := Column.encodeJson_eq_ok encoded
  have reads : (Value.text content).readJson = .ok document := by
    simp only [Value.readJson, parses]
  refine ⟨rfl, document, reads, ?_⟩
  intro other same renders
  have text : Json.render other = content := Value.text.inj same
  rw [text, parses] at renders
  exact Option.some.inj renders

/-! ### Times -/

theorem readsBack_instant (time : Instant) :
    dialect.ReadsBack column .instant (.instant time) (dialect.lower (.instant time)) := by
  refine ⟨rfl, ⟨time.universal.wholeMicroseconds⟩, rfl, ?_⟩
  rintro other ⟨⟩
  exact Timestamp.isCutOf_wholeMicroseconds _

theorem readsBack_localTimestamp (time : LocalTimestamp) :
    dialect.ReadsBack column .localTimestamp (.localTimestamp time)
      (dialect.lower (.localTimestamp time)) := by
  refine ⟨rfl, ⟨time.wall.wholeMicroseconds⟩, rfl, ?_⟩
  rintro other ⟨⟩
  exact Timestamp.isCutOf_wholeMicroseconds _

/-! ### Columns of every type -/

/-- Every column gives back what its encoder lets through. -/
theorem readsBack_of_encode (encoded : dialect.encode column value = .ok stored)
    (given : value.isNull = false) :
    dialect.ReadsBack column column.fieldType value stored := by
  cases kind : column.fieldType <;>
    simp only [encode, given, kind, Bool.false_eq_true, if_false] at encoded
  case bool => exact readsBack_bool encoded
  case int8 => exact readsBack_integer kind rfl int8_readsWhole (fun _ => rfl) encoded
  case int16 => exact readsBack_integer kind rfl int16_readsWhole (fun _ => rfl) encoded
  case int32 => exact readsBack_integer kind rfl int32_readsWhole (fun _ => rfl) encoded
  case int64 => exact readsBack_integer kind rfl int64_readsWhole (fun _ => rfl) encoded
  case uint8 => exact readsBack_integer kind rfl uint8_readsWhole (fun _ => rfl) encoded
  case uint16 => exact readsBack_integer kind rfl uint16_readsWhole (fun _ => rfl) encoded
  case uint32 => exact readsBack_integer kind rfl uint32_readsWhole (fun _ => rfl) encoded
  case uint64 => exact readsBack_integer kind rfl uint64_readsWhole (fun _ => rfl) encoded
  case float32 => exact readsBack_float32 encoded
  case float64 => exact readsBack_float64 encoded
  case decimal => exact readsBack_decimal encoded
  case string => exact readsBack_string encoded
  case bytes => exact readsBack_bytes encoded
  case instant =>
    cases value with
    | instant time => exact Except.ok.inj encoded ▸ readsBack_instant time
    | _ => cases encoded
  case localTimestamp =>
    cases value with
    | localTimestamp time => exact Except.ok.inj encoded ▸ readsBack_localTimestamp time
    | _ => cases encoded
  case uuid => exact readsBack_uuid encoded
  case json => exact readsBack_json encoded

/-- **A program reads back what it wrote.** Whatever the settings and the column, a value that the
encoder accepts is stored as the null only where it is the null, and is read as the type of the
column: the null as nothing, and everything else as a content, with or without the possibility of
nothing. And a content whose value the encoder accepts is read back as the column keeps it. -/
theorem ofValue_of_encode (dialect : Dialect) (column : Column) {value stored : Value}
    (encoded : dialect.encode column value = .ok stored) :
    (stored = .null ↔ value = .null) ∧
      (value = .null → (ofValue stored : Except DecodeFault (Option column.fieldType.Content)) =
        .ok none) ∧
      (value ≠ .null → ∃ content : column.fieldType.Content,
        ofValue stored = .ok content ∧ ofValue stored = .ok (some content) ∧
          ∀ given : column.fieldType.Content, toValue given = value →
            dialect.Keeps column column.fieldType given content) := by
  cases isNull : value.isNull with
  | true =>
    cases value with
    | null =>
      cases encoded
      exact ⟨Iff.rfl, fun _ => rfl, fun given => absurd rfl given⟩
    | _ => cases isNull
  | false =>
    obtain ⟨some, content, reads, keeps⟩ := readsBack_of_encode encoded isNull
    have optional : (ofValue stored : Except DecodeFault (Option column.fieldType.Content)) =
        .ok (.some content) := by
      change (if stored.isNull then _ else (ofValue stored).map Option.some) = _
      rw [some, reads]
      rfl
    refine ⟨⟨?_, ?_⟩, ?_, fun _ => ⟨content, reads, optional, keeps⟩⟩
    · rintro rfl
      cases some
    · rintro rfl
      cases isNull
    · rintro rfl
      cases isNull

/-- The greatest unsigned number of 64 bits is stored as a decimal, and read back. -/
theorem ofValue_of_encode_greatest :
    let column : Column := { name := "SERIAL", fieldType := .uint64 }
    ∃ stored, ({} : Dialect).encode column (toValue (18446744073709551615 : UInt64)) = .ok stored ∧
      (ofValue stored : Except DecodeFault UInt64) = .ok 18446744073709551615 := by
  intro column
  have encoded : ({} : Dialect).encode column (toValue (18446744073709551615 : UInt64)) =
      .ok (.decimal ⟨false, 18446744073709551615, 0, by decide, by decide⟩) := by
    decide +kernel
  obtain ⟨-, -, reads⟩ := ofValue_of_encode {} column encoded
  obtain ⟨content, same, -, keeps⟩ := reads (by decide)
  have kept : content = (18446744073709551615 : UInt64) := keeps _ rfl
  exact ⟨_, encoded, same.trans (congrArg Except.ok kept)⟩

end Dialect

end OracleSql
