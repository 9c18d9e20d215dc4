/-
This file reads back what the dictionary reports about columns. A type is reported under its name
with its numbers in columns of their own; a timestamp has its precision and its zone in the name,
too. Every type that a declared column is stored as comes back as itself, since names and numbers
have room in what they are read as.
-/

import OracleSql.Migration.Dictionary
import OracleSql.Proofs.Outcome
import OracleSql.Proofs.Runs
import OracleSql.Proofs.Styles.Names

namespace OracleSql

/-! ### Names of types -/

namespace Text

/-- A text of capitals and signs is its own upper case. -/
theorem foldUpper_eq_self {text : String}
    (upper : ∀ letter ∈ text.toList, letter.toUpper = letter) :
    foldUpper text = text := by
  rw [foldUpper, List.map_congr_left (g := id) upper, List.map_id, String.ofList_toList]

end Text

namespace ColumnType

/-- How the dictionary reports a type. -/
def ReportedAs (reported : Reported) : ColumnType → Prop
  | number precision scale =>
    reported.dataType = "NUMBER" ∧ reported.precision = precision.map Int.ofNat ∧
      reported.scale = scale
  | binaryFloat => reported.dataType = "BINARY_FLOAT"
  | binaryDouble => reported.dataType = "BINARY_DOUBLE"
  | varchar size => reported.dataType = "VARCHAR2" ∧ reported.charLength = some (size : Int)
  | char size => reported.dataType = "CHAR" ∧ reported.charLength = some (size : Int)
  | clob => reported.dataType = "CLOB"
  | raw size => reported.dataType = "RAW" ∧ reported.dataLength = some (size : Int)
  | blob => reported.dataType = "BLOB"
  | timestamp zone precision =>
    reported.dataType = (timestamp zone precision).sql ∧ reported.scale = some (precision : Int)
  | date => reported.dataType = "DATE"
  | boolean => reported.dataType = "BOOLEAN"
  | other name => reported.dataType = name

/-- The types whose numbers have room in what the dictionary is read as, and whose name is known. -/
def Fits : ColumnType → Prop
  | number precision scale =>
    (∀ digits ∈ precision, digits < 256) ∧ ∀ places ∈ scale, -128 ≤ places ∧ places ≤ 127
  | varchar size => size < UInt32.size
  | char size => size < UInt32.size
  | raw size => size < UInt32.size
  | timestamp _ precision => precision < 256
  | other _ => False
  | _ => True

theorem bounded?_ofNat {limit number : Nat} (below : number < limit) :
    bounded? limit (some (number : Int)) = some number := by
  unfold bounded?
  rw [Option.bind_some, if_pos ⟨by omega, by omega⟩, Int.toNat_natCast]

theorem lengthOf_ofNat {size : Nat} (below : size < UInt32.size) :
    lengthOf (some (size : Int)) = size := by
  rw [lengthOf, bounded?_ofNat below]
  rfl

theorem toList_timestamp (zone : TimestampZone) (precision : Nat) :
    (timestamp zone precision).sql.toList =
      "TIMESTAMP".toList ++
        ('(' :: ((toString precision).toList ++ ')' :: (zoneSql zone).toList)) := by
  simp [sql]

/-- The name of a timestamp is neither trimmed nor changed to upper case. -/
theorem name_timestamp (zone : TimestampZone) (precision : Nat) :
    Text.foldUpper (Text.trim (timestamp zone precision).sql) = (timestamp zone precision).sql := by
  have capital {letters : List Char}
      (upper : letters.all (fun letter => letter.toUpper == letter) = true) :
      ∀ letter ∈ letters, letter.toUpper = letter := fun letter member =>
    eq_of_beq (List.all_eq_true.mp upper letter member)
  rw [Text.trim_eq_self, Text.foldUpper_eq_self]
  · intro letter member
    simp only [toList_timestamp, List.mem_append, List.mem_cons] at member
    rcases member with first | rfl | digit | rfl | last
    · have upper : "TIMESTAMP".toList.all (fun letter => letter.toUpper == letter) = true := by
        decide +kernel
      exact capital upper _ first
    · rfl
    · exact toUpper_of_isDigit (isDigit_of_mem_toString digit)
    · rfl
    · have upper : (zoneSql zone).toList.all (fun letter => letter.toUpper == letter) = true := by
        cases zone <;> decide +kernel
      exact capital upper _ last
  · intro letter member
    rw [toList_timestamp] at member
    cases member
    decide +kernel
  · have ends : (')' :: (zoneSql zone).toList).getLast?.all
        (fun letter => !Text.isBlank letter) = true := by
      cases zone <;> decide +kernel
    intro letter member
    rw [toList_timestamp, ← List.cons_append, ← List.append_assoc,
      List.getLast?_append_cons] at member
    exact (Bool.not_eq_true' _).mp ((Option.all_eq_true _ _).mp ends letter member)

/-- The zone of a timestamp is in its name, and its precision where one is known. -/
theorem ofReported_timestamp {reported : Reported} {zone : TimestampZone} {digits precision : Nat}
    (name : reported.dataType = (timestamp zone digits).sql)
    (known : ((bounded? 256 reported.scale).or (inParentheses?
      ('(' :: ((toString digits).toList ++ ')' :: (zoneSql zone).toList)))).getD 6 = precision) :
    ofReported reported = timestamp zone precision := by
  unfold ofReported
  simp only [name, name_timestamp, toList_timestamp]
  have dropped (rest : List Char) :
      ("TIMESTAMP".toList ++ rest).drop "TIMESTAMP".length = rest := List.drop_left
  rw [if_pos (List.isPrefixOf_iff_prefix.mpr (List.prefix_append _ _)), dropped, known]
  cases zone
  · simp [zoneSql, List.isSuffixOf]
  · simp [zoneSql, List.isSuffixOf]
  · simp [zoneSql, List.isSuffixOf]

/-- The names of the types that are no timestamps. -/
def plainNames : List String :=
  ["NUMBER", "BINARY_FLOAT", "BINARY_DOUBLE", "VARCHAR2", "CHAR", "CLOB", "RAW", "BLOB", "DATE",
    "BOOLEAN"]

theorem name_plain {name : String} (listed : name ∈ plainNames) :
    Text.foldUpper (Text.trim name) = name ∧ ¬ "TIMESTAMP".toList.isPrefixOf name.toList = true :=
  (by decide +kernel : ∀ name ∈ plainNames, Text.foldUpper (Text.trim name) = name ∧
    ¬ "TIMESTAMP".toList.isPrefixOf name.toList = true) name listed

/-- A type is read as what it is from what the dictionary reports. -/
theorem ofReported_of_reportedAs {columnType : ColumnType} {reported : Reported}
    (shown : columnType.ReportedAs reported) (fits : columnType.Fits) :
    ofReported reported = columnType := by
  have plain {name : String} (listed : name ∈ plainNames) (is : reported.dataType = name) :
      Text.foldUpper (Text.trim reported.dataType) = name ∧
        ¬ "TIMESTAMP".toList.isPrefixOf name.toList = true := is ▸ name_plain (is ▸ listed)
  cases columnType with
  | number precision scale =>
    obtain ⟨name, digits, places⟩ := shown
    obtain ⟨known, other⟩ := plain (by decide) name
    have whole : bounded? 256 (precision.map Int.ofNat) = precision := by
      cases precision with
      | none => rfl
      | some number => exact bounded?_ofNat (fits.1 number rfl)
    have kept : (scale.filter fun scale => -128 ≤ scale && scale ≤ 127) = scale := by
      cases scale with
      | none => rfl
      | some number =>
        obtain ⟨least, greatest⟩ := fits.2 number rfl
        simp [Option.filter, least, greatest]
    unfold ofReported
    simp only [known, other]
    rw [if_neg Bool.false_ne_true, digits, places, whole, kept]
  | varchar size =>
    obtain ⟨known, other⟩ := plain (by decide) shown.1
    unfold ofReported
    simp only [known, other]
    rw [if_neg Bool.false_ne_true, shown.2, lengthOf_ofNat fits]
  | char size =>
    obtain ⟨known, other⟩ := plain (by decide) shown.1
    unfold ofReported
    simp only [known, other]
    rw [if_neg Bool.false_ne_true, shown.2, lengthOf_ofNat fits]
  | raw size =>
    obtain ⟨known, other⟩ := plain (by decide) shown.1
    unfold ofReported
    simp only [known, other]
    rw [if_neg Bool.false_ne_true, shown.2, lengthOf_ofNat fits]
  | timestamp zone precision =>
    refine ofReported_timestamp shown.1 ?_
    rw [shown.2, bounded?_ofNat fits]
    rfl
  | other name => exact fits.elim
  | _ =>
    obtain ⟨known, other⟩ := plain (by decide) shown
    unfold ofReported
    simp only [known, other]
    rfl

end ColumnType

/-! ### Types of declared columns -/

/-- The settings that bound types have room in their widths, 32 and 8 bits. -/
structure Dialect.HasRoom (dialect : Dialect) : Prop where
  varchar : dialect.maxVarcharLength < UInt32.size
  timestamp : dialect.timestampPrecision < 256

namespace Column

variable {column : Column}

theorem precision_of_good (good : column.fault? = none) :
    column.precision.bind (precisionFault? column.fieldType) = none ∧
      column.scale.bind column.scaleFault? = none := by
  unfold fault? at good
  split at good
  · cases good
  · split at good
    · cases good
    · obtain ⟨precision, others⟩ := Option.or_eq_none_iff.mp good
      exact ⟨precision, (Option.or_eq_none_iff.mp others).1⟩

/-- No precision is above 38. -/
theorem precision_le (good : column.fault? = none) {precision : Nat}
    (given : column.precision = some precision) : precision ≤ 38 := by
  have accepted := (precision_of_good good).1
  rw [given, Option.bind_some] at accepted
  unfold precisionFault? at accepted
  split at accepted
  · split at accepted
    · cases accepted
    · omega
  · split at accepted
    · cases accepted
    · omega
  · split at accepted
    · cases accepted
    · omega
  · cases accepted

/-- Scales have bounds too. -/
theorem scale_bounds (good : column.fault? = none) {scale : Int}
    (given : column.scale = some scale) : -84 ≤ scale ∧ scale ≤ 127 := by
  have accepted := (precision_of_good good).2
  rw [given, Option.bind_some] at accepted
  unfold scaleFault? at accepted
  split at accepted
  · cases accepted
  · split at accepted
    · cases accepted
    · omega

end Column

/-- The type of a column without faults is read as what it is. -/
theorem Dialect.fits_typeOf {dialect : Dialect} {column : Column} (room : dialect.HasRoom)
    (good : column.fault? = none) : (dialect.typeOf column).Fits := by
  have seconds : column.precision.getD dialect.timestampPrecision < 256 := by
    cases given : column.precision with
    | none => exact room.timestamp
    | some precision => exact (Column.precision_le good given).trans_lt (by decide)
  unfold Dialect.typeOf
  cases kind : column.fieldType with
  | decimal =>
    cases given : column.precision with
    | none => simp [ColumnType.Fits]
    | some precision =>
      have digits := Column.precision_le good given
      cases placed : column.scale with
      | none => simp [ColumnType.Fits]; omega
      | some scale =>
        have places := Column.scale_bounds good placed
        simp [ColumnType.Fits]; omega
  | string =>
    cases column.size with
    | none => trivial
    | some size =>
      dsimp only
      split
      · exact Nat.lt_of_le_of_lt ‹_› room.varchar
      · trivial
  | bytes =>
    cases column.size with
    | none => trivial
    | some size =>
      dsimp only
      split
      · exact Nat.lt_of_le_of_lt ‹_› (by decide)
      · trivial
  | instant => exact seconds
  | localTimestamp => exact seconds
  | uuid => exact (by decide : 36 < UInt32.size)
  | bool =>
    dsimp only
    split
    · trivial
    · simp [ColumnType.Fits]
  | _ => simp [ColumnType.Fits]

/-! ### Rows about columns -/

/-- The row of a column with this name, this report of its type and this nullness. -/
structure Row.Reports (row : Row) (name : String) (reported : ColumnType.Reported)
    (nullable : Bool) : Prop where
  name : row.get "COLUMN_NAME" = .ok name
  dataType : row.get "DATA_TYPE" = .ok reported.dataType
  precision : Dictionary.optionalNumber row "DATA_PRECISION" = .ok reported.precision
  scale : Dictionary.optionalNumber row "DATA_SCALE" = .ok reported.scale
  charLength : Dictionary.optionalNumber row "CHAR_LENGTH" = .ok reported.charLength
  dataLength : Dictionary.optionalNumber row "DATA_LENGTH" = .ok reported.dataLength
  nullable : row.get "NULLABLE" = .ok (if nullable then "Y" else "N")

/-- A row is read as what it reports. -/
theorem Row.Reports.liveColumn_eq {row : Row} {name : String} {reported : ColumnType.Reported}
    {nullable : Bool} (reports : row.Reports name reported nullable) :
    Dictionary.liveColumn row = .ok ⟨name, ColumnType.ofReported reported, nullable⟩ := by
  have flag : ((if nullable then "Y" else "N") == "Y") = nullable := by
    cases nullable <;> decide
  refine bind_eq_ok.mpr ⟨_, reports.dataType, ?_⟩
  refine bind_eq_ok.mpr ⟨_, reports.precision, ?_⟩
  refine bind_eq_ok.mpr ⟨_, reports.scale, ?_⟩
  refine bind_eq_ok.mpr ⟨_, reports.charLength, ?_⟩
  refine bind_eq_ok.mpr ⟨_, reports.dataLength, ?_⟩
  refine bind_eq_ok.mpr ⟨_, reports.nullable, ?_⟩
  refine bind_eq_ok.mpr ⟨_, reports.name, ?_⟩
  rw [flag]

/-- A row that describes a column. -/
structure LiveColumn.ShownBy (column : LiveColumn) (row : Row) (reported : ColumnType.Reported) :
    Prop where
  reportedAs : column.columnType.ReportedAs reported
  dataType : row.get "DATA_TYPE" = .ok reported.dataType
  precision : Dictionary.optionalNumber row "DATA_PRECISION" = .ok reported.precision
  scale : Dictionary.optionalNumber row "DATA_SCALE" = .ok reported.scale
  charLength : Dictionary.optionalNumber row "CHAR_LENGTH" = .ok reported.charLength
  dataLength : Dictionary.optionalNumber row "DATA_LENGTH" = .ok reported.dataLength
  nullable : row.get "NULLABLE" = .ok (if column.nullable then "Y" else "N")
  name : row.get "COLUMN_NAME" = .ok column.name

theorem LiveColumn.ShownBy.reports {column : LiveColumn} {row : Row}
    {reported : ColumnType.Reported} (shown : column.ShownBy row reported) :
    row.Reports column.name reported column.nullable :=
  ⟨shown.name, shown.dataType, shown.precision, shown.scale, shown.charLength, shown.dataLength,
    shown.nullable⟩

/-- The column is read from the row that describes it. -/
theorem LiveColumn.ShownBy.liveColumn_eq {column : LiveColumn} {row : Row}
    {reported : ColumnType.Reported} (shown : column.ShownBy row reported)
    (fits : column.columnType.Fits) : Dictionary.liveColumn row = .ok column := by
  rw [shown.reports.liveColumn_eq, ColumnType.ofReported_of_reportedAs shown.reportedAs fits]

end OracleSql
