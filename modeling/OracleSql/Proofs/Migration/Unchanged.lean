/-
This file proves that a column which has not changed is left as it is. The type of a declared column
is written in its definition, and the dictionary reports the column in rows of its own: under the
name of the type, in letters of any case, with the numbers in columns for digits, places and
lengths.
What is read from such a row is the declared type again, whether or not a timestamp is reported with
its precision, so that the comparison finds nothing to modify and nothing to skip.
-/

import OracleSql.Proofs.Column.Stored
import OracleSql.Proofs.Column.Widening
import OracleSql.Proofs.Migration.Parts
import OracleSql.Proofs.Migration.Reported

namespace OracleSql

/-! ### Names in letters of any case -/

namespace Text

/-- The text is shown with blanks around it, in letters of any case. -/
def ShownAs (text shown : String) : Prop :=
  ∃ before letters after : List Char, shown.toList = before ++ letters ++ after ∧
    (∀ letter ∈ before, isBlank letter = true) ∧ (∀ letter ∈ after, isBlank letter = true) ∧
    letters.map Char.toUpper = text.toList.map Char.toUpper

theorem isBlank_toUpper (letter : Char) : isBlank letter.toUpper = isBlank letter := by
  by_cases small : letter.toNat < 0x80
  · have each : ∀ code < 0x80, isBlank (Char.ofNat code).toUpper = isBlank (Char.ofNat code) := by
      decide +kernel
    have same := each _ small
    rwa [Char.ofNat_toNat] at same
  · rw [toUpper_of_large small]

/-- Blanks at either end do not matter to what is left when they are taken away. -/
theorem trimEnd_dropWhile_append {before letters after : List Char}
    (first : ∀ letter ∈ before, isBlank letter = true)
    (last : ∀ letter ∈ after, isBlank letter = true) :
    trimEnd ((before ++ letters ++ after).dropWhile isBlank) =
      trimEnd (letters.dropWhile isBlank) := by
  have ending (some : List Char) : trimEnd (some ++ after) = trimEnd some := by
    rw [trimEnd, List.reverse_append, List.dropWhile_append_of_pos
      fun letter member => last letter (List.mem_reverse.mp member), trimEnd]
  rw [List.append_assoc, List.dropWhile_append_of_pos first, List.dropWhile_append]
  split
  next none => rw [List.isEmpty_iff.mp none, List.dropWhile_eq_nil_iff.mpr last]
  next => exact ending _

theorem map_toUpper_trimEnd (letters : List Char) :
    (trimEnd (letters.dropWhile isBlank)).map Char.toUpper =
      trimEnd ((letters.map Char.toUpper).dropWhile isBlank) := by
  have same : isBlank ∘ Char.toUpper = isBlank := funext isBlank_toUpper
  rw [trimEnd, trimEnd, List.dropWhile_map, same, ← List.map_reverse, List.dropWhile_map, same,
    List.map_reverse]

/-- However a text is shown, it is read as the same. -/
theorem ShownAs.foldUpper_trim {text shown : String} (shows : ShownAs text shown) :
    foldUpper (trim shown) = foldUpper (trim text) := by
  obtain ⟨before, letters, after, whole, first, last, same⟩ := shows
  rw [foldUpper, foldUpper, trim, trim, String.toList_ofList, String.toList_ofList, whole,
    trimEnd_dropWhile_append first last, map_toUpper_trimEnd, map_toUpper_trimEnd, same]

end Text

/-! ### Reports of columns -/

namespace ColumnType

open Text (ShownAs)

/-- How the dictionary describes a column that is defined with the text of a type: under the name of
the type, with the numbers in columns of their own. A number without places has none behind the
point; a timestamp has its precision in its name, and its places may be left out. -/
structure Describes (text : String) (reported : Reported) : Prop where
  number : text = "NUMBER" →
    ShownAs "NUMBER" reported.dataType ∧ reported.precision = none ∧ reported.scale = none
  whole : ∀ digits : Nat, text = "NUMBER(" ++ toString digits ++ ")" →
    ShownAs "NUMBER" reported.dataType ∧ reported.precision = some (digits : Int) ∧
      reported.scale = some 0
  places : ∀ (digits : Nat) (places : Int),
    text = "NUMBER(" ++ toString digits ++ "," ++ toString places ++ ")" →
      ShownAs "NUMBER" reported.dataType ∧ reported.precision = some (digits : Int) ∧
        reported.scale = some places
  varchar : ∀ size : Nat, text = "VARCHAR2(" ++ toString size ++ " CHAR)" →
    ShownAs "VARCHAR2" reported.dataType ∧ reported.charLength = some (size : Int)
  char : ∀ size : Nat, text = "CHAR(" ++ toString size ++ ")" →
    ShownAs "CHAR" reported.dataType ∧ reported.charLength = some (size : Int)
  raw : ∀ size : Nat, text = "RAW(" ++ toString size ++ ")" →
    ShownAs "RAW" reported.dataType ∧ reported.dataLength = some (size : Int)
  timestamp : ∀ (precision : Nat), ∀ zone ∈ ["", " WITH TIME ZONE", " WITH LOCAL TIME ZONE"],
    text = "TIMESTAMP(" ++ toString precision ++ ")" ++ zone →
      ShownAs text reported.dataType ∧
        (reported.scale = none ∨ reported.scale = some (precision : Int))
  plain : text ∈ ["BINARY_FLOAT", "BINARY_DOUBLE", "CLOB", "BLOB", "DATE", "BOOLEAN"] →
    ShownAs text reported.dataType

variable {reported : Reported}

/-- The case of a name and the blanks around it do not matter. -/
theorem ofReported_of_shownAs {name : String} (shows : ShownAs name reported.dataType) :
    ofReported reported = ofReported { reported with dataType := name } := by
  unfold ofReported
  simp only [shows.foldUpper_trim]

theorem byteNumber?_toString {number : Nat} (below : number < 256) :
    byteNumber? (toString number).toList = some number := by
  have digits : (toString number).toList = Nat.toDigits 10 number := Nat.toList_repr
  have digit : (toString number).toList.all Char.isDigit = true :=
    List.all_eq_true.mpr fun letter => isDigit_of_mem_toString
  have present : (toString number).toList.isEmpty = false := by
    rw [digits, List.isEmpty_eq_false_iff]
    exact Nat.toDigits_ne_nil
  have unsigned : ((toString number).toList.head? == some '+') = false := by
    rw [beq_eq_false_iff_ne]
    intro plus
    exact absurd (isDigit_of_mem_toString (List.mem_of_head? plus)) (by decide)
  have value : (toString number).toList.foldl (fun sum digit => 10 * sum + (digit.toNat - 48)) 0 =
      number := by
    rw [digits]
    exact Nat.ofDigitChars_ten_toDigits
  simp only [byteNumber?, unsigned, Bool.false_eq_true, if_false, present, digit, value,
    if_pos below, Bool.not_true, Bool.or_self]

/-- The number in the name of a timestamp is its precision. -/
theorem inParentheses?_digits {precision : Nat} (below : precision < 256) (zone : List Char) :
    inParentheses? ('(' :: ((toString precision).toList ++ ')' :: zone)) = some precision := by
  have inside : ∀ letter ∈ (toString precision).toList, (letter != ')') = true := by
    intro letter member
    refine bne_iff_ne.mpr ?_
    rintro rfl
    exact absurd (isDigit_of_mem_toString member) (by decide)
  have visible : ∀ letter ∈ (toString precision).toList, Text.isBlank letter = false := by
    intro letter member
    have each : ∀ code < 58, (Char.ofNat code).isDigit = true →
        Text.isBlank (Char.ofNat code) = false := by decide
    have digit := isDigit_of_mem_toString member
    have below : letter.toNat < 58 := by
      simp only [Char.isDigit, Bool.and_eq_true, decide_eq_true_eq] at digit
      exact Nat.lt_succ_of_le digit.2
    have same := each letter.toNat below
    rw [Char.ofNat_toNat] at same
    exact same digit
  have digits : ((toString precision).toList ++ ')' :: zone).takeWhile (· != ')') =
      (toString precision).toList := by
    rw [List.takeWhile_append_of_pos inside, List.takeWhile_cons_of_neg (by decide),
      List.append_nil]
  have trimmed : Text.trim (toString precision) = toString precision :=
    Text.trim_eq_self (fun letter member => visible letter (List.mem_of_head? member))
      fun letter member => visible letter (List.mem_of_getLast? member)
  unfold inParentheses?
  rw [List.dropWhile_cons_of_neg (by decide), if_pos (by simp), List.tail_cons, digits,
    String.ofList_toList, trimmed, byteNumber?_toString below]

/-- The type of a column is read back as it was declared from what the dictionary reports, where a
number has both digits and places or neither. -/
theorem ofReported_of_describes {columnType : ColumnType} (fits : columnType.Fits)
    (paired : ∀ precision scale, columnType = .number precision scale →
      precision.isSome = scale.isSome)
    (described : Describes columnType.sql reported) : ofReported reported = columnType := by
  -- Under its own name the type is reported as it is told from others.
  have named {name : String} (shows : ShownAs name reported.dataType)
      (shown : columnType.ReportedAs { reported with dataType := name }) :
      ofReported reported = columnType :=
    (ofReported_of_shownAs shows).trans (ofReported_of_reportedAs shown fits)
  cases columnType with
  | number precision scale =>
    cases precision with
    | none =>
      obtain ⟨shows, digits, places⟩ := described.number rfl
      cases scale with
      | none => exact named shows ⟨rfl, digits, places⟩
      | some scale => cases paired none (some scale) rfl
    | some precision =>
      cases scale with
      | none => cases paired (some precision) none rfl
      | some scale =>
        by_cases zero : scale = 0
        · obtain ⟨shows, digits, places⟩ := described.whole precision (by rw [sql, if_pos zero])
          exact named shows ⟨rfl, digits, zero ▸ places⟩
        · obtain ⟨shows, digits, places⟩ :=
            described.places precision scale (by rw [sql, if_neg zero])
          exact named shows ⟨rfl, digits, places⟩
  | varchar size =>
    obtain ⟨shows, length⟩ := described.varchar size rfl
    exact named shows ⟨rfl, length⟩
  | char size =>
    obtain ⟨shows, length⟩ := described.char size rfl
    exact named shows ⟨rfl, length⟩
  | raw size =>
    obtain ⟨shows, length⟩ := described.raw size rfl
    exact named shows ⟨rfl, length⟩
  | timestamp zone precision =>
    have listed : zoneSql zone ∈ ["", " WITH TIME ZONE", " WITH LOCAL TIME ZONE"] := by
      cases zone <;> decide
    obtain ⟨shows, scale⟩ := described.timestamp precision _ listed rfl
    rcases scale with left | given
    · rw [ofReported_of_shownAs shows]
      refine ofReported_timestamp rfl ?_
      rw [left, inParentheses?_digits fits]
      rfl
    · exact named shows ⟨rfl, given⟩
  | other name => exact fits.elim
  | binaryFloat => exact named (described.plain (by decide)) rfl
  | binaryDouble => exact named (described.plain (by decide)) rfl
  | clob => exact named (described.plain (by decide)) rfl
  | blob => exact named (described.plain (by decide)) rfl
  | date => exact named (described.plain (by decide)) rfl
  | boolean => exact named (described.plain (by decide)) rfl

end ColumnType

/-! ### Columns that have not changed -/

/-- Settings in range bound the types of columns. -/
theorem Dialect.hasRoom_of_check {dialect : Dialect} (valid : dialect.check = .ok ()) :
    dialect.HasRoom := by
  obtain ⟨_, _, _, ⟨_, varchar⟩, timestamp, _⟩ := Dialect.check_eq_ok_iff.mp valid
  exact ⟨varchar.trans_lt (by decide), timestamp.trans_lt (by decide)⟩

theorem Dialect.ofReported_of_columnType {dialect : Dialect} (valid : dialect.check = .ok ())
    {column : Column} {declared : ColumnType} (typed : dialect.columnType column = .ok declared)
    {reported : ColumnType.Reported} (described : ColumnType.Describes declared.sql reported) :
    ColumnType.ofReported reported = declared := by
  have same := typeOf_of_columnType typed
  have good : column.fault? = none := by
    unfold columnType at typed
    cases fault : column.fault? with
    | none => rfl
    | some fault =>
      rw [fault] at typed
      cases typed
  have fits : declared.Fits := same ▸ fits_typeOf (hasRoom_of_check valid) good
  exact ColumnType.ofReported_of_describes fits
    (fun _ _ number => isSome_eq_of_typeOf (same.trans number)) described

/-- Whether a definition changes a column that is there. -/
def Definition.modifies : Definition → Bool
  | modifyType _ _ _ => true
  | modifyNullness _ _ _ => true
  | _ => false

theorem Definition.modifies_of_furnishes {definition : Definition}
    (furnishes : definition.furnishes = true) : definition.modifies = false := by
  cases definition <;> first | rfl | cases furnishes

/-- A column with the declared type and nullness gets a comment at most. -/
theorem Difference.ofColumn_of_same {dialect : Dialect} {table : Table} {column : Column}
    {declared : ColumnType} (typed : dialect.columnType column = .ok declared) {live : LiveTable}
    {current : LiveColumn} (found : dialect.Finds live column current)
    (same : current.columnType.compare declared = .same)
    (nullness : current.nullable = table.allowsNull column) {difference : Difference}
    (built : ofColumn dialect table live column = .ok difference) :
    (∀ definition ∈ difference.definitions, definition.modifies = false) ∧
      difference.skipped = [] := by
  obtain ⟨name, stored, there⟩ := found
  obtain ⟨_, types, nulls, comment, known, first, second, third, rfl⟩ :=
    (ofColumn_eq_ok_iff stored there).mp built
  rw [typed] at known
  cases known
  obtain ⟨furnishes, skips⟩ := furnishing_ofComment third
  have unmodified : types = {} := by
    rw [ofType, same] at first
    exact (Except.ok.inj first).symm
  have kept : nulls = {} := by
    rw [ofNullness, nullness, Bool.and_not_self, Bool.not_and_self] at second
    exact (Except.ok.inj second).symm
  rw [unmodified, kept]
  exact ⟨fun definition member => Definition.modifies_of_furnishes (furnishes definition member),
    skips⟩

/-- **Types are read back as declared.** With settings in range, what the dictionary reports of a
column that is defined with the type of its declaration is read as a type that is the same to the
comparison. So a column that is there as it was declared is found by its row, and nothing of it is
modified or skipped. -/
theorem Dialect.unchanged_stays {dialect : Dialect} (valid : dialect.check = .ok ())
    {column : Column} {declared : ColumnType} (typed : dialect.columnType column = .ok declared)
    {reported : ColumnType.Reported} (described : ColumnType.Describes declared.sql reported) :
    (ColumnType.ofReported reported).compare declared = .same ∧
      ∀ row name nullable, row.Reports name reported nullable →
        ∃ current : LiveColumn, Dictionary.liveColumn row = .ok current ∧ current.name = name ∧
          ∀ table live difference, nullable = Table.allowsNull table column →
            dialect.Finds live column current →
            Difference.ofColumn dialect table live column = .ok difference →
            (∀ definition ∈ difference.definitions, definition.modifies = false) ∧
              difference.skipped = [] := by
  have read := Dialect.ofReported_of_columnType valid typed described
  have same : declared.compare declared = .same := if_pos rfl
  constructor
  · rw [read]
    exact same
  · intro row name nullable reports
    have there := reports.liveColumn_eq
    rw [read] at there
    refine ⟨⟨name, declared, nullable⟩, there, rfl, ?_⟩
    intro table live difference nullness found built
    exact Difference.ofColumn_of_same typed found same nullness built

/-- A timestamp of the session, reported in small letters and without its places. -/
theorem Dialect.unchanged_stays_timestamp :
    let reported : ColumnType.Reported := { dataType := " Timestamp(3) with local time zone " }
    let declared := ColumnType.timestamp .session 3
    ColumnType.Describes declared.sql reported ∧
      (ColumnType.ofReported reported).compare declared = .same := by
  intro reported declared
  have text : declared.sql = "TIMESTAMP(3) WITH LOCAL TIME ZONE" := by decide
  have shows : Text.ShownAs declared.sql reported.dataType :=
    ⟨[' '], "Timestamp(3) with local time zone".toList, [' '], by decide,
      List.forall_mem_singleton.mpr rfl, List.forall_mem_singleton.mpr rfl, by decide +kernel⟩
  have other (letter : Char) {written : String} (apart : letter ≠ 'T')
      (first : written.toList.head? = some letter) (same : declared.sql = written) : False := by
    have start : declared.sql.toList.head? = some 'T' := by
      rw [text]
      rfl
    rw [same] at start
    exact apart (Option.some.inj (first.symm.trans start))
  have described : ColumnType.Describes declared.sql reported := {
    number := fun same => (other 'N' (by decide) rfl same).elim
    whole := fun _ same => (other 'N' (by decide) (by simp) same).elim
    places := fun _ _ same => (other 'N' (by decide) (by simp) same).elim
    varchar := fun _ same => (other 'V' (by decide) (by simp) same).elim
    char := fun _ same => (other 'C' (by decide) (by simp) same).elim
    raw := fun _ same => (other 'R' (by decide) (by simp) same).elim
    timestamp := fun _ _ _ _ => ⟨shows, .inl rfl⟩
    plain := fun _ => shows }
  have typed : ({} : Dialect).columnType
      { name := "at", fieldType := .localTimestamp, precision := some 3 } = .ok declared := by
    decide
  exact ⟨described, (unchanged_stays (by decide) typed described).1⟩

end OracleSql
