/-
This file holds the settings of the dialect: how names are cased and shortened, how markers and
pages are written, what the server and its driver can do, and how many rows and values one statement
may carry. The settings are chosen once and then only read. `check` says which of them lie outside
their range; of several faults the first in the order of the checks is reported.
-/

import OracleSql.Text.Blank

namespace OracleSql

/-! ### Choices -/

/-- How bare names are cased before they are quoted. -/
inductive IdentifierCase where
  | upper
  | preserve
  deriving DecidableEq

/-- How bind markers are spelled: `:1` or `:name`. -/
inductive MarkerStyle where
  | numbered
  | named
  deriving DecidableEq

/-- How a page of rows is selected: by `OFFSET … FETCH` or by `ROWNUM`. -/
inductive PageStyle where
  | offsetFetch
  | rowNumber
  deriving DecidableEq

/-- What becomes of a text that is too long for its column. -/
inductive OverflowPolicy where
  | reject
  | truncate
  deriving DecidableEq

/-- How identity columns get their numbers: by a column default or by a trigger. -/
inductive IdentityStrategy where
  | sequenceDefault
  | trigger
  deriving DecidableEq

/-! ### Settings -/

/-- The settings of the dialect. -/
structure Dialect where
  identifierCase : IdentifierCase := .upper
  /-- The longest name, in bytes. -/
  maxIdentifierLength : Nat := 128
  markerStyle : MarkerStyle := .numbered
  /-- Whether rows may be returned from a change at all. -/
  supportsReturning : Bool := true
  /-- Whether rows may be returned from one call with many bind rows. -/
  bulkReturning : Bool := false
  nativeBoolean : Bool := false
  pageStyle : PageStyle := .offsetFetch
  /-- The most values that one statement may bind. -/
  maxBindParameters : Nat := 65535
  /-- The most rows that one statement may insert or merge. -/
  batchSize : Nat := 1000
  /-- The longest sized text column, in characters. -/
  maxVarcharLength : Nat := 4000
  overflow : OverflowPolicy := .reject
  identity : IdentityStrategy := .sequenceDefault
  /-- Whether native errors are classified. -/
  translateErrors : Bool := false
  /-- Whether a change may go without a condition. -/
  allowGlobalUpdate : Bool := false
  /-- The fractional digits of a timestamp column that declares none. -/
  timestampPrecision : Nat := 6
  /-- The owner whose tables are looked up, when it is not the session's user. -/
  schema : Option String := none
  deriving DecidableEq

namespace Dialect

/-- A setting outside its range. -/
inductive Fault where
  | identifierLength (length : Nat)
  | noBindParameters
  | noBatch
  | varcharLength (length : Nat)
  | timestampPrecision (digits : Nat)
  | blankSchema
  deriving DecidableEq

/-- The wording of a fault. -/
def Fault.message : Fault → String
  | identifierLength length =>
    "max_identifier_length must be between 30 and 128, got " ++ toString length
  | noBindParameters => "max_bind_params must be > 0"
  | noBatch => "batch_size must be > 0"
  | varcharLength length =>
    "max_varchar_length must be between 1 and 32767, got " ++ toString length
  | timestampPrecision digits =>
    "timestamp_precision must be between 0 and 9, got " ++ toString digits
  | blankSchema => "schema must not be empty"

/-- The first setting outside its range, if there is one. -/
def fault? (dialect : Dialect) : Option Fault :=
  if dialect.maxIdentifierLength < 30 ∨ 128 < dialect.maxIdentifierLength then
    some (.identifierLength dialect.maxIdentifierLength)
  else if dialect.maxBindParameters = 0 then some .noBindParameters
  else if dialect.batchSize = 0 then some .noBatch
  else if dialect.maxVarcharLength = 0 ∨ 32767 < dialect.maxVarcharLength then
    some (.varcharLength dialect.maxVarcharLength)
  else if 9 < dialect.timestampPrecision then some (.timestampPrecision dialect.timestampPrecision)
  else if dialect.schema.any (fun schema => (Text.trim schema).isEmpty) then some .blankSchema
  else none

/-- Accepts settings that are all in range. -/
def check (dialect : Dialect) : Except Fault Unit :=
  match dialect.fault? with
  | some fault => .error fault
  | none => .ok ()

/-- Settings are accepted just if all of them are in range. -/
theorem check_eq_ok_iff {dialect : Dialect} :
    dialect.check = .ok () ↔
      (30 ≤ dialect.maxIdentifierLength ∧ dialect.maxIdentifierLength ≤ 128) ∧
        0 < dialect.maxBindParameters ∧ 0 < dialect.batchSize ∧
        (0 < dialect.maxVarcharLength ∧ dialect.maxVarcharLength ≤ 32767) ∧
        dialect.timestampPrecision ≤ 9 ∧
        dialect.schema.any (fun schema => (Text.trim schema).isEmpty) = false := by
  have faultless : dialect.check = .ok () ↔ dialect.fault? = none := by
    unfold check
    cases dialect.fault? <;> simp
  rw [faultless]
  unfold fault?
  grind

/-- The name of the dialect. -/
def name : String := "oracle"

end Dialect

end OracleSql
