/-
This file reads the settings of the dialect from a document, and writes them as one. Keys that are
no settings are left alone.
-/

import OracleSql.Error.Basic
import OracleSql.Settings.Field

namespace OracleSql

/-! ### Names of choices -/

/-- The names of the cases of bare names. -/
def IdentifierCase.names : List (String × IdentifierCase) :=
  [("upper", .upper), ("preserve", .preserve)]

/-- The names of the spellings of markers. -/
def MarkerStyle.names : List (String × MarkerStyle) :=
  [("numbered", .numbered), ("named", .named)]

/-- The names of the ways to select a page. -/
def PageStyle.names : List (String × PageStyle) :=
  [("offset_fetch", .offsetFetch), ("row_num", .rowNumber)]

/-- The names of what becomes of a text that is too long. -/
def OverflowPolicy.names : List (String × OverflowPolicy) :=
  [("reject", .reject), ("truncate", .truncate)]

/-- The names of the ways to number rows. -/
def IdentityStrategy.names : List (String × IdentityStrategy) :=
  [("sequence_default", .sequenceDefault), ("trigger", .trigger)]

namespace Dialect

open Settings

/-! ### Reading -/

/-- The keys of the settings. -/
def keys : List String :=
  ["identifier_case", "max_identifier_length", "placeholder_style", "supports_returning",
    "bulk_returning", "native_boolean", "pagination", "max_bind_params", "batch_size",
    "max_varchar_length", "string_overflow", "identity", "translate_error",
    "allow_global_update", "timestamp_precision", "schema"]

/-- The settings that a document writes, whether they are in range or not. -/
def ofDocument? (document : Toml) : Option Dialect := do
  let entries ← fieldsOf? keys document
  let defaults : Dialect := {}
  let word := natBelow? UInt64.size
  some {
    identifierCase := ←
      field? entries "identifier_case" defaults.identifierCase (choice? IdentifierCase.names)
    maxIdentifierLength := ←
      field? entries "max_identifier_length" defaults.maxIdentifierLength word
    markerStyle := ←
      field? entries "placeholder_style" defaults.markerStyle (choice? MarkerStyle.names)
    supportsReturning := ←
      field? entries "supports_returning" defaults.supportsReturning flag?
    bulkReturning := ← field? entries "bulk_returning" defaults.bulkReturning flag?
    nativeBoolean := ← field? entries "native_boolean" defaults.nativeBoolean flag?
    pageStyle := ← field? entries "pagination" defaults.pageStyle (choice? PageStyle.names)
    maxBindParameters := ← field? entries "max_bind_params" defaults.maxBindParameters word
    batchSize := ← field? entries "batch_size" defaults.batchSize word
    maxVarcharLength := ←
      field? entries "max_varchar_length" defaults.maxVarcharLength (natBelow? UInt32.size)
    overflow := ← field? entries "string_overflow" defaults.overflow (choice? OverflowPolicy.names)
    identity := ← field? entries "identity" defaults.identity (choice? IdentityStrategy.names)
    translateErrors := ← field? entries "translate_error" defaults.translateErrors flag?
    allowGlobalUpdate := ← field? entries "allow_global_update" defaults.allowGlobalUpdate flag?
    timestampPrecision := ←
      field? entries "timestamp_precision" defaults.timestampPrecision (natBelow? UInt8.size)
    schema := ← field? entries "schema" defaults.schema fun value => (text? value).map some }

/-! ### Writing -/

/-- The settings as the entries of a document; one that is not set has no value. -/
def entries (dialect : Dialect) : List (String × Option Toml) :=
  [("identifier_case", ofChoice IdentifierCase.names dialect.identifierCase),
    ("max_identifier_length", ofNat dialect.maxIdentifierLength),
    ("placeholder_style", ofChoice MarkerStyle.names dialect.markerStyle),
    ("supports_returning", some (.flag dialect.supportsReturning)),
    ("bulk_returning", some (.flag dialect.bulkReturning)),
    ("native_boolean", some (.flag dialect.nativeBoolean)),
    ("pagination", ofChoice PageStyle.names dialect.pageStyle),
    ("max_bind_params", ofNat dialect.maxBindParameters),
    ("batch_size", ofNat dialect.batchSize),
    ("max_varchar_length", ofNat dialect.maxVarcharLength),
    ("string_overflow", ofChoice OverflowPolicy.names dialect.overflow),
    ("identity", ofChoice IdentityStrategy.names dialect.identity),
    ("translate_error", some (.flag dialect.translateErrors)),
    ("allow_global_update", some (.flag dialect.allowGlobalUpdate)),
    ("timestamp_precision", ofNat dialect.timestampPrecision),
    ("schema", dialect.schema.map .text)]

/-! ### Use -/

/-- The settings, if all of them are in range. -/
def checked (dialect : Dialect) : Except Error Dialect :=
  match dialect.check with
  | .ok () => .ok dialect
  | .error fault => .error (.config (.setting fault))

/-- The settings that a text writes. -/
def ofText (text : String) : Except Error Dialect :=
  match (Toml.parse? text).bind fun entries => ofDocument? (.table entries) with
  | some dialect => dialect.checked
  | none => .error (.config .dialectText)

end Dialect

end OracleSql
