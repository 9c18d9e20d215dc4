/-
This file reads the settings of a whole program from one document: what to connect to, the dialect
and the pool.
-/

import OracleSql.Pool.Settings
import OracleSql.Settings.Dialect

namespace OracleSql

/-- The settings of a program. -/
structure AdapterSettings where
  /-- The text that says what to connect to. -/
  target : Option String := none
  dialect : Dialect := {}
  pool : PoolSettings := {}
  deriving DecidableEq

namespace AdapterSettings

open Settings

/-- The keys of the settings. -/
def keys : List String := ["dsn", "dialect", "pool"]

/-- The settings that a document writes, whether they can be used or not. -/
def ofDocument? (document : Toml) : Option AdapterSettings := do
  let entries ← fieldsOf? keys document
  some {
    target := ← field? entries "dsn" none fun value => (text? value).map some
    dialect := ← field? entries "dialect" {} Dialect.ofDocument?
    pool := ← field? entries "pool" {} PoolSettings.ofDocument? }

/-- The settings that a text writes, if they can be used. -/
def ofText (text : String) : Except Error AdapterSettings :=
  match (Toml.parse? text).bind fun entries => ofDocument? (.table entries) with
  | some settings => do
    let dialect ← settings.dialect.checked
    let pool ← settings.pool.checked
    .ok { settings with dialect, pool }
  | none => .error (.config .adapterText)

end AdapterSettings

end OracleSql
