/-
This file holds the settings of a pool of sessions: how many may be open, how old and how idle a
session may be, and how long to wait for one.
-/

import OracleSql.Error.Basic
import OracleSql.Settings.Field

namespace OracleSql

/-- The settings of a pool. -/
structure PoolSettings where
  /-- The most sessions that may be open. -/
  maxOpen : Nat := 16
  /-- The most sessions that are meant to stay open after use. -/
  maxIdle : Nat := 16
  /-- The greatest age of a session. -/
  maxLifetime : Option Duration := none
  /-- The longest time since a session was last taken. -/
  maxIdleTime : Option Duration := none
  /-- How long to wait for a session, if not for ever. -/
  acquireTimeout : Option Duration := none
  deriving DecidableEq

namespace PoolSettings

/-- The first fault of the settings, if there is one. -/
def fault? (settings : PoolSettings) : Option PoolSettingsFault :=
  let isZero := fun (span : Option Duration) => span == some ⟨0⟩
  if settings.maxOpen = 0 then some .noSessions
  else if settings.maxOpen < settings.maxIdle then
    some (.idleExceeds settings.maxIdle settings.maxOpen)
  else if isZero settings.maxLifetime || isZero settings.maxIdleTime then some .zeroLifetime
  else none

/-- The settings, if they go together. -/
def checked (settings : PoolSettings) : Except Error PoolSettings :=
  match settings.fault? with
  | some fault => .error (.config (.pool fault))
  | none => .ok settings

open Settings

/-- The keys of the settings. -/
def keys : List String :=
  ["max_open", "max_idle", "conn_max_lifetime", "conn_max_idle_time", "acquire_timeout"]

/-- Reads a span in seconds. -/
def seconds? (document : Toml) : Option (Option Duration) :=
  (natBelow? UInt64.size document).map fun count => some (.ofSeconds count)

/-- The settings that a document writes, whether they go together or not. -/
def ofDocument? (document : Toml) : Option PoolSettings := do
  let entries ← fieldsOf? keys document
  let defaults : PoolSettings := {}
  some {
    maxOpen := ← field? entries "max_open" defaults.maxOpen (natBelow? UInt64.size)
    maxIdle := ← field? entries "max_idle" defaults.maxIdle (natBelow? UInt64.size)
    maxLifetime := ← field? entries "conn_max_lifetime" none seconds?
    maxIdleTime := ← field? entries "conn_max_idle_time" none seconds?
    acquireTimeout := ← field? entries "acquire_timeout" none seconds? }

/-- A span in whole seconds as a document writes it. -/
def ofSeconds (span : Option Duration) : Option Toml :=
  span.map fun length => .integer (length.nanoseconds / 1000000000 : Nat)

/-- The settings as the entries of a document; one that is not set has no value. -/
def entries (settings : PoolSettings) : List (String × Option Toml) :=
  [("max_open", ofNat settings.maxOpen),
    ("max_idle", ofNat settings.maxIdle),
    ("conn_max_lifetime", ofSeconds settings.maxLifetime),
    ("conn_max_idle_time", ofSeconds settings.maxIdleTime),
    ("acquire_timeout", ofSeconds settings.acquireTimeout)]

end PoolSettings

end OracleSql
