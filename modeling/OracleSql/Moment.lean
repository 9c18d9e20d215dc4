/-
This file holds points in time and spans of time. A timestamp is a count of seconds since the start
of 1970 and a count of nanoseconds within the second, which passes a billion during a leap second.
A duration is a count of nanoseconds, written in the largest unit that gives at least one.
-/

import OracleSql.Text.Layout

namespace OracleSql

/-! ### Timestamps -/

/-- A reading of a clock. -/
structure Timestamp where
  seconds : Int
  nanoseconds : Nat
  deriving DecidableEq

/-- A point in time, whatever the zone of a session. -/
structure Instant where
  universal : Timestamp
  deriving DecidableEq

/-- The reading of a wall clock, a point in time only together with a zone. -/
structure LocalTimestamp where
  wall : Timestamp
  deriving DecidableEq

/-- The reading at the start of its microsecond. -/
def Timestamp.wholeMicroseconds (timestamp : Timestamp) : Timestamp :=
  { timestamp with nanoseconds := timestamp.nanoseconds - timestamp.nanoseconds % 1000 }

/-! ### Durations -/

/-- A span of time. -/
structure Duration where
  nanoseconds : Nat
  deriving DecidableEq

namespace Duration

/-- The span of so many milliseconds. -/
def ofMilliseconds (count : Nat) : Duration := ⟨count * 1000000⟩

/-- The span of so many seconds. -/
def ofSeconds (count : Nat) : Duration := ⟨count * 1000000000⟩

/-- A count of units of `10 ^ places` nanoseconds, with the rest as a decimal fraction. -/
def inUnit (places : Nat) (name : String) (duration : Duration) : String :=
  let rest := Text.padded places (duration.nanoseconds % Nat.pow 10 places)
  let fraction := (rest.toList.reverse.dropWhile (· == '0')).reverse
  let whole := toString (duration.nanoseconds / Nat.pow 10 places)
  if places = 0 ∨ fraction.isEmpty then whole ++ name
  else whole ++ "." ++ String.ofList fraction ++ name

/-- The span in the largest unit of which it holds at least one: `1.5s`, `10ms`, `0ns`. -/
def toText (duration : Duration) : String :=
  if 1000000000 ≤ duration.nanoseconds then duration.inUnit 9 "s"
  else if 1000000 ≤ duration.nanoseconds then duration.inUnit 6 "ms"
  else if 1000 ≤ duration.nanoseconds then duration.inUnit 3 "µs"
  else duration.inUnit 0 "ns"

end Duration

end OracleSql
