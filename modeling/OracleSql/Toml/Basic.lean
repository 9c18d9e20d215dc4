/-
This file holds the documents in which settings are written: TOML. A document is a table of entries,
each with a text, a number, a flag, a time, an array or a further table. Of numbers that are not
whole, and of times, only their presence is kept, since no setting is one; a number that is too
large for every type makes a document unusable where it is looked at.
-/

namespace OracleSql

/-- A value in a document. -/
inductive Toml where
  | text (content : String)
  | integer (number : Int)
  | float
  /-- A number that no type of numbers holds. -/
  | excess
  | flag (content : Bool)
  | time
  | array (items : List Toml)
  | table (entries : List (String × Toml))
  deriving Inhabited

namespace Toml

/-! ### Numbers in excess -/

mutual

/-- Whether a number is too large anywhere in a value. -/
def hasExcess : Toml → Bool
  | excess => true
  | array items => anyExcess items
  | table entries => anyEntryExcess entries
  | _ => false

/-- Whether a number is too large in one of the items. -/
def anyExcess : List Toml → Bool
  | [] => false
  | item :: rest => item.hasExcess || anyExcess rest

/-- Whether a number is too large in one of the entries. -/
def anyEntryExcess : List (String × Toml) → Bool
  | [] => false
  | (_, value) :: rest => value.hasExcess || anyEntryExcess rest

end

/-! ### Tables that grow -/

/-- How a table came to be while a document was read. -/
inductive Origin where
  /-- By the header of a table inside it. -/
  | implied
  /-- By its own header. -/
  | header
  /-- By the dots in the key of an entry. -/
  | dotted
  deriving DecidableEq

/-- A value while the document is read: one that is finished, a table that may still grow, or the
tables of repeated headers, the last one first. -/
inductive Node where
  | finished (value : Toml)
  | growing (origin : Origin) (entries : List (String × Node))
  | repeated (tables : List (List (String × Node)))
  deriving Inhabited

/-- The entries of a table that is being read. -/
abbrev Entries := List (String × Node)

mutual

/-- The value that has been read. -/
def Node.toToml : Node → Toml
  | .finished value => value
  | .growing _ entries => .table (entriesToToml entries)
  | .repeated tables => .array (tablesToToml tables).reverse

/-- The entries that have been read. -/
def entriesToToml : List (String × Node) → List (String × Toml)
  | [] => []
  | (key, node) :: rest => (key, node.toToml) :: entriesToToml rest

/-- The tables of repeated headers. -/
def tablesToToml : List (List (String × Node)) → List Toml
  | [] => []
  | entries :: rest => .table (entriesToToml entries) :: tablesToToml rest

end

/-! ### Putting in -/

/-- The node under a key. -/
def find? (entries : Entries) (key : String) : Option Node :=
  (entries.find? fun entry => entry.1 == key).map Prod.snd

/-- Puts a node under a key. -/
def put (key : String) (node : Node) : Entries → Entries
  | [] => [(key, node)]
  | (other, old) :: rest =>
    if other = key then (key, node) :: rest else (other, old) :: put key node rest

/-- Changes the entries of the table that a header names: tables on the way may be implied, and of
repeated ones the last is meant. `isRepeated` says whether the header starts one of several. -/
def openHeader (isRepeated : Bool) : (path : List String) → Entries → Option Entries
  | [], _ => none
  | [key], entries =>
    match find? entries key, isRepeated with
    | none, false => some (put key (.growing .header []) entries)
    | none, true => some (put key (.repeated [[]]) entries)
    | some (.growing .implied inner), false => some (put key (.growing .header inner) entries)
    | some (.repeated tables), true => some (put key (.repeated ([] :: tables)) entries)
    | _, _ => none
  | key :: next :: path, entries =>
    match find? entries key with
    | none => do
      let inner ← openHeader isRepeated (next :: path) []
      some (put key (.growing .implied inner) entries)
    | some (.growing origin inner) => do
      let changed ← openHeader isRepeated (next :: path) inner
      some (put key (.growing origin changed) entries)
    | some (.repeated (last :: others)) => do
      let changed ← openHeader isRepeated (next :: path) last
      some (put key (.repeated (changed :: others)) entries)
    | _ => none

/-- Puts a value under a key with dots. Tables on the way are made, and only those that were made so
may be met again as the last one. On the way there, the last one of repeated tables is passed
through, too. -/
def putDotted (value : Toml) : (path : List String) → Entries → Option Entries
  | [], _ => none
  | [key], entries =>
    if (find? entries key).isSome then none else some (put key (.finished value) entries)
  | key :: next :: path, entries =>
    match find? entries key with
    | none => do
      let inner ← putDotted value (next :: path) []
      some (put key (.growing .dotted inner) entries)
    | some (.growing .dotted inner) => do
      let changed ← putDotted value (next :: path) inner
      some (put key (.growing .dotted changed) entries)
    | some (.growing .implied inner) =>
      if path.isEmpty then none
      else do
        let changed ← putDotted value (next :: path) inner
        some (put key (.growing .implied changed) entries)
    | some (.repeated (last :: others)) =>
      if path.isEmpty then none
      else do
        let changed ← putDotted value (next :: path) last
        some (put key (.repeated (changed :: others)) entries)
    | _ => none

/-- Puts a value into the table that a header names. -/
def putUnder (header : List String) (path : List String) (value : Toml) :
    Entries → Option Entries :=
  match header with
  | [] => putDotted value path
  | key :: rest => fun entries =>
    match find? entries key with
    | some (.growing origin inner) => do
      let changed ← putUnder rest path value inner
      some (put key (.growing origin changed) entries)
    | some (.repeated (last :: others)) => do
      let changed ← putUnder rest path value last
      some (put key (.repeated (changed :: others)) entries)
    | _ => none

end Toml

end OracleSql
