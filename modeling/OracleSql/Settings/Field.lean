/-
This file reads single settings from a document. A setting that is not written has a default; one
that is written must be of the right form. Choices are written by name.
-/

import OracleSql.Toml.Reader

namespace OracleSql.Settings

/-- The entries of a document that is to be a table with these fields. Entries that are no fields
are left alone, unless a number in them cannot be read. An array gives the fields in their order,
and a time is a table with none of them. -/
def fieldsOf? (names : List String) : Toml → Option (List (String × Toml))
  | .table entries =>
    if entries.any fun entry => !names.contains entry.1 && entry.2.hasExcess then none
    else some entries
  | .array items => some (names.zip items)
  | .time => some []
  | _ => none

/-- The setting under a key, or the default where there is none. -/
def field? {α : Type} (entries : List (String × Toml)) (key : String) (default : α)
    (read : Toml → Option α) : Option α :=
  match entries.find? fun entry => entry.1 == key with
  | some (_, value) => read value
  | none => some default

/-- Reads a flag. -/
def flag? : Toml → Option Bool
  | .flag content => some content
  | _ => none

/-- Reads a text. -/
def text? : Toml → Option String
  | .text content => some content
  | _ => none

/-- Reads a natural below a limit. -/
def natBelow? (limit : Nat) : Toml → Option Nat
  | .integer number => if 0 ≤ number ∧ number < limit then some number.toNat else none
  | _ => none

/-- The name by which a choice is written: a text, or the only key of a table with nothing under
it. -/
def choiceName? : Toml → Option String
  | .text name => some name
  | .table [(name, .table [])] => some name
  | .table [(name, .array [])] => some name
  | _ => none

/-- Reads one of the named choices. -/
def choice? {α : Type} (choices : List (String × α)) (document : Toml) : Option α :=
  (choiceName? document).bind fun name =>
    (choices.find? fun choice => choice.1 == name).map Prod.snd

/-- The name of a choice. -/
def nameOf {α : Type} [DecidableEq α] (choices : List (String × α)) (value : α) : String :=
  ((choices.find? fun choice => choice.2 == value).map Prod.fst).getD ""

/-- A choice as a document writes it. -/
def ofChoice {α : Type} [DecidableEq α] (choices : List (String × α)) (value : α) : Option Toml :=
  some (.text (nameOf choices value))

/-- A natural as a document writes it. -/
def ofNat (number : Nat) : Option Toml :=
  some (.integer number)

end OracleSql.Settings
