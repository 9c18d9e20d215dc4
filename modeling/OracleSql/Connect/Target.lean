/-
This file holds what is needed to open a session, and reads it from a text: either a URL or a list
of `key=value` entries. Reading looks at the text alone. Whether the user and the target are given
and the directory of the client libraries exists is checked when a session is to be opened.
-/

import OracleSql.Connect.KeyValue
import OracleSql.Connect.Url

namespace OracleSql

/-- What is needed to open a session. -/
structure ConnectTarget where
  user : String := ""
  password : Option String := none
  /-- A host with port and service, or an alias that the client knows. -/
  target : String := ""
  /-- Where the client libraries are, if they are not found without it. -/
  libraryDirectory : Option String := none
  /-- All other settings, each key once. -/
  options : List (String × String) := []
  deriving DecidableEq

namespace ConnectTarget

/-! ### Settings -/

/-- Puts a value under a key; an earlier value of the key is replaced. -/
def putOption (key value : String) : List (String × String) → List (String × String)
  | [] => [(key, value)]
  | (other, old) :: rest =>
    if other = key then (key, value) :: rest else (other, old) :: putOption key value rest

/-- The target with one more setting, which may be the directory of the libraries. -/
def withOption (target : ConnectTarget) (entry : String × String) : ConnectTarget :=
  if entry.1 = "libDir" ∨ entry.1 = "lib_dir" then
    { target with libraryDirectory := some entry.2 }
  else { target with options := putOption entry.1 entry.2 target.options }

/-- The target with one more entry of a list, which may also be the user, the password or the
connect text. -/
def withEntry (target : ConnectTarget) (entry : String × String) : ConnectTarget :=
  if entry.1 = "user" ∨ entry.1 = "username" then { target with user := entry.2 }
  else if entry.1 = "password" then { target with password := some entry.2 }
  else if entry.1 = "connectString" ∨ entry.1 = "connect_string" then
    { target with target := entry.2 }
  else target.withOption entry

/-! ### Reading -/

/-- The port that is used where none is given. -/
def defaultPort : Nat := 1521

/-- The schemes of a location. -/
def schemes : List String := ["oracle", "godror"]

/-- The connect text of a host with a port and a path. -/
def targetText (host : String) (port : Nat) (path : String) : String :=
  let service := String.ofList (path.toList.dropWhile (· == '/'))
  let machine := host ++ ":" ++ toString port
  if service.isEmpty then machine else machine ++ "/" ++ service

/-- The target that a location writes. -/
def ofUrl (url : Url) : Except ConnectFault ConnectTarget :=
  if schemes.contains url.scheme then
    match url.host with
    | none => .error .noHost
    | some host =>
      let target := targetText host (url.port.getD defaultPort) url.path
      .ok (url.queryPairs.foldl withOption
        { user := url.user, password := url.password, target })
  else .error (.scheme url.scheme)

/-- Whether a text is meant as a location. -/
def looksLikeUrl : List Char → Bool
  | ':' :: '/' :: '/' :: _ => true
  | _ :: rest => looksLikeUrl rest
  | [] => false

/-- The target that a text writes. -/
def parse (text : String) : Except ConnectFault ConnectTarget :=
  let trimmed := Text.trim text
  if trimmed.isEmpty then .error .empty
  else if looksLikeUrl trimmed.toList then
    match Url.parse? trimmed with
    | some url => ofUrl url
    | none => .error .url
  else (KeyValue.entries trimmed).map (·.foldl withEntry {})

/-! ### Use -/

/-- Accepts a target with a user and a connect text, whose directory exists. -/
def check (directoryExists : String → Bool) (target : ConnectTarget) :
    Except ConnectFault Unit :=
  if target.user.isEmpty then .error .noUser
  else if target.target.isEmpty then .error .noTarget
  else match target.libraryDirectory with
    | some path => if directoryExists path then .ok () else .error (.noDirectory path)
    | none => .ok ()

/-- The target for a log, without the password. -/
def redacted (target : ConnectTarget) : String :=
  let password := if target.password.isSome then ":***" else ""
  "oracle://" ++ target.user ++ password ++ "@" ++ target.target

end ConnectTarget

end OracleSql
