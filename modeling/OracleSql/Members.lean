/-
This file holds named values in the order of their names, each name once. When values are put in one
after the other, the last one of a name counts.
-/

namespace OracleSql

variable {α : Type}

/-- Puts a value among values ordered by name; a value of the same name is replaced. -/
def putMember (name : String) (value : α) : List (String × α) → List (String × α)
  | [] => [(name, value)]
  | (other, old) :: rest =>
    if name < other then (name, value) :: (other, old) :: rest
    else if name = other then (name, value) :: rest
    else (other, old) :: putMember name value rest

/-- Named values in the order of their names. -/
def orderedMembers (members : List (String × α)) : List (String × α) :=
  members.foldl (fun ordered member => putMember member.1 member.2 ordered) []

end OracleSql
