/-
This file reads lists of `key=value` entries with blanks between them. A value in double quotes may
hold blanks, and a quote with a backslash before it; a value without quotes ends at a blank.
-/

import OracleSql.Error.Fault

namespace OracleSql.KeyValue

/-- A quoted value after its opening quote, and what follows its closing one. -/
def readQuoted : List Char → Option (List Char × List Char)
  | [] => none
  | '"' :: rest => some ([], rest)
  | '\\' :: '"' :: rest => (readQuoted rest).map fun (value, left) => ('"' :: value, left)
  | letter :: rest => (readQuoted rest).map fun (value, left) => (letter :: value, left)

theorem readQuoted_length_lt {letters value left : List Char}
    (read : readQuoted letters = some (value, left)) : left.length < letters.length := by
  fun_induction readQuoted letters generalizing value left with
  | case1 => simp at read
  | case2 rest => simp_all
  | case3 rest inductionHypothesis =>
    obtain ⟨⟨inner, tail⟩, found, same⟩ := Option.map_eq_some_iff.1 read
    have shorter := inductionHypothesis found
    simp only [Prod.mk.injEq] at same
    simp only [List.length_cons, ← same.2]
    omega
  | case4 letter rest _ _ inductionHypothesis =>
    obtain ⟨⟨inner, tail⟩, found, same⟩ := Option.map_eq_some_iff.1 read
    have shorter := inductionHypothesis found
    simp only [Prod.mk.injEq] at same
    simp only [List.length_cons, ← same.2]
    omega

/-- A value after its equals sign, and what follows it; nothing if a quote stays open. -/
def readValue (letters : List Char) : Option (List Char × List Char) :=
  if letters.head? = some '"' then readQuoted letters.tail
  else some (letters.takeWhile (!Text.isBlank ·), letters.dropWhile (!Text.isBlank ·))

theorem readValue_length_le {letters value left : List Char}
    (read : readValue letters = some (value, left)) : left.length ≤ letters.length := by
  unfold readValue at read
  split at read
  · have shorter := readQuoted_length_lt read
    simp only [List.length_tail] at shorter
    omega
  · simp only [Option.some.injEq, Prod.mk.injEq] at read
    rw [← read.2]
    exact (List.dropWhile_sublist _).length_le

/-- The characters of a key. -/
def isKeyChar (letter : Char) : Bool :=
  letter != '=' && !Text.isBlank letter

/-- The entries from a place on. -/
def readEntries (letters : List Char) : Except ConnectFault (List (String × String)) :=
  let start := letters.dropWhile Text.isBlank
  if start.isEmpty then .ok []
  else
    let name := start.takeWhile isKeyChar
    let key := String.ofList name
    match _found : start.dropWhile isKeyChar with
    | '=' :: written =>
      if name.isEmpty then .error (.entry key)
      else match _read : readValue written with
        | none => .error (.unclosedQuote key)
        | some (value, left) =>
          (readEntries left).map ((key, String.ofList value) :: ·)
    | _ => .error (.entry key)
  termination_by letters.length
  decreasing_by
    have valueBound := readValue_length_le _read
    have nameBound : (start.dropWhile isKeyChar).length ≤ start.length :=
      (List.dropWhile_sublist _).length_le
    have blankBound : start.length ≤ letters.length := (List.dropWhile_sublist _).length_le
    rw [_found, List.length_cons] at nameBound
    omega

/-- The entries of a text in order. -/
def entries (text : String) : Except ConnectFault (List (String × String)) :=
  readEntries text.toList

end OracleSql.KeyValue
