/-
This file says what is read from a list of `key=value` entries, without its reader. Blanks stand
between entries; a key is a run of characters that are neither blanks nor equals signs; a value
reaches to the next blank, or stands in quotes. `Reads` takes a text apart in this way, and what is
said about all lists of entries is shown along it: no entry is longer than the text, and characters
other than blanks, quotes, backslashes and equals signs stand in a row in the text just if they do
in a key or in a value.

Values that are written in quotes, each quote in them behind a backslash, are read as they were,
except for a value with a backslash at its end: there is no writing it in quotes, since the quote
that should close it counts as part of it.
-/

import OracleSql.Connect.KeyValue
import OracleSql.Proofs.Outcome
import OracleSql.Proofs.Runs

namespace OracleSql.KeyValue

/-! ### Entry by entry -/

/-- The entries that a text lists. -/
inductive Reads : List Char → List (String × String) → Prop where
  | blank {letters : List Char} (blank : ∀ letter ∈ letters, Text.isBlank letter = true) :
    Reads letters []
  | entry {blanks key written value left : List Char} {others : List (String × String)}
    (blank : ∀ letter ∈ blanks, Text.isBlank letter = true) (keyed : key ≠ [])
    (letters : ∀ letter ∈ key, isKeyChar letter = true)
    (read : readValue written = some (value, left)) (more : Reads left others) :
    Reads (blanks ++ (key ++ '=' :: written)) ((String.ofList key, String.ofList value) :: others)

/-- Blanks in front of entries are skipped. -/
theorem readEntries_append {blanks : List Char} (letters : List Char)
    (blank : ∀ letter ∈ blanks, Text.isBlank letter = true) :
    readEntries (blanks ++ letters) = readEntries letters := by
  have start : (blanks ++ letters).dropWhile Text.isBlank = letters.dropWhile Text.isBlank :=
    List.dropWhile_append_of_pos blank
  rw [readEntries, readEntries, start]

/-- The characters of a key are no blanks. -/
theorem isBlank_of_isKeyChar {letter : Char} (keyed : isKeyChar letter = true) :
    Text.isBlank letter = false := by
  rw [isKeyChar, Bool.and_eq_true] at keyed
  exact (Bool.not_eq_true' _).mp keyed.2

/-- Behind a key and an equals sign a value is read, and then the entries behind it. -/
theorem readEntries_key {key : List Char} (keyed : key ≠ [])
    (letters : ∀ letter ∈ key, isKeyChar letter = true) (written : List Char) :
    readEntries (key ++ '=' :: written) =
      (readValue written).elim (.error (.unclosedQuote (String.ofList key))) fun (value, left) =>
        (readEntries left).map ((String.ofList key, String.ofList value) :: ·) := by
  obtain ⟨first, rest, rfl⟩ := List.exists_cons_of_ne_nil keyed
  have start : ((first :: rest) ++ '=' :: written).dropWhile Text.isBlank =
      (first :: rest) ++ '=' :: written := by
    rw [List.cons_append, List.dropWhile_cons_of_neg]
    simp [isBlank_of_isKeyChar (letters first List.mem_cons_self)]
  have stop : ∀ mark ∈ ('=' :: written).head?, isKeyChar mark = false := by
    rintro mark ⟨⟩
    decide
  obtain ⟨taken, behind⟩ := Text.takeWhile_append_of_stop letters stop
  rw [← start] at behind
  rw [readEntries]
  simp only [start, taken]
  rw [if_neg (by simp)]
  split
  next found =>
    obtain ⟨-, rfl⟩ := List.cons.inj (found.symm.trans behind)
    rw [if_neg (by simp)]
    split
    next unread => rw [unread, Option.elim_none]
    next read => rw [read, Option.elim_some]
  next other => exact absurd behind (other _)

/-- An entry is read, and then those behind its value. -/
theorem readEntries_entry {key written value left : List Char} (keyed : key ≠ [])
    (letters : ∀ letter ∈ key, isKeyChar letter = true)
    (read : readValue written = some (value, left)) :
    readEntries (key ++ '=' :: written) =
      (readEntries left).map ((String.ofList key, String.ofList value) :: ·) := by
  rw [readEntries_key keyed letters, read, Option.elim_some]

/-- The entries that are read are those that the text lists. -/
theorem readEntries_eq_ok_iff {letters : List Char} {entries : List (String × String)} :
    readEntries letters = .ok entries ↔ Reads letters entries := by
  constructor
  · intro found
    fun_induction readEntries letters generalizing entries with
    | case1 letters start =>
      rename_i empty
      cases found
      exact .blank (List.dropWhile_eq_nil_iff.mp (List.isEmpty_iff.mp empty))
    | case2 => cases found
    | case3 => cases found
    | case4 letters start _ name key written split named value left read =>
      rename_i inductionHypothesis
      obtain ⟨others, more, rfl⟩ := map_eq_ok.mp found
      have whole : letters = letters.takeWhile Text.isBlank ++ (name ++ '=' :: written) := by
        rw [← split, List.takeWhile_append_dropWhile, List.takeWhile_append_dropWhile]
      rw [whole]
      exact .entry (fun letter => List.mem_takeWhile_imp) (by simpa using named)
        (fun letter => List.mem_takeWhile_imp) read (inductionHypothesis more)
    | case5 => cases found
  · intro reads
    induction reads with
    | blank blank =>
      have skipped := readEntries_append [] blank
      rw [List.append_nil] at skipped
      rw [skipped, readEntries]
      rfl
    | entry blank keyed letters read _ inductionHypothesis =>
      rw [readEntries_append _ blank, readEntries_entry keyed letters read, inductionHypothesis]
      rfl

theorem readEntries_nil : readEntries [] = .ok [] :=
  readEntries_eq_ok_iff.mpr (.blank (List.forall_mem_nil _))

/-! ### What stands in a text -/

/-- Letters that cannot reach from a key or a value into what stands around it. -/
structure Confined (sought : List Char) : Prop where
  written : sought ≠ []
  blank : ∀ letter ∈ sought, Text.isBlank letter = false
  equals : '=' ∉ sought
  quote : '"' ∉ sought
  backslash : '\\' ∉ sought

namespace Confined

variable {sought : List Char}

/-- Letters stand in front of a quoted value, in it, or behind it. -/
theorem infix_quoted_iff (confined : Confined sought) {letters value left : List Char}
    (read : readQuoted letters = some (value, left)) (front : List Char) :
    sought <:+: front ++ letters ↔ sought <:+: front ++ value ∨ sought <:+: left := by
  fun_induction readQuoted letters generalizing value left front with
  | case1 => cases read
  | case2 rest =>
    obtain ⟨rfl, rfl⟩ := Prod.mk.inj (Option.some.inj read)
    rw [Text.infix_append_cons_iff confined.quote, List.append_nil]
  | case3 rest inductionHypothesis =>
    obtain ⟨⟨inner, tail⟩, found, same⟩ := Option.map_eq_some_iff.mp read
    obtain ⟨rfl, rfl⟩ := Prod.mk.inj same
    have behind := inductionHypothesis found []
    rw [List.nil_append, List.nil_append] at behind
    rw [Text.infix_append_cons_iff confined.backslash,
      Text.infix_cons_iff_right confined.written confined.quote, behind,
      Text.infix_append_cons_iff confined.quote, or_assoc]
  | case4 letter rest _ _ inductionHypothesis =>
    obtain ⟨⟨inner, tail⟩, found, same⟩ := Option.map_eq_some_iff.mp read
    obtain ⟨rfl, rfl⟩ := Prod.mk.inj same
    have further := inductionHypothesis found (front ++ [letter])
    rwa [List.append_assoc, List.append_assoc] at further

/-- Letters stand in a value or behind it. -/
theorem infix_value_iff (confined : Confined sought) {written value left : List Char}
    (read : readValue written = some (value, left)) :
    sought <:+: written ↔ sought <:+: value ∨ sought <:+: left := by
  unfold readValue at read
  split at read
  next quoted =>
    cases written with
    | nil => cases quoted
    | cons quote letters =>
      cases quoted
      rw [Text.infix_cons_iff_right confined.written confined.quote]
      exact confined.infix_quoted_iff read []
  next =>
    obtain ⟨run, rest, rfl, kept, stop⟩ := Text.exists_run (!Text.isBlank ·) written
    obtain ⟨taken, behind⟩ := Text.takeWhile_append_of_stop kept stop
    rw [taken, behind] at read
    obtain ⟨rfl, rfl⟩ := Prod.mk.inj (Option.some.inj read)
    cases rest with
    | nil => simp [confined.written]
    | cons blank others =>
      have outside : blank ∉ sought := fun member => by
        have first := stop blank rfl
        simp [confined.blank blank member] at first
      rw [Text.infix_append_cons_iff outside, Text.infix_cons_iff_right confined.written outside]

/-- Letters stand in a list of entries just if they stand in a key or in a value. -/
theorem infix_iff (confined : Confined sought) {letters : List Char}
    {entries : List (String × String)} (reads : Reads letters entries) :
    sought <:+: letters ↔
      ∃ entry ∈ entries, sought <:+: entry.1.toList ∨ sought <:+: entry.2.toList := by
  have outside {blanks : List Char} (blank : ∀ letter ∈ blanks, Text.isBlank letter = true) :
      ∀ letter ∈ blanks, letter ∉ sought := fun letter member inside => by
    cases (blank letter member).symm.trans (confined.blank letter inside)
  induction reads with
  | @blank letters blank =>
    rw [← List.append_nil letters, Text.infix_append_iff_right confined.written (outside blank)]
    simp [confined.written]
  | entry blank _ _ read _ inductionHypothesis =>
    rw [Text.infix_append_iff_right confined.written (outside blank),
      Text.infix_append_cons_iff confined.equals, confined.infix_value_iff read]
    simp [or_assoc, inductionHypothesis]

end Confined

/-! ### How long entries are -/

theorem length_le_of_readQuoted {letters value left : List Char}
    (read : readQuoted letters = some (value, left)) :
    value.length + left.length ≤ letters.length := by
  fun_induction readQuoted letters generalizing value left with
  | case1 => cases read
  | case2 rest =>
    obtain ⟨rfl, rfl⟩ := Prod.mk.inj (Option.some.inj read)
    simp
  | case3 rest inductionHypothesis =>
    obtain ⟨⟨inner, tail⟩, found, same⟩ := Option.map_eq_some_iff.mp read
    obtain ⟨rfl, rfl⟩ := Prod.mk.inj same
    have inside := inductionHypothesis found
    simp only [List.length_cons]
    omega
  | case4 letter rest _ _ inductionHypothesis =>
    obtain ⟨⟨inner, tail⟩, found, same⟩ := Option.map_eq_some_iff.mp read
    obtain ⟨rfl, rfl⟩ := Prod.mk.inj same
    have inside := inductionHypothesis found
    simp only [List.length_cons]
    omega

theorem length_le_of_readValue {written value left : List Char}
    (read : readValue written = some (value, left)) :
    value.length + left.length ≤ written.length := by
  unfold readValue at read
  split at read
  · have inside := length_le_of_readQuoted read
    rw [List.length_tail] at inside
    omega
  · obtain ⟨rfl, rfl⟩ := Prod.mk.inj (Option.some.inj read)
    rw [← List.length_append, List.takeWhile_append_dropWhile]

/-- Key and value of an entry have room in the text, with an equals sign between them. -/
theorem Reads.length_lt {letters : List Char} {entries : List (String × String)}
    (reads : Reads letters entries) {entry : String × String} (member : entry ∈ entries) :
    entry.1.toList.length + entry.2.toList.length < letters.length := by
  induction reads with
  | blank => cases member
  | entry _ _ _ read _ inductionHypothesis =>
    have inside := length_le_of_readValue read
    simp only [List.length_append, List.length_cons]
    rcases List.mem_cons.mp member with rfl | later
    · simp only [String.toList_ofList]
      omega
    · have further := inductionHypothesis later
      omega

/-! ### Entries in quotes -/

/-- A letter inside quotes. -/
def quotedLetter (letter : Char) : List Char :=
  if letter = '"' then ['\\', '"'] else [letter]

/-- The letters inside quotes, each quote behind a backslash. -/
def escaped (letters : List Char) : List Char :=
  letters.flatMap quotedLetter

/-- An entry with its value in quotes. -/
def entryLetters (entry : String × String) : List Char :=
  entry.1.toList ++ '=' :: '"' :: (escaped entry.2.toList ++ ['"'])

/-- A list of entries, each value in quotes, with spaces between them. -/
def written (entries : List (String × String)) : String :=
  String.ofList ([' '].intercalate (entries.map entryLetters))

/-- The entries that can be written with quotes: the key is one, and the value does not end with a
backslash. -/
structure IsWritable (entry : String × String) : Prop where
  keyed : entry.1 ≠ ""
  letters : ∀ letter ∈ entry.1.toList, isKeyChar letter = true
  value : entry.2.toList.getLast? ≠ some '\\'

instance (entry : String × String) : Decidable (IsWritable entry) :=
  decidable_of_iff
    (entry.1 ≠ "" ∧ entry.1.toList.all isKeyChar = true ∧ entry.2.toList.getLast? ≠ some '\\')
    ⟨fun ⟨keyed, letters, value⟩ => ⟨keyed, List.all_eq_true.mp letters, value⟩,
      fun ⟨keyed, letters, value⟩ => ⟨keyed, List.all_eq_true.mpr letters, value⟩⟩

/-- A letter that no quote belongs to is read as itself. -/
theorem readQuoted_cons {letter : Char} {rest : List Char} (plain : letter ≠ '"')
    (apart : letter = '\\' → rest.head? ≠ some '"') :
    readQuoted (letter :: rest) =
      (readQuoted rest).map fun (value, left) => (letter :: value, left) := by
  rw [readQuoted]
  · exact plain
  · rintro others rfl rfl
    exact apart rfl rfl

/-- Letters in quotes do not start with a quote. -/
theorem head?_escaped_append {letters rest : List Char}
    (apart : letters = [] → rest.head? ≠ some '"') :
    (escaped letters ++ rest).head? ≠ some '"' := by
  cases letters with
  | nil => exact apart rfl
  | cons letter others =>
    rw [escaped, List.flatMap_cons, quotedLetter]
    split
    · simp
    · simpa

/-- What is read of letters in quotes is read of the first one and of the others. -/
theorem readQuoted_escaped_cons (letter : Char) {others rest : List Char}
    (apart : letter = '\\' → others = [] → rest.head? ≠ some '"') :
    readQuoted (escaped (letter :: others) ++ rest) =
      (readQuoted (escaped others ++ rest)).map fun (value, left) => (letter :: value, left) := by
  have first : escaped (letter :: others) ++ rest =
      quotedLetter letter ++ (escaped others ++ rest) := by
    rw [escaped, List.flatMap_cons, List.append_assoc]
    rfl
  rw [first, quotedLetter]
  split
  next quote =>
    subst quote
    rfl
  next plain => exact readQuoted_cons plain fun same => head?_escaped_append (apart same)

/-- What is written in quotes is read up to a backslash that takes the next quote into the value. -/
theorem readQuoted_escaped_backslash (letters rest : List Char) :
    readQuoted (escaped letters ++ '\\' :: '"' :: rest) =
      (readQuoted rest).map fun (value, left) => (letters ++ '"' :: value, left) := by
  induction letters with
  | nil => rfl
  | cons letter others inductionHypothesis =>
    rw [readQuoted_escaped_cons letter fun _ _ => by simp, inductionHypothesis, Option.map_map]
    rfl

/-- What is written in quotes is read as it was, whatever follows. -/
theorem readQuoted_escaped {letters : List Char} (closed : letters.getLast? ≠ some '\\')
    (rest : List Char) : readQuoted (escaped letters ++ '"' :: rest) = some (letters, rest) := by
  induction letters with
  | nil => rfl
  | cons letter others inductionHypothesis =>
    have apart : letter = '\\' → others = [] → ('"' :: rest).head? ≠ some '"' := by
      rintro rfl rfl
      exact absurd rfl closed
    have ends : others.getLast? ≠ some '\\' := fun last => by
      rw [List.getLast?_cons, last] at closed
      exact closed rfl
    rw [readQuoted_escaped_cons letter apart, inductionHypothesis ends]
    rfl

/-- A value in quotes that ends with a backslash goes on up to the next quote behind its own. -/
theorem readValue_open (inner rest : List Char) :
    readValue ('"' :: (escaped (inner ++ ['\\']) ++ '"' :: rest)) =
      (readQuoted rest).map fun (value, left) => (inner ++ '"' :: value, left) := by
  have last : escaped (inner ++ ['\\']) ++ '"' :: rest = escaped inner ++ '\\' :: '"' :: rest := by
    rw [escaped, List.flatMap_append, List.append_assoc]
    rfl
  rw [readValue, if_pos List.head?_cons, List.tail_cons, last, readQuoted_escaped_backslash]

/-- An entry in quotes is read as it was, whatever follows. -/
theorem readEntries_entryLetters {entry : String × String} (writable : IsWritable entry)
    (rest : List Char) :
    readEntries (entryLetters entry ++ rest) = (readEntries rest).map (entry :: ·) := by
  have keyed : entry.1.toList ≠ [] := fun empty =>
    writable.keyed (String.toList_eq_nil_iff.mp empty)
  have read : readValue ('"' :: (escaped entry.2.toList ++ '"' :: rest)) =
      some (entry.2.toList, rest) := by
    rw [readValue, if_pos List.head?_cons]
    exact readQuoted_escaped writable.value rest
  have split : entryLetters entry ++ rest =
      entry.1.toList ++ '=' :: '"' :: (escaped entry.2.toList ++ '"' :: rest) := by
    simp [entryLetters]
  rw [split, readEntries_entry keyed writable.letters read, String.ofList_toList,
    String.ofList_toList]

theorem written_singleton (entry : String × String) :
    (written [entry]).toList = entryLetters entry := by
  simp [written, List.intercalate]

theorem written_cons_cons (first second : String × String) (others : List (String × String)) :
    (written (first :: second :: others)).toList =
      entryLetters first ++ ' ' :: (written (second :: others)).toList := by
  simp [written, List.intercalate]

/-- Written entries start with the key of the first one. -/
theorem exists_written_cons (entry : String × String) (others : List (String × String)) :
    ∃ behind, (written (entry :: others)).toList = entry.1.toList ++ '=' :: behind := by
  cases others with
  | nil =>
    rw [written_singleton]
    exact ⟨_, rfl⟩
  | cons second rest =>
    rw [written_cons_cons, entryLetters, List.append_assoc]
    exact ⟨_, rfl⟩

/-- Written entries end with the quote behind the last value. -/
theorem getLast?_written (entry : String × String) (others : List (String × String)) :
    (written (entry :: others)).toList.getLast? = some '"' := by
  induction others generalizing entry with
  | nil =>
    have ends : entryLetters entry =
        (entry.1.toList ++ '=' :: '"' :: escaped entry.2.toList) ++ ['"'] := by
      simp [entryLetters]
    rw [written_singleton, ends, List.getLast?_concat]
  | cons second rest inductionHypothesis =>
    rw [written_cons_cons, List.getLast?_append, List.getLast?_cons, inductionHypothesis]
    rfl

/-- Written entries have no blanks around them. -/
theorem trim_written {entry : String × String} (keyed : entry.1 ≠ "")
    (letters : ∀ letter ∈ entry.1.toList, isKeyChar letter = true)
    (others : List (String × String)) :
    Text.trim (written (entry :: others)) = written (entry :: others) := by
  refine Text.trim_eq_self (fun letter first => ?_) (fun letter last => ?_)
  · obtain ⟨behind, split⟩ := exists_written_cons entry others
    obtain ⟨head, tail, key⟩ :=
      List.exists_cons_of_ne_nil (mt String.toList_eq_nil_iff.mp keyed)
    rw [split, key] at first
    obtain rfl := Option.some.inj first
    exact isBlank_of_isKeyChar (letters head (key ▸ List.mem_cons_self))
  · rw [getLast?_written] at last
    obtain rfl := Option.some.inj last
    decide

/-- The first of written entries is read, and then the others. -/
theorem readEntries_written_cons {entry : String × String} (writable : IsWritable entry)
    (others : List (String × String)) :
    readEntries (written (entry :: others)).toList =
      (readEntries (written others).toList).map (entry :: ·) := by
  cases others with
  | nil =>
    have single : (written [entry]).toList = entryLetters entry ++ (written []).toList := by
      rw [written_singleton]
      exact (List.append_nil _).symm
    rw [single, readEntries_entryLetters writable]
  | cons second rest =>
    rw [written_cons_cons, readEntries_entryLetters writable, ← List.singleton_append,
      readEntries_append _ (List.forall_mem_singleton.mpr rfl)]

/-- Written entries are read, and then those behind them. -/
theorem readEntries_written_append {front : List (String × String)}
    (writable : ∀ entry ∈ front, IsWritable entry) (others : List (String × String)) :
    readEntries (written (front ++ others)).toList =
      (readEntries (written others).toList).map (front ++ ·) := by
  induction front with
  | nil =>
    rw [List.nil_append]
    cases readEntries (written others).toList <;> rfl
  | cons entry rest inductionHypothesis =>
    obtain ⟨first, later⟩ := List.forall_mem_cons.mp writable
    rw [List.cons_append, readEntries_written_cons first, inductionHypothesis later]
    cases readEntries (written others).toList <;> rfl

/-- Entries that are written in quotes are read as they were. -/
theorem entries_written {listed : List (String × String)}
    (writable : ∀ entry ∈ listed, IsWritable entry) :
    KeyValue.entries (written listed) = .ok listed := by
  have read := readEntries_written_append writable []
  have nothing : readEntries (written []).toList = .ok [] := by
    rw [written, List.map_nil, String.toList_ofList]
    exact readEntries_nil
  rw [nothing, List.append_nil] at read
  rw [KeyValue.entries, read]
  exact congrArg Except.ok (List.append_nil listed)

end OracleSql.KeyValue
