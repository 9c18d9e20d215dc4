/-
This file says what writing in quotes and reading are to each other, and where reading fails. A
value is read from quotes just if it stands there with a backslash in front of each of its quotes,
and does not end with a backslash itself: the quote that closes a value is the first one that does
not stand behind a backslash. So entries in quotes are read as they were, whatever blanks stand
between them.

Every text is read to its end, entry by entry, or else up to one of two faults: an entry without a
key and an equals sign, or a value whose quote is never closed.
-/

import OracleSql.Proofs.Connect.Entries

namespace OracleSql.KeyValue

/-! ### Values -/

/-- The last of the letters in quotes is the last one of the value. -/
theorem getLast?_escaped (letters : List Char) : (escaped letters).getLast? = letters.getLast? := by
  induction letters using List.reverseRecOn with
  | nil => rfl
  | append_singleton front letter _ =>
    have last : (quotedLetter letter).getLast? = some letter := by
      unfold quotedLetter
      split
      next quote => exact congrArg some quote.symm
      next => rfl
    rw [escaped, List.flatMap_append, List.flatMap_singleton, List.getLast?_append, last,
      List.getLast?_concat]
    rfl

/-- What is read from quotes is what was written in them, up to the first quote that closes. -/
theorem readQuoted_eq_some_iff {letters value left : List Char} :
    readQuoted letters = some (value, left) ↔
      letters = escaped value ++ '"' :: left ∧ value.getLast? ≠ some '\\' := by
  constructor
  · intro read
    fun_induction readQuoted letters generalizing value left with
    | case1 => cases read
    | case2 rest =>
      obtain ⟨rfl, rfl⟩ := Prod.mk.inj (Option.some.inj read)
      exact ⟨rfl, by simp⟩
    | case3 rest inductionHypothesis =>
      obtain ⟨⟨inner, tail⟩, found, same⟩ := Option.map_eq_some_iff.mp read
      obtain ⟨rfl, rfl⟩ := Prod.mk.inj same
      obtain ⟨rfl, closed⟩ := inductionHypothesis found
      refine ⟨rfl, ?_⟩
      cases inner with
      | nil => decide
      | cons => rwa [List.getLast?_cons_cons]
    | case4 letter rest plain apart inductionHypothesis =>
      obtain ⟨⟨inner, tail⟩, found, same⟩ := Option.map_eq_some_iff.mp read
      obtain ⟨rfl, rfl⟩ := Prod.mk.inj same
      obtain ⟨rfl, closed⟩ := inductionHypothesis found
      have first : escaped (letter :: inner) = letter :: escaped inner := by
        rw [escaped, List.flatMap_cons, quotedLetter, if_neg plain]
        rfl
      constructor
      · rw [first]
        rfl
      · -- A backslash at the end would take the closing quote into the value.
        cases inner with
        | nil =>
          rintro ⟨⟩
          exact apart _ rfl rfl
        | cons => rwa [List.getLast?_cons_cons]
  · rintro ⟨rfl, closed⟩
    exact readQuoted_escaped closed left

/-- No quote among the letters closes a value: each one stands behind a backslash. -/
def StaysOpen (letters : List Char) : Prop :=
  ∀ front behind, letters = front ++ '"' :: behind → front.getLast? = some '\\'

theorem readQuoted_eq_none_iff {letters : List Char} :
    readQuoted letters = none ↔ StaysOpen letters := by
  constructor
  · intro unread
    fun_induction readQuoted letters with
    | case1 =>
      intro front behind split
      simp at split
    | case2 => cases unread
    | case3 rest inductionHypothesis =>
      have inside := inductionHypothesis (Option.map_eq_none_iff.mp unread)
      rintro (_ | ⟨first, _ | ⟨second, front⟩⟩) behind split
      · cases split
      · obtain ⟨rfl, -⟩ := List.cons.inj split
        rfl
      · obtain ⟨-, split⟩ := List.cons.inj split
        obtain ⟨-, split⟩ := List.cons.inj split
        rw [List.getLast?_cons_cons, List.getLast?_cons, inside front behind split]
        rfl
    | case4 letter rest plain _ inductionHypothesis =>
      have inside := inductionHypothesis (Option.map_eq_none_iff.mp unread)
      rintro (_ | ⟨first, front⟩) behind split
      · exact absurd (List.cons.inj split).1 plain
      · rw [List.getLast?_cons, inside front behind (List.cons.inj split).2]
        rfl
  · intro stays
    by_contra read
    obtain ⟨⟨value, left⟩, found⟩ := Option.ne_none_iff_exists'.mp read
    obtain ⟨rfl, closed⟩ := readQuoted_eq_some_iff.mp found
    have last := stays (escaped value) left rfl
    rw [getLast?_escaped] at last
    exact closed last

/-- How a value stands in a text, and what stands behind it. -/
inductive Writes : List Char → List Char → List Char → Prop where
  | quoted {value : List Char} (left : List Char) (closed : value.getLast? ≠ some '\\') :
    Writes ('"' :: (escaped value ++ '"' :: left)) value left
  | bare {value left : List Char} (plain : value.head? ≠ some '"')
    (letters : ∀ letter ∈ value, Text.isBlank letter = false)
    (stop : ∀ mark ∈ left.head?, Text.isBlank mark = true) : Writes (value ++ left) value left

theorem readValue_quote (letters : List Char) :
    readValue ('"' :: letters) = readQuoted letters := by
  rw [readValue, if_pos List.head?_cons, List.tail_cons]

/-- A value is read just as it is written. -/
theorem readValue_eq_some_iff {written value left : List Char} :
    readValue written = some (value, left) ↔ Writes written value left := by
  constructor
  · intro read
    by_cases quoted : written.head? = some '"'
    · obtain ⟨letters, rfl⟩ := List.head?_eq_some_iff.mp quoted
      rw [readValue_quote] at read
      obtain ⟨rfl, closed⟩ := readQuoted_eq_some_iff.mp read
      exact .quoted left closed
    · obtain ⟨run, rest, rfl, kept, stop⟩ := Text.exists_run (!Text.isBlank ·) written
      obtain ⟨taken, behind⟩ := Text.takeWhile_append_of_stop kept stop
      rw [readValue, if_neg quoted, taken, behind] at read
      obtain ⟨rfl, rfl⟩ := Prod.mk.inj (Option.some.inj read)
      refine .bare (fun first => quoted ?_) (by simpa using kept) (by simpa using stop)
      rw [List.head?_append, first]
      rfl
  · intro writes
    cases writes with
    | quoted _ closed =>
      rw [readValue_quote]
      exact readQuoted_escaped closed left
    | bare plain letters stop =>
      have unquoted : (value ++ left).head? ≠ some '"' := by
        cases value with
        | nil =>
          intro first
          exact absurd (stop '"' first) (by decide)
        | cons => exact plain
      obtain ⟨taken, behind⟩ := @Text.takeWhile_append_of_stop (!Text.isBlank ·) value left
        (by simpa using letters) (by simpa using stop)
      rw [readValue, if_neg unquoted, taken, behind]

theorem readValue_eq_none_iff {written : List Char} :
    readValue written = none ↔ ∃ inner, written = '"' :: inner ∧ StaysOpen inner := by
  by_cases quoted : written.head? = some '"'
  · obtain ⟨letters, rfl⟩ := List.head?_eq_some_iff.mp quoted
    rw [readValue_quote, readQuoted_eq_none_iff]
    simp
  · rw [readValue, if_neg quoted]
    refine iff_of_false (by simp) ?_
    rintro ⟨inner, rfl, -⟩
    exact quoted rfl

/-! ### Faults -/

/-- Where reading a text comes to a fault, and to which one. -/
inductive Fails : List Char → ConnectFault → Prop where
  /-- Something that is no blank begins with no key, or no equals sign stands behind the key. -/
  | unkeyed {blanks key behind : List Char}
    (blank : ∀ letter ∈ blanks, Text.isBlank letter = true)
    (letters : ∀ letter ∈ key, isKeyChar letter = true)
    (stop : ∀ mark ∈ behind.head?, isKeyChar mark = false)
    (present : ∃ mark ∈ (key ++ behind).head?, Text.isBlank mark = false)
    (broken : key = [] ∨ behind.head? ≠ some '=') :
    Fails (blanks ++ (key ++ behind)) (.entry (String.ofList key))
  /-- The quote in front of a value is never closed. -/
  | unclosed {blanks key inner : List Char}
    (blank : ∀ letter ∈ blanks, Text.isBlank letter = true) (keyed : key ≠ [])
    (letters : ∀ letter ∈ key, isKeyChar letter = true) (stays : StaysOpen inner) :
    Fails (blanks ++ (key ++ '=' :: '"' :: inner)) (.unclosedQuote (String.ofList key))
  /-- What is left behind an entry comes to a fault. -/
  | later {blanks key written value left : List Char} {fault : ConnectFault}
    (blank : ∀ letter ∈ blanks, Text.isBlank letter = true) (keyed : key ≠ [])
    (letters : ∀ letter ∈ key, isKeyChar letter = true)
    (writes : Writes written value left) (more : Fails left fault) :
    Fails (blanks ++ (key ++ '=' :: written)) fault

/-- No entry is read where there is no key or no equals sign. -/
theorem readEntries_unkeyed {key behind : List Char}
    (letters : ∀ letter ∈ key, isKeyChar letter = true)
    (stop : ∀ mark ∈ behind.head?, isKeyChar mark = false)
    (present : ∃ mark ∈ (key ++ behind).head?, Text.isBlank mark = false)
    (broken : key = [] ∨ behind.head? ≠ some '=') :
    readEntries (key ++ behind) = .error (.entry (String.ofList key)) := by
  obtain ⟨mark, first, solid⟩ := present
  obtain ⟨others, whole⟩ := List.head?_eq_some_iff.mp first
  have start : (key ++ behind).dropWhile Text.isBlank = key ++ behind := by
    rw [whole, List.dropWhile_cons_of_neg (by simp [solid])]
  obtain ⟨taken, rest⟩ := Text.takeWhile_append_of_stop letters stop
  rw [← start] at rest
  rw [readEntries]
  simp only [start, taken]
  rw [if_neg (by simp [whole])]
  split
  next found =>
    have equals : behind.head? = some '=' := by rw [← rest, found, List.head?_cons]
    rw [if_pos (List.isEmpty_iff.mpr (broken.resolve_right (not_not.mpr equals)))]
  next => rfl

/-- A text that comes to a fault is not read. -/
theorem Fails.readEntries_eq {letters : List Char} {fault : ConnectFault}
    (fails : Fails letters fault) : readEntries letters = .error fault := by
  induction fails with
  | unkeyed blank letters stop present broken =>
    rw [readEntries_append _ blank]
    exact readEntries_unkeyed letters stop present broken
  | unclosed blank keyed letters stays =>
    rw [readEntries_append _ blank, readEntries_key keyed letters,
      readValue_eq_none_iff.mpr ⟨_, rfl, stays⟩]
    rfl
  | later blank keyed letters writes _ inductionHypothesis =>
    rw [readEntries_append _ blank,
      readEntries_entry keyed letters (readValue_eq_some_iff.mpr writes), inductionHypothesis]
    rfl

/-- Every text is read to its end or comes to a fault. -/
theorem reads_or_fails (letters : List Char) :
    (∃ listed, Reads letters listed) ∨ ∃ fault, Fails letters fault := by
  -- What is left behind an entry is shorter than the text.
  induction whole : letters.length using Nat.strong_induction_on generalizing letters with
  | _ size inductionHypothesis =>
    obtain ⟨blanks, start, rfl, blank, first⟩ := Text.exists_run Text.isBlank letters
    obtain ⟨key, behind, rfl, named, stop⟩ := Text.exists_run isKeyChar start
    by_cases nothing : key ++ behind = []
    · rw [nothing, List.append_nil]
      exact .inl ⟨[], .blank blank⟩
    by_cases entry : key ≠ [] ∧ behind.head? = some '='
    · obtain ⟨keyed, equals⟩ := entry
      obtain ⟨written, rfl⟩ := List.head?_eq_some_iff.mp equals
      cases read : readValue written with
      | none =>
        obtain ⟨inner, rfl, stays⟩ := readValue_eq_none_iff.mp read
        exact .inr ⟨_, .unclosed blank keyed named stays⟩
      | some found =>
        obtain ⟨value, left⟩ := found
        have shorter : left.length < size := by
          have bound := readValue_length_le read
          simp only [List.length_append, List.length_cons] at whole
          omega
        rcases inductionHypothesis left.length shorter left rfl with
          ⟨others, more⟩ | ⟨fault, fails⟩
        · exact .inl ⟨_, .entry blank keyed named read more⟩
        · exact .inr ⟨fault, .later blank keyed named (readValue_eq_some_iff.mp read) fails⟩
    · obtain ⟨mark, others, starts⟩ := List.exists_cons_of_ne_nil nothing
      have present : ∃ mark ∈ (key ++ behind).head?, Text.isBlank mark = false := by
        rw [starts] at first ⊢
        exact ⟨mark, rfl, first mark rfl⟩
      rw [not_and_or, not_not] at entry
      exact .inr ⟨_, .unkeyed blank named stop present entry⟩

/-! ### Entries with blanks between them -/

/-- A text that writes entries in quotes, with one blank or more between neighbours. -/
inductive Spaced : List (String × String) → List Char → Prop where
  | nil : Spaced [] []
  | single (entry : String × String) : Spaced [entry] (entryLetters entry)
  | cons (entry : String × String) {gap letters : List Char} {next : String × String}
    {others : List (String × String)} (present : gap ≠ [])
    (blank : ∀ letter ∈ gap, Text.isBlank letter = true)
    (more : Spaced (next :: others) letters) :
    Spaced (entry :: next :: others) (entryLetters entry ++ (gap ++ letters))

/-- Entries in quotes with blanks between them are read as they were. -/
theorem Spaced.readEntries_eq {listed : List (String × String)} {letters : List Char}
    (spaced : Spaced listed letters) (writable : ∀ entry ∈ listed, IsWritable entry) :
    readEntries letters = .ok listed := by
  induction spaced with
  | nil => exact readEntries_nil
  | single entry =>
    have read := readEntries_entryLetters (writable entry List.mem_cons_self) []
    rw [List.append_nil, readEntries_nil] at read
    exact read
  | cons entry _ blank _ inductionHypothesis =>
    obtain ⟨first, others⟩ := List.forall_mem_cons.mp writable
    rw [readEntries_entryLetters first, readEntries_append _ blank, inductionHypothesis others]
    rfl

/-- **Reading undoes quoting, and fails for two reasons only.** Entries that are written in quotes
are read as they were, whatever blanks stand between them. Every text is read to its end or comes to
a fault, which is either an entry without a key and an equals sign or a quote that is never closed;
and a text that comes to a fault is not read. -/
theorem entries_undo_quoting (text : String) :
    (∀ listed, (∀ entry ∈ listed, IsWritable entry) → Spaced listed text.toList →
      entries text = .ok listed) ∧
    ((∃ listed, entries text = .ok listed ∧ Reads text.toList listed) ∨
      ∃ fault, entries text = .error fault ∧ Fails text.toList fault) ∧
    ∀ fault, Fails text.toList fault → entries text = .error fault := by
  refine ⟨fun listed writable spaced => spaced.readEntries_eq writable, ?_,
    fun fault fails => fails.readEntries_eq⟩
  rcases reads_or_fails text.toList with ⟨listed, reads⟩ | ⟨fault, fails⟩
  · exact .inl ⟨listed, readEntries_eq_ok_iff.mpr reads, reads⟩
  · exact .inr ⟨fault, fails.readEntries_eq, fails⟩

/-- A value of two backslashes and a quote is read as it was, behind a tab and a wide space. -/
theorem entries_undo_quoting_backslashes :
    (∀ entry ∈ [("user", "ti ger"), ("path", "\\\\\"=")], IsWritable entry) ∧
      entries "user=\"ti ger\"\t\u3000path=\"\\\\\\\"=\"" =
        .ok [("user", "ti ger"), ("path", "\\\\\"=")] := by
  have writable : ∀ entry ∈ [("user", "ti ger"), ("path", "\\\\\"=")], IsWritable entry := by
    decide
  have whole : "user=\"ti ger\"\t\u3000path=\"\\\\\\\"=\"".toList =
      entryLetters ("user", "ti ger") ++
        (['\t', '\u3000'] ++ entryLetters ("path", "\\\\\"=")) := by decide +kernel
  have blank : ∀ letter ∈ ['\t', '\u3000'], Text.isBlank letter = true :=
    List.forall_iff_forall_mem.mp (by decide)
  refine ⟨writable, (entries_undo_quoting _).1 _ writable ?_⟩
  rw [whole]
  exact .cons _ (by decide) blank (.single _)

end OracleSql.KeyValue
