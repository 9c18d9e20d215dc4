/-
This file compares the two spellings of a user and a password. In a location they are written
percent-encoded, since otherwise they would end where one of their characters means something else.
In a list of entries they are written in quotes. A list gives back what was written, but a location
keeps the encoding. So the two agree just if nothing had to be encoded, and then nothing in them
could end the quotes or be taken for a mark.
-/

import OracleSql.Proofs.Column.Canonical
import OracleSql.Proofs.Connect.Recognized

namespace OracleSql

/-! ### Encoded letters -/

namespace Text

variable {reserved : List Char}

/-- Whether a letter is written percent-encoded. -/
def isEncoded (reserved : List Char) (letter : Char) : Bool :=
  isControlOrWide letter || reserved.contains letter

/-- A letter in percent-encoding. -/
def encodedLetter (reserved : List Char) (letter : Char) : List Char :=
  if isEncoded reserved letter then
    (bytes (String.singleton letter)).flatMap percentByte
  else [letter]

theorem percentEncode_eq_flatMap (reserved letters : List Char) :
    percentEncode reserved letters = letters.flatMap (encodedLetter reserved) := rfl

/-- A byte is written with three characters. -/
theorem length_percentByte (byte : UInt8) : (percentByte byte).length = 3 := by
  simp [percentByte, length_hexDigits]

/-- An encoded letter takes at least three characters. -/
theorem three_le_length_encodedLetter {letter : Char} (encoded : isEncoded reserved letter = true) :
    3 ≤ (encodedLetter reserved letter).length := by
  have written : bytes (String.singleton letter) ≠ [] := by
    rw [bytes_eq_flatMap, String.toList_singleton, List.flatMap_singleton]
    exact String.utf8EncodeChar_ne_nil
  obtain ⟨first, others, split⟩ := List.exists_cons_of_ne_nil written
  rw [encodedLetter, if_pos encoded, split, List.flatMap_cons, List.length_append,
    length_percentByte]
  exact Nat.le_add_right 3 _

/-- Letters that each take at most as many characters as encoded take at most as many together. -/
theorem length_flatMap_le_percentEncode {form : Char → List Char}
    (each : ∀ letter, (form letter).length ≤ (encodedLetter reserved letter).length)
    (letters : List Char) :
    (letters.flatMap form).length ≤ (percentEncode reserved letters).length := by
  rw [percentEncode_eq_flatMap]
  induction letters with
  | nil => exact Nat.le_refl 0
  | cons letter rest inductionHypothesis =>
    rw [List.flatMap_cons, List.flatMap_cons, List.length_append, List.length_append]
    exact Nat.add_le_add (each letter) inductionHypothesis

/-- A letter that is not encoded is one character, and one that is takes more. -/
theorem length_pos_encodedLetter (letter : Char) :
    [letter].length ≤ (encodedLetter reserved letter).length := by
  by_cases encoded : isEncoded reserved letter = true
  · exact Nat.le_of_succ_le (Nat.le_of_succ_le (three_le_length_encodedLetter encoded))
  · rw [encodedLetter, if_neg encoded]

theorem length_le_percentEncode (reserved letters : List Char) :
    letters.length ≤ (percentEncode reserved letters).length := by
  have longer : (letters.flatMap fun letter => [letter]).length ≤
      (percentEncode reserved letters).length :=
    length_flatMap_le_percentEncode length_pos_encodedLetter letters
  rwa [List.flatMap_singleton'] at longer

/-- What is encoded is longer than before, so only what needs no encoding stays as it is. -/
theorem percentEncode_eq_self_iff {letters : List Char} :
    percentEncode reserved letters = letters ↔
      ∀ letter ∈ letters, isEncoded reserved letter = false := by
  induction letters with
  | nil => simp [percentEncode]
  | cons letter rest inductionHypothesis =>
    rw [List.forall_mem_cons, ← inductionHypothesis, percentEncode_eq_flatMap, List.flatMap_cons,
      ← percentEncode_eq_flatMap]
    by_cases encoded : isEncoded reserved letter = true
    · refine iff_of_false (fun same => ?_) (by simp [encoded])
      have longer := three_le_length_encodedLetter encoded
      have behind := length_le_percentEncode reserved rest
      have whole := congrArg List.length same
      rw [List.length_append, List.length_cons] at whole
      omega
    · simp [encodedLetter, encoded]

/-- What is encoded holds digits, percent signs and characters that need no encoding. -/
theorem mem_percentEncode {letters : List Char} {letter : Char}
    (member : letter ∈ percentEncode reserved letters) :
    isEncoded reserved letter = false ∨ letter = '%' ∨
      ∃ digit < 16, letter = (Nat.digitChar digit).toUpper := by
  rw [percentEncode_eq_flatMap] at member
  obtain ⟨source, -, written⟩ := List.mem_flatMap.mp member
  unfold encodedLetter at written
  split at written
  next =>
    obtain ⟨byte, -, inside⟩ := List.mem_flatMap.mp written
    rcases List.mem_cons.mp inside with percent | digits
    · exact .inr (.inl percent)
    · obtain ⟨digit, own, rfl⟩ := List.mem_map.mp digits
      have known : ∀ digit ∈ hexDigits 2 byte.toNat,
          ∃ value < 16, digit.toUpper = (Nat.digitChar value).toUpper :=
        forall_mem_hexDigits (fun value small => ⟨value, small, rfl⟩) 2 byte.toNat
      exact .inr (.inr (known digit own))
  next plain =>
    obtain rfl := List.mem_singleton.mp written
    exact .inl (by simpa using plain)

end Text

/-! ### Credentials of a location -/

namespace Url

open Text

/-- Whether a character of a user or a password is kept as it is. -/
def isPlain (letter : Char) : Bool :=
  !isEncoded userReserved letter

variable {reserved letters : List Char}

/-- What is encoded stays so, if at least what a location reserves is encoded. -/
theorem isPlain_of_mem_percentEncode (encodes : ∀ letter ∈ userReserved, letter ∈ reserved)
    {letter : Char} (member : letter ∈ percentEncode reserved letters) : isPlain letter = true := by
  rcases mem_percentEncode member with kept | rfl | ⟨digit, small, rfl⟩
  · rw [isEncoded, Bool.or_eq_false_iff] at kept
    have apart : letter ∉ reserved := by simpa using kept.2
    have free : userReserved.contains letter = false := by
      simpa using fun inside => apart (encodes letter inside)
    rw [isPlain, isEncoded, kept.1, free]
    rfl
  · decide
  · have digits : ∀ digit < 16, isPlain (Nat.digitChar digit).toUpper = true := by decide
    exact digits digit small

/-- A plain character is no blank, ends no authority and is none of its marks. -/
theorem facts_of_isPlain {letter : Char} (plain : isPlain letter = true) :
    isSolid letter = true ∧ endsAuthority .free letter = false ∧ letter ≠ ':' := by
  refine forall_ascii (fun letter => isPlain letter = true →
    isSolid letter = true ∧ endsAuthority .free letter = false ∧ letter ≠ ':') (by decide) ?_ plain
  rw [isPlain, isEncoded, isControlOrWide] at plain
  simp only [Bool.not_eq_true', Bool.or_eq_false_iff, decide_eq_false_iff_not] at plain
  omega

/-- A user and a password of plain characters are read as they are written. -/
theorem credentials_of_plain {user password : List Char} (written : password ≠ [])
    (users : ∀ letter ∈ user, isPlain letter = true)
    (passwords : ∀ letter ∈ password, isPlain letter = true) :
    credentials (user ++ ':' :: password) =
      (String.ofList user, some (String.ofList password)) := by
  have kept : ∀ letter ∈ user, (letter != ':') = true := fun letter member =>
    bne_iff_ne.mpr (facts_of_isPlain (users letter member)).2.2
  have stop : ∀ mark ∈ (':' :: password).head?, (mark != ':') = false := by
    rintro mark ⟨⟩
    rfl
  have same {letters : List Char} (plain : ∀ letter ∈ letters, isPlain letter = true) :
      userText letters = String.ofList letters := by
    rw [userText, percentEncode_eq_self_iff.mpr fun letter member =>
      (Bool.not_eq_true' _).mp (plain letter member)]
  obtain ⟨taken, behind⟩ := takeWhile_append_of_stop kept stop
  rw [credentials]
  simp only [taken, behind, List.drop_one, List.tail_cons]
  rw [if_neg (by simpa using written), same users, same passwords]

end Url

/-! ### Both spellings -/

namespace ConnectTarget

open KeyValue Url

/-- A text with the given characters percent-encoded. -/
def encoded (reserved : List Char) (text : String) : String :=
  String.ofList (Text.percentEncode reserved text.toList)

/-- A location with a user and a password, percent-encoded, in front of its host. -/
def located (scheme : String) (reserved : List Char) (user password rest : String) : String :=
  scheme ++ "://" ++ encoded reserved user ++ ":" ++ encoded reserved password ++ "@" ++ rest

/-- Entries with a user and a password at their end. -/
def withLogin (others : List (String × String)) (user password : String) : List (String × String) :=
  others ++ [("user", user), ("password", password)]

variable {scheme user password rest : String} {reserved : List Char}

/-- A location keeps the user and the password as they are encoded. -/
theorem parse_encoded (known : scheme ∈ schemes)
    (encodes : ∀ letter ∈ userReserved, letter ∈ reserved)
    (here : '@' ∉ authority rest.toList) {bare : ConnectTarget}
    (read : parse (scheme ++ "://" ++ rest) = .ok bare) (user : String) (given : password ≠ "") :
    parse (located scheme reserved user password rest) =
      .ok { bare with
        user := encoded reserved user
        password := some (encoded reserved password) } := by
  have plain {text : String} : ∀ letter ∈ Text.percentEncode reserved text.toList,
      isPlain letter = true := fun _ => isPlain_of_mem_percentEncode encodes
  have written : Text.percentEncode reserved password.toList ≠ [] := fun empty => by
    have longer := Text.length_le_percentEncode reserved password.toList
    rw [empty, List.length_nil, Nat.le_zero, List.length_eq_zero_iff] at longer
    exact given (String.toList_eq_nil_iff.mp longer)
  have inside : ∀ letter ∈ Text.percentEncode reserved user.toList ++
      ':' :: Text.percentEncode reserved password.toList,
      isSolid letter = true ∧ endsAuthority .free letter = false := by
    refine List.forall_mem_append.mpr ⟨fun letter member => ?_,
      List.forall_mem_cons.mpr ⟨by decide, fun letter member => ?_⟩⟩
    all_goals
      have facts := facts_of_isPlain (plain letter member)
      exact ⟨facts.1, facts.2.1⟩
  have host : scheme ++ "://" ++ rest = String.ofList (scheme.toList ++ mark ++ rest.toList) := by
    simp [← String.toList_inj, mark]
  have whole : located scheme reserved user password rest =
      String.ofList (scheme.toList ++ mark ++ ((Text.percentEncode reserved user.toList ++
        ':' :: Text.percentEncode reserved password.toList) ++ '@' :: rest.toList)) := by
    simp [← String.toList_inj, located, encoded, mark]
  rw [whole, parse_login known (by simp) (fun letter member => (inside letter member).1)
    (fun letter member => (inside letter member).2) here (host ▸ read),
    credentials_of_plain written plain plain]
  rfl

/-! ### What a list of entries says of a user and a password -/

/-- Entries that are written first in a list and say nothing of a user and a password. -/
structure IsOther (entry : String × String) : Prop where
  writable : IsWritable entry
  apart : entry.1 ∉ userKeys ++ passwordKeys
  key : ¬ mark <:+: entry.1.toList
  value : ¬ mark <:+: entry.2.toList

/-- The keys that a user and a password are written under. -/
theorem keyed_login : ∀ key ∈ ["user", "password"],
    key ≠ "" ∧ (∀ letter ∈ key.toList, isKeyChar letter = true) ∧ ¬ mark <:+: key.toList := by
  have own : ∀ key ∈ ["user", "password"],
      key ≠ "" ∧ key.toList.all isKeyChar = true ∧ ¬ mark <:+: key.toList := by
    decide
  intro key member
  obtain ⟨keyed, letters, unmarked⟩ := own key member
  exact ⟨keyed, List.all_eq_true.mp letters, unmarked⟩

theorem isWritable_login {key value : String} (known : key ∈ ["user", "password"])
    (closed : value.toList.getLast? ≠ some '\\') : IsWritable (key, value) :=
  ⟨(keyed_login key known).1, (keyed_login key known).2.1, closed⟩

/-- Entries give back a user and a password that are written last. -/
theorem login_of_holds {target : ConnectTarget} {others : List (String × String)}
    (holds : target.Holds (withLogin others user password)) :
    target.user = user ∧ target.password = some password := by
  have split : withLogin others user password =
      (others ++ [("user", user)]) ++ [("password", password)] := by
    rw [withLogin, List.append_assoc]
    rfl
  have own : "user" ∈ userKeys ∧ "password" ∉ userKeys ∧ "password" ∈ passwordKeys := by decide
  rw [split] at holds
  constructor
  · rw [holds.user, lastValue?_concat, if_neg own.2.1, lastValue?_concat, if_pos own.1]
    rfl
  · rw [holds.password, lastValue?_concat, if_pos own.2.2]

/-- The entry that counts is one of them. -/
theorem exists_of_lastValue? {keys : List String} {entries : List (String × String)}
    {found : String} (last : lastValue? keys entries = some found) :
    ∃ entry ∈ entries, entry.1 ∈ keys ∧ entry.2 = found := by
  obtain ⟨entry, inside, rfl⟩ := Option.map_eq_some_iff.mp last
  exact ⟨entry, List.mem_reverse.mp (List.mem_of_find?_eq_some inside),
    by simpa using List.find?_some inside, rfl⟩

/-- The value of a user that ends with a backslash goes on to the quote in front of the password,
and the password is read as a list of entries. -/
theorem readEntries_open {inner : List Char} (whole : user.toList = inner ++ ['\\']) :
    readEntries (written [("user", user), ("password", password)]).toList =
      (readEntries (escaped password.toList ++ ['"'])).map
        (("user", String.ofList (inner ++ '"' :: " password=".toList)) :: ·) := by
  have between : escaped " password=".toList = " password=".toList := by decide
  have split : (written [("user", user), ("password", password)]).toList =
      "user".toList ++ '=' :: '"' :: (escaped (inner ++ ['\\']) ++ '"' ::
        (escaped " password=".toList ++ '"' :: (escaped password.toList ++ ['"']))) := by
    rw [written_cons_cons, written_singleton, between, entryLetters, entryLetters, whole]
    simp
  have read : readValue ('"' :: (escaped (inner ++ ['\\']) ++ '"' ::
      (escaped " password=".toList ++ '"' :: (escaped password.toList ++ ['"'])))) =
      some (inner ++ '"' :: " password=".toList, escaped password.toList ++ ['"']) := by
    rw [readValue_open, readQuoted_escaped (by decide)]
    rfl
  rw [split, readEntries_entry (by decide) (List.all_eq_true.mp (by decide)) read]
  rfl

/-- The quotes of a password that ends with a backslash stay open. -/
theorem readEntries_unclosed {inner : List Char} (whole : password.toList = inner ++ ['\\']) :
    readEntries (written [("password", password)]).toList = .error (.unclosedQuote "password") := by
  have split : (written [("password", password)]).toList =
      "password".toList ++ '=' :: '"' :: (escaped (inner ++ ['\\']) ++ '"' :: []) := by
    rw [written_singleton, entryLetters, whole]
  rw [split, readEntries_key (by decide) (List.all_eq_true.mp (by decide)), readValue_open]
  rfl

/-- A list is read as it was written if the password that is read is not shorter than the one that
was written. -/
theorem eq_withLogin_of_read {others listed : List (String × String)} {found : String}
    (free : ∀ entry ∈ others, IsOther entry)
    (read : readEntries (written (withLogin others user password)).toList = .ok listed)
    (last : lastValue? passwordKeys listed = some found)
    (long : (escaped password.toList).length ≤ found.toList.length) :
    listed = withLogin others user password := by
  rw [withLogin,
    readEntries_written_append fun entry member => (free entry member).writable] at read
  obtain ⟨later, behind, rfl⟩ := map_eq_ok.mp read
  by_cases opens : user.toList.getLast? = some '\\'
  · obtain ⟨inner, whole⟩ := List.getLast?_eq_some_iff.mp opens
    rw [readEntries_open whole] at behind
    obtain ⟨more, inside, rfl⟩ := map_eq_ok.mp behind
    obtain ⟨entry, member, own, rfl⟩ := exists_of_lastValue? last
    have within : entry ∈ more := by
      rcases List.mem_append.mp member with other | later
      · exact absurd (List.mem_append_right _ own) (free entry other).apart
      · exact (List.mem_cons.mp later).resolve_left (by
        rintro rfl
        exact absurd (List.mem_singleton.mp own) (by decide : "user" ≠ "password"))
    have shorter := (readEntries_eq_ok_iff.mp inside).length_lt within
    rw [List.mem_singleton.mp own, List.length_append, List.length_singleton] at shorter
    have key : "password".toList.length = 8 := by decide
    omega
  · have users : IsWritable ("user", user) := isWritable_login (by decide) opens
    rw [readEntries_written_cons users] at behind
    obtain ⟨single, inside, rfl⟩ := map_eq_ok.mp behind
    by_cases unclosed : password.toList.getLast? = some '\\'
    · obtain ⟨inner, whole⟩ := List.getLast?_eq_some_iff.mp unclosed
      rw [readEntries_unclosed whole] at inside
      cases inside
    · have passwords : IsWritable ("password", password) := isWritable_login (by decide) unclosed
      have whole := entries_written (List.forall_mem_singleton.mpr passwords)
      obtain rfl := Except.ok.inj (inside.symm.trans whole)
      rfl

/-- The first key of a list is written in front and holds no mark. -/
theorem exists_withLogin_cons {others : List (String × String)}
    (free : ∀ entry ∈ others, IsOther entry) (user password : String) :
    ∃ entry rest, withLogin others user password = entry :: rest ∧ entry.1 ≠ "" ∧
      (∀ letter ∈ entry.1.toList, isKeyChar letter = true) ∧ ¬ mark <:+: entry.1.toList := by
  cases others with
  | nil => exact ⟨("user", user), _, rfl, keyed_login "user" (by decide)⟩
  | cons entry rest =>
    have own := free entry List.mem_cons_self
    exact ⟨entry, _, rfl, own.writable.keyed, own.writable.letters, own.key⟩

/-- A list is read just if there is no mark in it, and then what its entries say is read. -/
theorem parse_withLogin_eq_ok_iff {others : List (String × String)}
    (free : ∀ entry ∈ others, IsOther entry) {target : ConnectTarget} :
    parse (written (withLogin others user password)) = .ok target ↔
      ¬ mark <:+: (written (withLogin others user password)).toList ∧
        ∃ listed, readEntries (written (withLogin others user password)).toList = .ok listed ∧
          listed.foldl withEntry {} = target := by
  obtain ⟨entry, rest, split, keyed, letters, unmarked⟩ := exists_withLogin_cons free user password
  rw [split]
  have trimmed := trim_written keyed letters rest
  obtain ⟨behind, whole⟩ := exists_written_cons entry rest
  have filled : written (entry :: rest) ≠ "" := fun empty => by simp [empty] at whole
  by_cases marked : mark <:+: (written (entry :: rest)).toList
  · refine iff_of_false (fun read => ?_) fun same => same.1 marked
    obtain ⟨name, more, opens, -⟩ := opensLocation_of_parse trimmed whole letters marked read
    rw [String.ofList_toList] at opens
    have inside : mark <:+: entry.1.toList.dropWhile isEdge := ⟨name, more, opens.symm⟩
    exact unmarked (inside.trans (List.dropWhile_suffix _).isInfix)
  · rw [parse_of_unmarked trimmed filled marked, map_eq_ok]
    simp [marked, KeyValue.entries]

/-- A user and a password that end with no backslash are given back by a list, unless it is
marked. -/
theorem exists_parse_withLogin {others : List (String × String)}
    (free : ∀ entry ∈ others, IsOther entry)
    (users : user.toList.getLast? ≠ some '\\') (passwords : password.toList.getLast? ≠ some '\\')
    (userMark : ¬ mark <:+: user.toList) (passwordMark : ¬ mark <:+: password.toList) :
    ∃ target, parse (written (withLogin others user password)) = .ok target ∧
      target.user = user ∧ target.password = some password := by
  have writable : ∀ entry ∈ withLogin others user password, IsWritable entry := by
    refine List.forall_mem_append.mpr ⟨fun entry member => (free entry member).writable, ?_⟩
    exact List.forall_mem_cons.mpr ⟨isWritable_login (by decide) users,
      List.forall_mem_singleton.mpr (isWritable_login (by decide) passwords)⟩
  have read := entries_written writable
  have unmarked : ¬ mark <:+: (written (withLogin others user password)).toList := by
    rw [confined_mark.infix_iff (readEntries_eq_ok_iff.mp read)]
    rintro ⟨entry, member, marked⟩
    rcases List.mem_append.mp member with other | login
    · exact marked.elim (free entry other).key (free entry other).value
    · rcases List.mem_pair.mp login with rfl | rfl
      · exact marked.elim (keyed_login "user" (by decide)).2.2 userMark
      · exact marked.elim (keyed_login "password" (by decide)).2.2 passwordMark
  refine ⟨_, (parse_withLogin_eq_ok_iff free).mpr ⟨unmarked, _, read, rfl⟩, ?_⟩
  exact login_of_holds (holds_foldl _)

/-- Letters in quotes are no longer than encoded ones, if quotes are encoded. -/
theorem length_escaped_le (quote : '"' ∈ reserved) (letters : List Char) :
    (escaped letters).length ≤ (Text.percentEncode reserved letters).length := by
  refine Text.length_flatMap_le_percentEncode (fun letter => ?_) letters
  unfold quotedLetter
  split
  next same =>
    have encoded : Text.isEncoded reserved letter = true := by simp [Text.isEncoded, same, quote]
    exact Nat.le_of_succ_le (Text.three_le_length_encodedLetter encoded)
  next => exact Text.length_pos_encodedLetter letter

/-- A text without encoded letters ends with no backslash, holds no mark and stays as it is. -/
theorem facts_of_unencoded (encodes : ∀ letter ∈ userReserved, letter ∈ reserved) {text : String}
    (plain : ∀ letter ∈ text.toList, Text.isEncoded reserved letter = false) :
    text.toList.getLast? ≠ some '\\' ∧ ¬ mark <:+: text.toList ∧ encoded reserved text = text := by
  have apart : ∀ letter ∈ userReserved, letter ∉ text.toList := fun letter known member => by
    have free := plain letter member
    simp [Text.isEncoded, encodes letter known] at free
  refine ⟨fun last => ?_, fun marked => ?_, ?_⟩
  · exact apart '\\' (by decide) (List.mem_of_getLast? last)
  · exact apart '/' (by decide) (marked.subset (by decide))
  · rw [encoded, Text.percentEncode_eq_self_iff.mpr plain, String.ofList_toList]

/-- A location keeps a user and a password as they are encoded, and a list of entries gives them
back. So the two spellings say the same just if no letter had to be encoded. -/
theorem spellings_alike_iff (known : scheme ∈ schemes)
    (encodes : ∀ letter ∈ userReserved, letter ∈ reserved)
    (here : '@' ∉ authority rest.toList) {bare : ConnectTarget}
    (read : parse (scheme ++ "://" ++ rest) = .ok bare) (given : password ≠ "")
    {others : List (String × String)} (free : ∀ entry ∈ others, IsOther entry) :
    parse (located scheme reserved user password rest) =
        .ok { bare with
          user := encoded reserved user
          password := some (encoded reserved password) } ∧
    (user.toList.getLast? ≠ some '\\' → password.toList.getLast? ≠ some '\\' →
      ¬ mark <:+: user.toList → ¬ mark <:+: password.toList →
      ∃ target, parse (written (withLogin others user password)) = .ok target ∧
        target.user = user ∧ target.password = some password) ∧
    ((∃ first second, parse (located scheme reserved user password rest) = .ok first ∧
        parse (written (withLogin others user password)) = .ok second ∧
        first.user = second.user ∧ first.password = second.password) ↔
      ∀ letter ∈ user.toList ++ password.toList, Text.isEncoded reserved letter = false) := by
  have location := parse_encoded known encodes here read user given
  refine ⟨location, exists_parse_withLogin free, ?_⟩
  constructor
  · rintro ⟨first, second, parsed, found, sameUser, samePassword⟩
    obtain rfl := Except.ok.inj (location.symm.trans parsed)
    obtain ⟨-, listed, entries, rfl⟩ := (parse_withLogin_eq_ok_iff free).mp found
    have holds := holds_foldl listed
    have last : lastValue? passwordKeys listed = some (encoded reserved password) :=
      holds.password.symm.trans samePassword.symm
    have long : (escaped password.toList).length ≤ (encoded reserved password).toList.length := by
      rw [encoded, String.toList_ofList]
      exact length_escaped_le (encodes '"' (by decide)) _
    obtain rfl := eq_withLogin_of_read free entries last long
    obtain ⟨ownUser, ownPassword⟩ := login_of_holds holds
    have unencoded {text : String} (same : encoded reserved text = text) :
        ∀ letter ∈ text.toList, Text.isEncoded reserved letter = false := by
      refine Text.percentEncode_eq_self_iff.mp ?_
      rw [← String.toList_ofList (l := Text.percentEncode _ _)]
      exact congrArg String.toList same
    exact List.forall_mem_append.mpr ⟨unencoded (sameUser.trans ownUser),
      unencoded (Option.some.inj (samePassword.trans ownPassword))⟩
  · intro plain
    obtain ⟨users, passwords⟩ := List.forall_mem_append.mp plain
    obtain ⟨userEnd, userMark, userText⟩ := facts_of_unencoded encodes users
    obtain ⟨passwordEnd, passwordMark, passwordText⟩ := facts_of_unencoded encodes passwords
    obtain ⟨target, found, sameUser, samePassword⟩ :=
      exists_parse_withLogin free userEnd passwordEnd userMark passwordMark
    refine ⟨_, target, location, found, userText.trans sameUser.symm, ?_⟩
    rw [samePassword]
    exact congrArg some passwordText

/-- A user and a password of letters are the same in both spellings. -/
theorem spellings_alike_scott :
    let others := [("connectString", "db:1521/ORCL")]
    parse ("oracle" ++ "://" ++ "db:1521/ORCL") = .ok { target := "db:1521/ORCL" } ∧
      '@' ∉ authority "db:1521/ORCL".toList ∧ (∀ entry ∈ others, IsOther entry) ∧
      ∃ first second, parse "oracle://scott:tiger@db:1521/ORCL" = .ok first ∧
        parse (written (withLogin others "scott" "tiger")) = .ok second ∧
        first.user = second.user ∧ first.password = second.password := by
  intro others
  have free : ∀ entry ∈ others, IsOther entry :=
    List.forall_mem_singleton.mpr ⟨by decide, by decide, by decide, by decide⟩
  have host : parse ("oracle" ++ "://" ++ "db:1521/ORCL") = .ok { target := "db:1521/ORCL" } := by
    decide +kernel
  have here : '@' ∉ authority "db:1521/ORCL".toList := by decide
  have spelled : located "oracle" ('%' :: userReserved) "scott" "tiger" "db:1521/ORCL" =
      "oracle://scott:tiger@db:1521/ORCL" := by decide +kernel
  have alike := @spellings_alike_iff "oracle" "scott" "tiger" _ ('%' :: userReserved) (by decide)
    (fun _ => List.mem_cons_of_mem _) here _ host (by decide) _ free
  rw [spelled] at alike
  exact ⟨host, here, free, alike.2.2.mpr (List.forall_iff_forall_mem.mp (by decide))⟩

/-- A password with an at sign is encoded in a location and stays so. -/
theorem spellings_apart :
    ∃ first second, encoded ('%' :: userReserved) "p@ss" = "p%40ss" ∧
      parse "oracle://scott:p%40ss@db:1521/ORCL" = .ok first ∧
      parse (written (withLogin [("connectString", "db:1521/ORCL")] "scott" "p@ss")) = .ok second ∧
      first.password = some "p%40ss" ∧ second.password = some "p@ss" := by
  have free : ∀ entry ∈ [("connectString", "db:1521/ORCL")], IsOther entry :=
    List.forall_mem_singleton.mpr ⟨by decide, by decide, by decide, by decide⟩
  have location : parse "oracle://scott:p%40ss@db:1521/ORCL" =
      .ok { user := "scott", password := some "p%40ss", target := "db:1521/ORCL" } := by
    decide +kernel
  obtain ⟨target, found, -, given⟩ := @exists_parse_withLogin "scott" "p@ss" _ free
    (by decide) (by decide) (by decide) (by decide)
  exact ⟨_, target, by decide +kernel, location, found, rfl, given⟩

end ConnectTarget

end OracleSql
