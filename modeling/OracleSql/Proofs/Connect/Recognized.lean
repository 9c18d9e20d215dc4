/-
This file says which lists of entries are recognized as such. What is read of a list is what its
entries say, the last one of each key: this is an invariant of the entries that were taken so far.
But whether a text is a list is decided by one look at it as a whole, at the mark that stands behind
the scheme of a location. So a list is read as one just if the mark stands in none of its keys and
in none of its values, in quotes or not; any other one is refused, unless its first key already
begins with the scheme of a database and the mark, and so like a location.
-/

import Mathlib.Data.List.Nodup
import OracleSql.Proofs.Connect.Entries
import OracleSql.Proofs.Connect.Location

namespace OracleSql

/-! ### What entries say -/

namespace KeyValue

/-- The value of the last entry under one of the keys. -/
def lastValue? (keys : List String) (entries : List (String × String)) : Option String :=
  (entries.reverse.find? fun entry => keys.contains entry.1).map Prod.snd

theorem lastValue?_nil (keys : List String) : lastValue? keys [] = none := rfl

/-- An entry takes the place of those before it. -/
theorem lastValue?_concat (keys : List String) (entries : List (String × String))
    (entry : String × String) :
    lastValue? keys (entries ++ [entry]) =
      if entry.1 ∈ keys then some entry.2 else lastValue? keys entries := by
  rw [lastValue?, List.reverse_append, List.reverse_singleton, List.singleton_append]
  by_cases own : entry.1 ∈ keys
  · rw [List.find?_cons_of_pos (by simpa using own), if_pos own]
    rfl
  · rw [List.find?_cons_of_neg (by simpa using own), if_neg own]
    rfl

end KeyValue

namespace ConnectTarget

open KeyValue Url

/-- The keys of the user. -/
def userKeys : List String := ["user", "username"]

/-- The keys of the password. -/
def passwordKeys : List String := ["password"]

/-- The keys of the connect text. -/
def targetKeys : List String := ["connectString", "connect_string"]

/-- The keys of the directory of the libraries. -/
def libraryKeys : List String := ["libDir", "lib_dir"]

/-- The keys of what is no option. -/
def namedKeys : List String := userKeys ++ passwordKeys ++ targetKeys ++ libraryKeys

/-- A target says what entries say: of each key the last one counts. -/
structure Holds (target : ConnectTarget) (entries : List (String × String)) : Prop where
  user : target.user = (lastValue? userKeys entries).getD ""
  password : target.password = lastValue? passwordKeys entries
  connectText : target.target = (lastValue? targetKeys entries).getD ""
  libraryDirectory : target.libraryDirectory = lastValue? libraryKeys entries
  once : (target.options.map Prod.fst).Nodup
  options : ∀ key value, (key, value) ∈ target.options ↔
    key ∉ namedKeys ∧ lastValue? [key] entries = some value

/-! ### Entry by entry -/

/-- A key that is put among others stands there once. -/
theorem map_fst_putOption (key value : String) (options : List (String × String)) :
    (putOption key value options).map Prod.fst =
      if key ∈ options.map Prod.fst then options.map Prod.fst
      else options.map Prod.fst ++ [key] := by
  induction options with
  | nil => rfl
  | cons option rest inductionHypothesis =>
    rw [putOption]
    split
    next same => simp [same]
    next other =>
      rw [List.map_cons, inductionHypothesis]
      simp only [List.map_cons, List.mem_cons, Ne.symm other, false_or]
      split <;> rfl

theorem nodup_putOption {options : List (String × String)} (once : (options.map Prod.fst).Nodup)
    (key value : String) : ((putOption key value options).map Prod.fst).Nodup := by
  rw [map_fst_putOption]
  split
  next => exact once
  next fresh =>
    rw [← List.concat_eq_append]
    exact List.Nodup.concat fresh once

/-- A value that is put under a key is the only one there, and the other keys keep theirs. -/
theorem mem_putOption {options : List (String × String)} (once : (options.map Prod.fst).Nodup)
    (key value other found : String) :
    (other, found) ∈ putOption key value options ↔
      if key = other then found = value else (other, found) ∈ options := by
  induction options with
  | nil =>
    rw [putOption]
    by_cases same : key = other <;> simp [same, eq_comm]
  | cons option rest inductionHypothesis =>
    obtain ⟨fresh, onceRest⟩ := List.nodup_cons.mp once
    have elsewhere : (option.1, found) ∉ rest := fun member =>
      fresh (List.mem_map.mpr ⟨_, member, rfl⟩)
    rw [putOption]
    split
    next own =>
      subst own
      by_cases same : option.1 = other
      · subst same
        simp [elsewhere]
      · simp [same, Ne.symm same, Prod.ext_iff]
    next apart =>
      rw [List.mem_cons, inductionHypothesis onceRest, List.mem_cons]
      by_cases same : key = other
      · subst same
        simp [Ne.symm apart, Prod.ext_iff]
      · rw [if_neg same, if_neg same]

/-! What an entry is to a target. -/

theorem withEntry_user (target : ConnectTarget) (entry : String × String) :
    (target.withEntry entry).user = if entry.1 ∈ userKeys then entry.2 else target.user := by
  grind [withEntry, withOption, userKeys]

theorem withEntry_password (target : ConnectTarget) (entry : String × String) :
    (target.withEntry entry).password =
      if entry.1 ∈ passwordKeys then some entry.2 else target.password := by
  grind [withEntry, withOption, passwordKeys]

theorem withEntry_target (target : ConnectTarget) (entry : String × String) :
    (target.withEntry entry).target = if entry.1 ∈ targetKeys then entry.2 else target.target := by
  grind [withEntry, withOption, targetKeys]

theorem withEntry_libraryDirectory (target : ConnectTarget) (entry : String × String) :
    (target.withEntry entry).libraryDirectory =
      if entry.1 ∈ libraryKeys then some entry.2 else target.libraryDirectory := by
  grind [withEntry, withOption, libraryKeys]

theorem withEntry_options (target : ConnectTarget) (entry : String × String) :
    (target.withEntry entry).options =
      if entry.1 ∈ namedKeys then target.options
      else putOption entry.1 entry.2 target.options := by
  grind [withEntry, withOption, namedKeys, userKeys, passwordKeys, targetKeys, libraryKeys]

/-- One more entry takes the place of those before it. -/
theorem Holds.withEntry {target : ConnectTarget} {entries : List (String × String)}
    (holds : target.Holds entries) (entry : String × String) :
    (target.withEntry entry).Holds (entries ++ [entry]) where
  user := by
    rw [withEntry_user, lastValue?_concat, holds.user]
    split <;> rfl
  password := by
    rw [withEntry_password, lastValue?_concat, holds.password]
  connectText := by
    rw [withEntry_target, lastValue?_concat, holds.connectText]
    split <;> rfl
  libraryDirectory := by
    rw [withEntry_libraryDirectory, lastValue?_concat, holds.libraryDirectory]
  once := by
    rw [withEntry_options]
    split
    · exact holds.once
    · exact nodup_putOption holds.once entry.1 entry.2
  options := fun key value => by
    rw [withEntry_options, lastValue?_concat]
    simp only [List.mem_singleton]
    split
    next named =>
      rw [holds.options]
      refine and_congr_right fun free => ?_
      rw [if_neg]
      rintro rfl
      exact free named
    next free =>
      rw [mem_putOption holds.once, holds.options]
      split
      next same =>
        subst same
        simp [free, eq_comm]
      next => rfl

/-- What is taken of entries is what they say. -/
theorem holds_foldl (entries : List (String × String)) :
    (entries.foldl withEntry {}).Holds entries := by
  induction entries using List.reverseRecOn with
  | nil => exact ⟨rfl, rfl, rfl, rfl, List.nodup_nil, by simp [lastValue?_nil]⟩
  | append_singleton front entry inductionHypothesis =>
    rw [List.foldl_append]
    exact inductionHypothesis.withEntry entry

/-! ### The mark -/

theorem confined_mark : Confined mark where
  written := by decide
  blank := List.forall_iff_forall_mem.mp (by decide)
  equals := by decide
  quote := by decide
  backslash := by decide

/-- A key begins like a location of a database. -/
def OpensLocation (key : String) : Prop :=
  ∃ name rest, key.toList.dropWhile isEdge = name ++ mark ++ rest ∧
    Text.foldLower (String.ofList name) ∈ schemes

/-- A text with a key in front is read as a location only if the key begins like one. -/
theorem opensLocation_of_parse {text : String} {key written : List Char} {target : ConnectTarget}
    (trimmed : Text.trim text = text) (whole : text.toList = key ++ '=' :: written)
    (letters : ∀ letter ∈ key, isKeyChar letter = true) (marked : mark <:+: text.toList)
    (read : parse text = .ok target) : OpensLocation (String.ofList key) := by
  rw [parse_of_marked trimmed marked] at read
  cases parsed : parse? text with
  | none =>
    rw [parsed] at read
    cases read
  | some url =>
    rw [parsed] at read
    obtain ⟨known, host, present, -⟩ := ofUrl_eq_ok_iff.mp read
    obtain ⟨behind, schemed, slashes⟩ := exists_scheme_of_parse? parsed
    obtain ⟨rest, rfl⟩ := slashes (kind_of_mem _ known) (by simp [present])
    obtain ⟨name, kept, named, -, same⟩ := readScheme_eq_some_iff.mp schemed
    -- The equals sign is no edge, so what is dropped in front of the text is dropped of the key.
    have start : text.toList.dropWhile isEdge = key.dropWhile isEdge ++ ['='] ++ written := by
      rw [whole, List.dropWhile_append]
      split
      next dropped =>
        rw [List.isEmpty_iff.mp dropped, List.dropWhile_cons_of_neg (by decide)]
        rfl
      next => rw [List.append_assoc, List.singleton_append]
    have stays : ∀ letter ∈ key.dropWhile isEdge ++ ['='], letter ∉ ['\t', '\n', '\r'] := by
      refine List.forall_mem_append.mpr
        ⟨fun letter member dropped => ?_, List.forall_mem_singleton.mpr (by decide)⟩
      have blank : ∀ letter ∈ ['\t', '\n', '\r'], Text.isBlank letter = true :=
        List.forall_iff_forall_mem.mp (by decide)
      have plain := isBlank_of_isKeyChar (letters letter ((List.dropWhile_sublist _).subset member))
      exact Bool.false_ne_true (plain.symm.trans (blank letter dropped))
    have front : cleaned text = key.dropWhile isEdge ++ '=' :: cleanedEnd written := by
      rw [cleaned_eq, start, cleanedEnd_append written stays (by simp [isEdge]), List.append_assoc,
        List.singleton_append]
    have outside : '=' ∉ name ++ mark := by
      rw [List.mem_append, not_or]
      exact ⟨fun member => absurd (named _ member) (by decide), by decide⟩
    have located : name ++ mark ++ rest = key.dropWhile isEdge ++ '=' :: cleanedEnd written := by
      rw [← front, kept, List.append_assoc]
      rfl
    obtain ⟨more, split⟩ := Text.exists_eq_append_of_notMem outside located
    exact ⟨name, more, by rw [String.toList_ofList, split], same ▸ known⟩

/-- A text that lists entries and is not empty starts with the key of the first one. -/
theorem Reads.exists_front {text : String} {entry : String × String}
    {others : List (String × String)}
    (trimmed : Text.trim text = text) (reads : Reads text.toList (entry :: others)) :
    ∃ written, text.toList = entry.1.toList ++ '=' :: written ∧
      ∀ letter ∈ entry.1.toList, isKeyChar letter = true := by
  generalize whole : text.toList = letters at reads
  cases reads with
  | @entry blanks key written value left _ blank keyed letters =>
    have front : blanks = [] := by
      cases blanks with
      | nil => rfl
      | cons first rest =>
        have stays := Text.head_of_trim_eq_self trimmed first (by rw [whole]; rfl)
        exact absurd (blank first List.mem_cons_self) (by simp [stays])
    subst front
    rw [String.toList_ofList]
    exact ⟨written, rfl, letters⟩

/-- A list of entries is read if the mark stands in no key and in no value, and what is read of it
is what the entries say. Otherwise it is read only if its first key begins like a location. -/
theorem parse_listed {text : String} {entries : List (String × String)} (written : text ≠ "")
    (trimmed : Text.trim text = text) (listed : KeyValue.entries text = .ok entries) :
    ((∀ entry ∈ entries, ¬ mark <:+: entry.1.toList ∧ ¬ mark <:+: entry.2.toList) →
      ∃ target, parse text = .ok target ∧ target.Holds entries) ∧
    ((∃ entry ∈ entries, mark <:+: entry.1.toList ∨ mark <:+: entry.2.toList) →
      ∀ target, parse text = .ok target → ∃ entry ∈ entries.head?, OpensLocation entry.1) := by
  have reads : Reads text.toList entries := readEntries_eq_ok_iff.mp listed
  constructor
  · intro unmarked
    have outside : ¬ mark <:+: text.toList := fun inside => by
      obtain ⟨entry, member, marked⟩ := (confined_mark.infix_iff reads).mp inside
      exact (not_or.mpr (unmarked entry member)) marked
    refine ⟨_, ?_, holds_foldl entries⟩
    rw [parse_of_unmarked trimmed written outside, listed]
    rfl
  · rintro marked target read
    have inside := (confined_mark.infix_iff reads).mpr marked
    obtain ⟨entry, member, -⟩ := marked
    cases entries with
    | nil => cases member
    | cons first others =>
      obtain ⟨behind, whole, letters⟩ := Reads.exists_front trimmed reads
      have opens := opensLocation_of_parse trimmed whole letters inside read
      rw [String.ofList_toList] at opens
      exact ⟨first, rfl, opens⟩

/-- A blank and a quote in a value are read as they were, and the last user counts. -/
theorem parse_listed_quoted :
    ∃ text entries, text ≠ "" ∧ Text.trim text = text ∧ KeyValue.entries text = .ok entries ∧
      entries = [("user", "scott"), ("password", "ti \"ger"), ("user", "app")] ∧
      ∃ target, parse text = .ok target ∧ target.Holds entries := by
  have listed : KeyValue.entries
      (KeyValue.written [("user", "scott"), ("password", "ti \"ger"), ("user", "app")]) =
        .ok [("user", "scott"), ("password", "ti \"ger"), ("user", "app")] :=
    entries_written (by decide)
  have written : KeyValue.written [("user", "scott"), ("password", "ti \"ger"), ("user", "app")] =
      "user=\"scott\" password=\"ti \\\"ger\" user=\"app\"" := by decide +kernel
  rw [written] at listed
  have trimmed : Text.trim "user=\"scott\" password=\"ti \\\"ger\" user=\"app\"" =
    "user=\"scott\" password=\"ti \\\"ger\" user=\"app\"" := by decide +kernel
  exact ⟨_, _, by decide, trimmed, listed, rfl,
    (parse_listed (by decide) trimmed listed).1 (by decide +kernel)⟩

/-- A value with the mark in it is a value of a list, but the list is refused as a location. -/
theorem marked_value_refused :
    ∃ text entries, text ≠ "" ∧ Text.trim text = text ∧ KeyValue.entries text = .ok entries ∧
      entries = [("user", "scott"), ("password", "a://b"), ("connectString", "db/ORCL")] ∧
      parse text = .error .url := by
  have listed : KeyValue.entries
      (KeyValue.written [("user", "scott"), ("password", "a://b"), ("connectString", "db/ORCL")]) =
        .ok [("user", "scott"), ("password", "a://b"), ("connectString", "db/ORCL")] :=
    entries_written (by decide)
  have written :
      KeyValue.written [("user", "scott"), ("password", "a://b"), ("connectString", "db/ORCL")] =
        "user=\"scott\" password=\"a://b\" connectString=\"db/ORCL\"" := by decide +kernel
  rw [written] at listed
  exact ⟨_, _, by decide, by decide +kernel, listed, rfl, by decide +kernel⟩

end ConnectTarget

end OracleSql
