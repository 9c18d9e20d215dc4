/-
This file proves that names settle when they are written. What a statement writes for a name can be
read as a name again, and is then written the same: a bare segment is cased the first time and
stands in quotes from then on, and what was cut fits and is not cut again. A name of one segment is
written as its stored name in quotes, so the dictionary is asked for just the name that was defined.

Upper case and the digest are parameters here. Of upper case it is only used that it makes names of
names, and of the digest nothing: a mark has eight digits at most, whatever digits these are.
-/

import Mathlib.Data.String.Basic
import OracleSql.Proofs.Migration.Naming

namespace OracleSql

open Identifier (parse takeBytes inQuotes Quotable Lacks Legible)

/-! ### Spelling with any upper case and any digest -/

/-- How bare names are cased, and what the marks of long names are made of. -/
structure Spelling where
  upper : String → String
  digest : List UInt8 → List UInt8

namespace Spelling

variable (spelling : Spelling) (dialect : Dialect)

/-- The digits behind the cut of a name. -/
def mark (text : String) : String :=
  let bytes := (spelling.digest text.toUTF8.data.toList).take 4
  String.ofList ((Text.hexOfBytes bytes).map Char.toUpper)

/-- A text cut to its limit, with its mark behind the cut. -/
def shorten (limit : Nat) (text : String) : String :=
  if text.utf8ByteSize ≤ limit then text
  else String.ofList (takeBytes (limit - 9) text.toList) ++ "_" ++ spelling.mark text

/-- A bare name in the case of the dialect. -/
def cased (name : String) : String :=
  match dialect.identifierCase with
  | .upper => spelling.upper name
  | .preserve => name

/-- The spelling under which a segment is kept; a star has none. -/
def stored? : IdentifierPart → Option String
  | .bare name => some (spelling.shorten dialect.maxIdentifierLength (spelling.cased dialect name))
  | .quoted name => some (spelling.shorten dialect.maxIdentifierLength name)
  | .star => none

/-- A segment as a statement writes it. -/
def partText (part : IdentifierPart) : String :=
  match spelling.stored? dialect part with
  | some stored => inQuotes stored
  | none => "*"

/-- A name as a statement writes it. -/
def quote (name : String) : Except Identifier.Fault String :=
  (parse name).map fun identifier =>
    Text.join "." (identifier.parts.map (spelling.partText dialect))

/-- The spelling under which the object with this name is kept. -/
def storedName (name : String) : Except Identifier.Fault String :=
  match parse name with
  | .error fault => .error fault
  | .ok identifier =>
    match identifier.parts.getLast?.bind (spelling.stored? dialect) with
    | some stored => .ok stored
    | none => .error (.notAName name)

/-- The upper case of a name is a name. -/
def KeepsNames : Prop :=
  ∀ text, text ≠ "" → Quotable text → spelling.upper text ≠ "" ∧ Quotable (spelling.upper text)

end Spelling

/-- The spelling of names with the upper case of Unicode and the digest SHA-256. -/
def Spelling.own : Spelling := ⟨Text.upper, Sha256.digest⟩

theorem Spelling.quote_own (dialect : Dialect) : Spelling.own.quote dialect = dialect.quote :=
  rfl

theorem Spelling.storedName_own (dialect : Dialect) :
    Spelling.own.storedName dialect = dialect.storedName :=
  rfl

/-! ### Lengths in bytes -/

/-- The upper-case hexadecimal digits of some bytes take two bytes for each. -/
theorem utf8Len_hexOfBytes (bytes : List UInt8) :
    String.utf8Len ((Text.hexOfBytes bytes).map Char.toUpper) = 2 * bytes.length := by
  have digit : ∀ digit < 16, (Nat.digitChar digit).toUpper.utf8Size = 1 := by decide
  have digits (count number : Nat) :
      String.utf8Len ((Text.hexDigits count number).map Char.toUpper) = count := by
    induction count with
    | zero => rfl
    | succ count inductionHypothesis =>
      rw [Text.hexDigits, List.map_cons, String.utf8Len_cons, inductionHypothesis,
        digit _ (Nat.mod_lt _ (by decide))]
  induction bytes with
  | nil => rfl
  | cons byte rest inductionHypothesis =>
    rw [Text.hexOfBytes, List.flatMap_cons, List.map_append, String.utf8Len_append, digits,
      List.length_cons, ← Text.hexOfBytes, inductionHypothesis]
    omega

/-- The longest start of the letters with so many bytes: it fits, and the next letter does not. -/
theorem takeBytes_longest (limit : Nat) (letters : List Char) :
    ∃ rest, letters = takeBytes limit letters ++ rest ∧
      String.utf8Len (takeBytes limit letters) ≤ limit ∧
      ∀ letter ∈ rest.head?,
        limit < String.utf8Len (takeBytes limit letters) + letter.utf8Size := by
  induction letters generalizing limit with
  | nil => exact ⟨[], rfl, Nat.zero_le limit, by simp⟩
  | cons letter others inductionHypothesis =>
    by_cases fits : letter.utf8Size ≤ limit
    · obtain ⟨rest, whole, bound, longest⟩ := inductionHypothesis (limit - letter.utf8Size)
      rw [takeBytes, if_pos fits, String.utf8Len_cons]
      refine ⟨rest, by rw [List.cons_append, ← whole], by omega, fun next member => ?_⟩
      have beyond := longest next member
      omega
    · rw [takeBytes, if_neg fits]
      refine ⟨letter :: others, rfl, Nat.zero_le limit, ?_⟩
      rintro _ ⟨⟩
      simpa using fits

/-- What is stored of a text: all of it where it fits; else its longest start that leaves room, cut
between two letters, with an underscore and the mark behind it. -/
def IsShortened (limit : Nat) (mark text stored : String) : Prop :=
  stored.utf8ByteSize ≤ limit ∧
    (text.utf8ByteSize ≤ limit ∧ stored = text ∨
      limit < text.utf8ByteSize ∧ ∃ kept rest : List Char, text.toList = kept ++ rest ∧
        stored = String.ofList kept ++ "_" ++ mark ∧
        ∀ letter ∈ rest.head?, limit < String.utf8Len kept + letter.utf8Size + 9)

namespace Spelling

variable (spelling : Spelling)

theorem utf8ByteSize_mark (text : String) : (spelling.mark text).utf8ByteSize ≤ 8 := by
  rw [mark, String.utf8ByteSize_ofList, utf8Len_hexOfBytes]
  have bound := List.length_take_le 4 (spelling.digest text.toUTF8.data.toList)
  omega

variable {spelling}

theorem isShortened_shorten {limit : Nat} (room : 9 ≤ limit) (text : String) :
    IsShortened limit (spelling.mark text) text (spelling.shorten limit text) := by
  by_cases fits : text.utf8ByteSize ≤ limit
  · rw [shorten, if_pos fits]
    exact ⟨fits, .inl ⟨fits, rfl⟩⟩
  · obtain ⟨rest, whole, bound, longest⟩ := takeBytes_longest (limit - 9) text.toList
    have marked := spelling.utf8ByteSize_mark text
    rw [shorten, if_neg fits]
    refine ⟨?_, .inr ⟨Nat.lt_of_not_le fits, _, rest, whole, rfl, fun letter member => ?_⟩⟩
    · rw [String.utf8ByteSize_append, String.utf8ByteSize_append, String.utf8ByteSize_ofList,
        show "_".utf8ByteSize = 1 from rfl]
      omega
    · have beyond := longest letter member
      omega

/-- What is shortened once is not shortened again. -/
theorem shorten_shorten {limit : Nat} (room : 9 ≤ limit) (text : String) :
    spelling.shorten limit (spelling.shorten limit text) = spelling.shorten limit text := by
  rw [shorten, if_pos (isShortened_shorten room text).1]

/-! ### Stored names -/

theorem quotable_mark (text : String) : Quotable (spelling.mark text) := by
  have lacks {mark : Char} (low : mark.toNat ≤ 34) : mark ∉ (spelling.mark text).toList := by
    rw [Spelling.mark, String.toList_ofList]
    exact Text.notMem_hexOfBytes low _
  exact ⟨lacks (by decide), lacks (by decide)⟩

/-- What is left of a name is a name. -/
theorem quotable_shorten (spelling : Spelling) (limit : Nat) {text : String} (present : text ≠ "")
    (quotable : Quotable text) :
    spelling.shorten limit text ≠ "" ∧ Quotable (spelling.shorten limit text) := by
  unfold shorten
  split
  · exact ⟨present, quotable⟩
  · have start := Identifier.takeBytes_isInitial (limit - 9) text.toList
    have front : Quotable (String.ofList (takeBytes (limit - 9) text.toList)) := by
      rw [Quotable, String.toList_ofList]
      exact ⟨fun member => quotable.1 (start.mem member),
        fun member => quotable.2 (start.mem member)⟩
    exact (front.underscore (quotable_mark text)).symm

theorem quotable_cased (keeps : spelling.KeepsNames) (dialect : Dialect) {name : String}
    (present : name ≠ "") (quotable : Quotable name) :
    spelling.cased dialect name ≠ "" ∧ Quotable (spelling.cased dialect name) := by
  unfold cased
  cases dialect.identifierCase with
  | upper => exact keeps name present quotable
  | preserve => exact ⟨present, quotable⟩

/-- A segment as it stands in a written name: in quotes with its stored spelling, or a star. -/
def settled (spelling : Spelling) (dialect : Dialect) (part : IdentifierPart) : IdentifierPart :=
  match spelling.stored? dialect part with
  | some stored => .quoted stored
  | none => .star

variable {dialect : Dialect} {part : IdentifierPart}

theorem partText_eq_spelling (part : IdentifierPart) :
    spelling.partText dialect part = Identifier.spelling (spelling.settled dialect part) := by
  cases part <;> rfl

theorem settled_eq_star_iff : spelling.settled dialect part = .star ↔ part = .star := by
  cases part <;> simp [settled, stored?]

/-- What is written of a segment of a name is a segment of a name. -/
theorem legible_settled (keeps : spelling.KeepsNames) (legible : Legible part)
    (null : Lacks '\x00' part) :
    Legible (spelling.settled dialect part) ∧ Lacks '\x00' (spelling.settled dialect part) := by
  cases part with
  | bare name =>
    obtain ⟨present, _, _, quote⟩ := legible
    obtain ⟨present, quotable⟩ := quotable_cased keeps dialect present ⟨null, quote⟩
    obtain ⟨present, quotable⟩ := spelling.quotable_shorten dialect.maxIdentifierLength
      present quotable
    exact ⟨⟨present, quotable.2⟩, quotable.1⟩
  | quoted name =>
    obtain ⟨present, quotable⟩ := spelling.quotable_shorten dialect.maxIdentifierLength
      legible.1 ⟨null, legible.2⟩
    exact ⟨⟨present, quotable.2⟩, quotable.1⟩
  | star => exact ⟨trivial, trivial⟩

/-- What is written of a segment is written the same when it is read again. -/
theorem partText_settled (room : 9 ≤ dialect.maxIdentifierLength) (part : IdentifierPart) :
    spelling.partText dialect (spelling.settled dialect part) = spelling.partText dialect part := by
  cases part with
  | bare name => exact congrArg inQuotes (shorten_shorten room _)
  | quoted name => exact congrArg inQuotes (shorten_shorten room _)
  | star => rfl

end Spelling

/-! ### The upper case of names -/

theorem Text.upperChar_ne_nil (letter : Char) : upperChar letter ≠ [] := by
  have expansions : ∀ entry ∈ upperExpansions, entry.2 ≠ [] := by decide +kernel
  unfold upperChar
  split
  · exact List.cons_ne_nil _ _
  · split
    next codes expanded =>
      obtain ⟨before, after, whole, _⟩ := List.lookup_eq_some_iff.mp expanded
      have entry : (letter.toNat, codes) ∈ upperExpansions := by
        rw [whole]
        exact List.mem_append_right before List.mem_cons_self
      exact List.map_eq_nil_iff.not.mpr (expansions _ entry)
    · split <;> exact List.cons_ne_nil _ _

/-- The upper case of Unicode makes names of names. -/
theorem Spelling.keepsNames_own : Spelling.own.KeepsNames := by
  intro text present quotable
  refine ⟨fun none => ?_, Text.notMem_upper (by decide) text quotable.1,
    Text.notMem_upper (by decide) text quotable.2⟩
  have letters : text.toList.flatMap Text.upperChar = [] := by
    rw [← String.toList_ofList (l := text.toList.flatMap Text.upperChar)]
    exact String.toList_eq_nil_iff.mpr none
  obtain ⟨first, rest, letters⟩ := List.exists_cons_of_ne_nil
    (String.toList_eq_nil_iff.not.mpr present)
  exact Text.upperChar_ne_nil first
    (List.flatMap_eq_nil_iff.mp ‹_› first (letters ▸ List.mem_cons_self))

/-! ### Names that settle -/

/-- A character that is part of no segment and no mark between segments is nowhere in the name. -/
theorem Identifier.notMem_spelled {mark : Char} (apart : mark ∉ ['.', '"', '*'])
    {parts : List IdentifierPart} (lacks : ∀ part ∈ parts, Lacks mark part) :
    mark ∉ (spelled ⟨parts⟩).toList := by
  have alone {part : IdentifierPart} (lacks : Lacks mark part) :
      mark ∉ (Identifier.spelling part).toList := by
    cases part with
    | bare name => exact lacks
    | quoted name =>
      have free : mark ∉ name.toList := lacks
      rw [Identifier.spelling, toList_inQuotes]
      simp_all
    | star =>
      rw [Identifier.spelling]
      simp_all
  induction parts with
  | nil => exact List.not_mem_nil
  | cons part rest inductionHypothesis =>
    obtain ⟨first, others⟩ := List.forall_mem_cons.mp lacks
    by_cases more : rest = []
    · rw [more, toList_spelled_single]
      exact alone first
    · rw [toList_spelled_cons part more, List.mem_append, List.mem_cons]
      have behind := inductionHypothesis others
      have here := alone first
      simp_all

namespace Spelling

variable {spelling : Spelling} {dialect : Dialect} {name : String} {identifier : Identifier}

/-- A written name is read as segments in quotes, or stars, in the same places. -/
theorem parse_written (keeps : spelling.KeepsNames) (read : parse name = .ok identifier) :
    parse (Text.join "." (identifier.parts.map (spelling.partText dialect))) =
      .ok ⟨identifier.parts.map (spelling.settled dialect)⟩ := by
  obtain ⟨_, spells, star⟩ := Identifier.parse_eq_ok_iff.mp read
  obtain ⟨_, lacks⟩ := Identifier.parse_lacks name identifier read
  have whole : Text.join "." (identifier.parts.map (spelling.partText dialect)) =
      Identifier.spelled ⟨identifier.parts.map (spelling.settled dialect)⟩ := by
    rw [Identifier.spelled, List.map_map]
    exact congrArg (Text.join ".") (List.map_congr_left fun part _ => partText_eq_spelling part)
  have each : ∀ part ∈ identifier.parts, Legible (spelling.settled dialect part) ∧
      Lacks '\x00' (spelling.settled dialect part) := fun part member =>
    legible_settled keeps (spells.legible part member) (lacks part member).2
  refine Identifier.parse_eq_ok_iff.mpr ⟨?_, ⟨?_, ?_, congrArg String.toList whole⟩, ?_⟩
  · rw [whole]
    exact Identifier.notMem_spelled (by decide)
      (List.forall_mem_map.mpr fun part member => (each part member).2)
  · exact List.map_eq_nil_iff.not.mpr spells.present
  · exact List.forall_mem_map.mpr fun part member => (each part member).1
  · rw [← List.map_dropLast, List.mem_map]
    rintro ⟨part, member, same⟩
    exact star (settled_eq_star_iff.mp same ▸ member)

/-- A written name is written the same. -/
theorem quote_written (keeps : spelling.KeepsNames) (room : 9 ≤ dialect.maxIdentifierLength)
    (read : parse name = .ok identifier) :
    spelling.quote dialect (Text.join "." (identifier.parts.map (spelling.partText dialect))) =
      .ok (Text.join "." (identifier.parts.map (spelling.partText dialect))) := by
  have same : identifier.parts.map (spelling.partText dialect ∘ spelling.settled dialect) =
      identifier.parts.map (spelling.partText dialect) :=
    List.map_congr_left fun part _ => partText_settled room part
  rw [quote, parse_written keeps read, Except.map, List.map_map, same]

/-- How a segment stands in a statement: a star as it is and the others in quotes, where a bare one
is cased, and what is too long is shortened. -/
inductive Writes (spelling : Spelling) (dialect : Dialect) : IdentifierPart → String → Prop
  | bare {name stored : String}
    (shortened : IsShortened dialect.maxIdentifierLength
      (spelling.mark (spelling.cased dialect name)) (spelling.cased dialect name) stored) :
    Writes spelling dialect (.bare name) (inQuotes stored)
  | quoted {name stored : String}
    (shortened : IsShortened dialect.maxIdentifierLength (spelling.mark name) name stored) :
    Writes spelling dialect (.quoted name) (inQuotes stored)
  | star : Writes spelling dialect .star "*"

theorem writes_partText (room : 9 ≤ dialect.maxIdentifierLength) (part : IdentifierPart) :
    spelling.Writes dialect part (spelling.partText dialect part) := by
  cases part with
  | bare name => exact .bare (isShortened_shorten room _)
  | quoted name => exact .quoted (isShortened_shorten room _)
  | star => exact .star

/-- Every name is written in segments that fit, and what is written is written the same again. A
name of one segment is written as its stored name in quotes. -/
def Settles (spelling : Spelling) (dialect : Dialect)
    (quote storedName : String → Except Identifier.Fault String) : Prop :=
  ∀ name identifier, parse name = .ok identifier → ∃ segments : List String,
    quote name = .ok (Text.join "." segments) ∧
      quote (Text.join "." segments) = .ok (Text.join "." segments) ∧
      List.Forall₂ (spelling.Writes dialect) identifier.parts segments ∧
      ∀ part, identifier.parts = [part] → part ≠ .star →
        ∃ stored, storedName name = .ok stored ∧ Text.join "." segments = inQuotes stored

theorem settles (keeps : spelling.KeepsNames) (room : 9 ≤ dialect.maxIdentifierLength) :
    spelling.Settles dialect (spelling.quote dialect) (spelling.storedName dialect) := by
  intro name identifier read
  refine ⟨identifier.parts.map (spelling.partText dialect), ?_, quote_written keeps room read,
    ?_, ?_⟩
  · rw [quote, read]
    rfl
  · rw [List.forall₂_map_right_iff]
    exact List.forall₂_same.mpr fun part _ => writes_partText room part
  · intro part single named
    obtain ⟨stored, kept⟩ : ∃ stored, spelling.stored? dialect part = some stored := by
      cases part with
      | bare name => exact ⟨_, rfl⟩
      | quoted name => exact ⟨_, rfl⟩
      | star => exact absurd rfl named
    refine ⟨stored, ?_, ?_⟩
    · rw [storedName, read]
      dsimp only
      rw [single, List.getLast?_singleton, Option.bind_some, kept]
    · rw [single, List.map_singleton, Text.join, String.intercalate_singleton, partText, kept]

end Spelling

/-- The table that is looked up for a name without an owner is the one that statements name. -/
theorem Dialect.quote_eq_of_storedTable {dialect : Dialect} {name : String} {part : IdentifierPart}
    {table : StoredTable} (read : parse name = .ok ⟨[part]⟩)
    (found : dialect.storedTable name = .ok table) :
    dialect.quote name = .ok (inQuotes table.name) := by
  unfold Dialect.storedTable at found
  rw [read] at found
  obtain ⟨_, same, found⟩ := bind_eq_ok.mp found
  cases same
  obtain ⟨owner, _, found⟩ := bind_eq_ok.mp found
  obtain ⟨stored, kept, same⟩ := bind_eq_ok.mp found
  cases same
  unfold Dialect.storedSegment at kept
  split at kept
  next own =>
    cases kept
    rw [Dialect.quote, read, Except.map, Identifier.render, List.map_singleton, Text.join,
      String.intercalate_singleton, Identifier.partText, own]
  next => cases kept

/-- **Names settle.** With settings in range, a written name is written the same again, its segments
fit and are cut only between letters, and a name of one segment is written as its stored name in
quotes, under which its table is looked up. All of this but the last holds with any digest, and with
any upper case that makes names of names. -/
theorem Dialect.quote_settles {dialect : Dialect} (valid : dialect.check = .ok ()) :
    Spelling.own.Settles dialect dialect.quote dialect.storedName ∧
      (∀ name part table, parse name = .ok ⟨[part]⟩ → dialect.storedTable name = .ok table →
        dialect.quote name = .ok (inQuotes table.name)) ∧
      ∀ spelling : Spelling, spelling.KeepsNames →
        spelling.Settles dialect (spelling.quote dialect) (spelling.storedName dialect) := by
  have room : 9 ≤ dialect.maxIdentifierLength :=
    (show 9 ≤ 30 by decide).trans (Dialect.check_eq_ok_iff.mp valid).1.1
  have own : Spelling.own.Settles dialect (Spelling.own.quote dialect)
      (Spelling.own.storedName dialect) := Spelling.settles Spelling.keepsNames_own room
  rw [Spelling.quote_own, Spelling.storedName_own] at own
  exact ⟨own, fun name part table => Dialect.quote_eq_of_storedTable,
    fun spelling keeps => Spelling.settles keeps room⟩

/-- A dialect with the lowest limit that its settings allow. -/
def shortNames : Dialect := { maxIdentifierLength := 30 }

/-- A name of thirty bytes, which are more in upper case. -/
def lengthenedName : String := "ŉ_oorsig_van_alle_übersichte"

theorem parse_lengthenedName : parse lengthenedName = .ok ⟨[.bare lengthenedName]⟩ :=
  Identifier.parse_eq_ok_iff.mpr
    ⟨by decide, ⟨by decide, by simp [Legible, lengthenedName], by decide⟩, by decide⟩

theorem quote_lengthenedName :
    shortNames.quote lengthenedName = .ok "\"ʼN_OORSIG_VAN_ALLE__CED8EC83\"" := by
  rw [Dialect.quote, parse_lengthenedName]
  decide +kernel

/-- A name that is too long once it is cased is cut in front of a letter of two bytes; what is
written fits, is written the same again, and is the stored name in quotes. -/
theorem Dialect.quote_settles_lengthened :
    shortNames.check = .ok () ∧
      shortNames.quote lengthenedName = .ok "\"ʼN_OORSIG_VAN_ALLE__CED8EC83\"" ∧
      shortNames.quote "\"ʼN_OORSIG_VAN_ALLE__CED8EC83\"" =
        .ok "\"ʼN_OORSIG_VAN_ALLE__CED8EC83\"" ∧
      ∃ stored, shortNames.storedName lengthenedName = .ok stored ∧
        "\"ʼN_OORSIG_VAN_ALLE__CED8EC83\"" = inQuotes stored := by
  have valid : shortNames.check = .ok () := by decide
  have written := quote_lengthenedName
  obtain ⟨segments, first, again, _, whole⟩ := (quote_settles valid).1 _ _ parse_lengthenedName
  have same := Except.ok.inj (written.symm.trans first)
  rw [← same] at again whole
  exact ⟨valid, written, again, whole _ rfl nofun⟩

end OracleSql
