/-
This file says what a name looks like in a statement. A quote in a name never reaches the statement:
reading a name cuts it at its quotes, upper case makes no quote of another character, and the mark
that ends a shortened name is made of hexadecimal digits. So a written name is a row of segments
with dots between them, and a segment is the star, or has quotes around a text without quotes.
-/

import OracleSql.Identifier
import OracleSql.Proofs.Outcome

namespace OracleSql

/-! ### Upper case -/

namespace Text

variable {mark : Char}

theorem ofNat_ne_of_lt {code : Nat} (valid : code.isValidChar) (above : mark.toNat < code) :
    Char.ofNat code ≠ mark := by
  rintro rfl
  rw [Char.ofNat, dif_pos valid] at above
  exact absurd above (Nat.lt_irrefl code)

/-- Every letter that a run lists has its partner behind the quote. -/
theorem quote_lt_of_covers (run : CaseRun) (listed : run ∈ upperRuns) (code : Nat)
    (covered : run.covers code = true) :
    (code + run.shift).toNat.isValidChar ∧ 34 < (code + run.shift).toNat := by
  have bounds : ∀ run ∈ upperRuns, 34 < (run.first : Int) + run.shift ∧
      ((run.last : Int) + run.shift < 0xd800 ∨
        0xdfff < (run.first : Int) + run.shift ∧ (run.last : Int) + run.shift < 0x110000) := by
    decide +kernel
  obtain ⟨lowest, valid⟩ := bounds run listed
  simp only [CaseRun.covers, Bool.and_eq_true, decide_eq_true_eq] at covered
  refine ⟨?_, by omega⟩
  rcases valid with below | ⟨above, below⟩
  · exact Or.inl (by omega)
  · exact Or.inr ⟨by omega, by omega⟩

/-- The quote and the characters before it stand in the upper case of nothing but themselves. -/
theorem eq_of_mem_upperChar (low : mark.toNat ≤ 34) {letter : Char}
    (member : mark ∈ upperChar letter) : letter = mark := by
  unfold upperChar at member
  by_cases ascii : letter.toNat < 0x80
  · rw [if_pos ascii, List.mem_singleton] at member
    have each : ∀ code < 0x80, (Char.ofNat code).toUpper.toNat ≤ 34 →
        Char.ofNat code = (Char.ofNat code).toUpper := by decide
    have image := each letter.toNat ascii
    rw [Char.ofNat_toNat, ← member] at image
    exact image low
  · rw [if_neg ascii] at member
    cases expanded : upperExpansions.lookup letter.toNat with
    | some codes =>
      rw [expanded] at member
      obtain ⟨code, listed, same⟩ := List.mem_map.mp member
      obtain ⟨before, after, whole, _⟩ := List.lookup_eq_some_iff.mp expanded
      have entry : (letter.toNat, codes) ∈ upperExpansions := by
        rw [whole]
        exact List.mem_append_right before List.mem_cons_self
      have bounds : ∀ entry ∈ upperExpansions, ∀ code ∈ entry.2, code.isValidChar ∧ 34 < code := by
        decide +kernel
      obtain ⟨valid, above⟩ := bounds _ entry code listed
      exact absurd same (ofNat_ne_of_lt valid (Nat.lt_of_le_of_lt low above))
    | none =>
      rw [expanded] at member
      dsimp only at member
      cases found : upperRuns.find? (·.covers letter.toNat) with
      | some run =>
        rw [found, List.mem_singleton] at member
        have covered : run.covers letter.toNat = true := by
          simpa using List.find?_some found
        obtain ⟨valid, above⟩ :=
          quote_lt_of_covers run (List.mem_of_find?_eq_some found) letter.toNat covered
        exact absurd member.symm (ofNat_ne_of_lt valid (Nat.lt_of_le_of_lt low above))
      | none =>
        rw [found, List.mem_singleton] at member
        exact member.symm

/-- The upper case of a text has only such of these characters as the text has. -/
theorem notMem_upper (low : mark.toNat ≤ 34) (text : String) (free : mark ∉ text.toList) :
    mark ∉ (upper text).toList := by
  unfold upper
  rw [String.toList_ofList, List.mem_flatMap]
  rintro ⟨letter, member, image⟩
  exact free (eq_of_mem_upperChar low image ▸ member)

/-- Hexadecimal digits of either case have none of them. -/
theorem notMem_hexDigits (low : mark.toNat ≤ 34) (count number : Nat) :
    mark ∉ (hexDigits count number).map Char.toUpper := by
  induction count with
  | zero => exact List.not_mem_nil
  | succ count inductionHypothesis =>
    have each : ∀ digit < 16, 34 < (Nat.digitChar digit).toUpper.toNat := by decide
    rw [hexDigits, List.map_cons, List.mem_cons, not_or]
    refine ⟨?_, inductionHypothesis⟩
    rintro rfl
    exact absurd low (Nat.not_le_of_lt (each _ (Nat.mod_lt _ (by decide))))

theorem notMem_hexOfBytes (low : mark.toNat ≤ 34) (bytes : List UInt8) :
    mark ∉ (hexOfBytes bytes).map Char.toUpper := by
  rw [hexOfBytes, List.map_flatMap, List.mem_flatMap]
  rintro ⟨byte, _, image⟩
  exact notMem_hexDigits low 2 byte.toNat image

end Text

/-! ### Shortened names -/

namespace Identifier

variable {mark : Char}

theorem takeBytes_isInitial (limit : Nat) (letters : List Char) :
    takeBytes limit letters <+: letters := by
  induction letters generalizing limit with
  | nil => exact List.prefix_refl []
  | cons letter rest inductionHypothesis =>
    unfold takeBytes
    split
    · exact List.prefix_cons_iff.mpr (Or.inr ⟨_, rfl, inductionHypothesis _⟩)
    · exact List.nil_prefix

theorem notMem_digestMark (low : mark.toNat ≤ 34) (text : String) :
    mark ∉ (digestMark text).toList := by
  rw [digestMark, String.toList_ofList]
  exact Text.notMem_hexOfBytes low _

theorem notMem_shorten (low : mark.toNat ≤ 34) (limit : Nat) (text : String)
    (free : mark ∉ text.toList) : mark ∉ (shorten limit text).toList := by
  unfold shorten
  split
  · exact free
  · rw [String.toList_append, String.toList_append, String.toList_ofList, List.mem_append,
      List.mem_append, not_or, not_or]
    refine ⟨⟨fun member => free ((takeBytes_isInitial _ _).mem member), ?_⟩,
      notMem_digestMark low text⟩
    rw [show "_".toList = ['_'] from rfl, List.mem_singleton]
    rintro rfl
    exact absurd low (by decide)

/-- The spelling of a segment does not have the character. -/
def Lacks (mark : Char) : IdentifierPart → Prop
  | .bare name => mark ∉ name.toList
  | .quoted name => mark ∉ name.toList
  | .star => True

/-- A character that the spelling of a segment lacks is not in the stored name either. -/
theorem Lacks.stored (low : mark.toNat ≤ 34) (dialect : Dialect) {part : IdentifierPart}
    (lacks : Lacks mark part) : ∀ stored ∈ dialect.stored? part, mark ∉ stored.toList := by
  cases part with
  | bare name =>
    rintro _ ⟨⟩
    refine notMem_shorten low _ _ ?_
    unfold Dialect.cased
    cases dialect.identifierCase with
    | upper => exact Text.notMem_upper low name lacks
    | preserve => exact lacks
  | quoted name =>
    rintro _ ⟨⟩
    exact notMem_shorten low _ _ lacks
  | star => exact fun stored impossible => by cases impossible

/-! ### Names that are read -/

/-- What holds of every segment that can be read from a place of a name on holds of the segments
that are read, and there are some. -/
theorem readParts_ensures {property : IdentifierPart → Prop} (text : String) (letters : List Char)
    (bare : ∀ rest, rest <:+ letters → property (bareOrStar (rest.takeWhile isNameChar)))
    (quoted : ∀ rest, rest <:+ letters →
      property (.quoted (String.ofList (rest.takeWhile (· != '"'))))) :
    Ensures (fun parts => parts ≠ [] ∧ ∀ part ∈ parts, property part)
      (readParts text letters) := by
  have single {part : IdentifierPart} (holds : property part) :
      [part] ≠ [] ∧ ∀ other ∈ [part], property other :=
    ⟨List.cons_ne_nil _ _, List.forall_mem_singleton.mpr holds⟩
  have more {part : IdentifierPart} {parts : List IdentifierPart} (holds : property part)
      (others : parts ≠ [] ∧ ∀ other ∈ parts, property other) :
      part :: parts ≠ [] ∧ ∀ other ∈ part :: parts, property other :=
    ⟨List.cons_ne_nil _ _, List.forall_mem_cons.mpr ⟨holds, others.2⟩⟩
  induction size : letters.length using Nat.strongRecOn generalizing letters with
  | ind count inductionHypothesis =>
    -- What is left behind a dot is a shorter end of the name.
    have behind {rest : List Char} (inside : rest <:+ letters) (shorter : rest.length < count) :
        Ensures (fun parts => parts ≠ [] ∧ ∀ part ∈ parts, property part) (readParts text rest) :=
      inductionHypothesis rest.length shorter rest (fun other further => bare other
        (further.trans inside)) (fun other further => quoted other (further.trans inside)) rfl
    unfold readParts
    split
    next rest =>
      have inside : rest <:+ '"' :: rest := List.suffix_cons _ _
      have tail := (List.tail_suffix _).trans
        ((List.tail_suffix _).trans ((List.dropWhile_suffix (· != '"')).trans inside))
      have name := quoted rest inside
      dsimp only
      split
      · exact Ensures.error _
      split
      · exact Ensures.error _
      split
      · exact Ensures.ok (single name)
      · split
        · exact Ensures.error _
        · refine Ensures.map (behind tail ?_) fun _ => more name
          have bound := length_dropWhile_le (· != '"') rest
          simp only [List.length_tail, List.length_cons] at size ⊢
          omega
      · exact Ensures.error _
    next =>
      have tail := (List.tail_suffix _).trans (List.dropWhile_suffix (l := letters) isNameChar)
      have name := bare letters List.suffix_rfl
      dsimp only
      split
      · split
        · exact Ensures.error _
        · exact Ensures.ok (single name)
      · split
        · exact Ensures.error _
        split
        · exact Ensures.error _
        · next present =>
          refine Ensures.map (behind tail ?_) fun _ => more name
          have bound := length_dropWhile_le isNameChar letters
          have some := List.length_pos_iff.mpr present
          simp only [List.length_tail] at some ⊢
          omega
      · exact Ensures.error _

/-- A segment has only characters of the text that it is read from. -/
theorem lacks_bareOrStar {mark : Char} {letters : List Char} (free : mark ∉ letters) :
    Lacks mark (bareOrStar letters) := by
  unfold bareOrStar
  split
  · trivial
  · show mark ∉ (String.ofList _).toList
    rwa [String.toList_ofList]

theorem lacks_quoted {mark : Char} {letters : List Char} (free : mark ∉ letters) :
    Lacks mark (.quoted (String.ofList letters)) := by
  show mark ∉ (String.ofList _).toList
  rwa [String.toList_ofList]

/-- A name is cut at its quotes, so its segments have none. -/
theorem readParts_lacks_quote (text : String) (letters : List Char) :
    Ensures (fun parts => parts ≠ [] ∧ ∀ part ∈ parts, Lacks '"' part)
      (readParts text letters) := by
  refine readParts_ensures text letters (fun rest _ => lacks_bareOrStar ?_)
    fun rest _ => lacks_quoted ?_
  · exact fun member => absurd (List.all_eq_true.mp List.all_takeWhile _ member) (by decide)
  · exact fun member => absurd (List.all_eq_true.mp List.all_takeWhile _ member) (by decide)

/-- The segments of a name have no character that the name has not. -/
theorem readParts_lacks {mark : Char} (text : String) {letters : List Char}
    (free : mark ∉ letters) :
    Ensures (fun parts => parts ≠ [] ∧ ∀ part ∈ parts, Lacks mark part)
      (readParts text letters) := by
  have start (keep : Char → Bool) {rest : List Char} (inside : rest <:+ letters) :
      mark ∉ rest.takeWhile keep :=
    fun member => free (inside.mem ((List.takeWhile_prefix keep).mem member))
  exact readParts_ensures text letters (fun rest inside => lacks_bareOrStar (start _ inside))
    fun rest inside => lacks_quoted (start _ inside)

/-- A name that is read has segments, and none of them has a quote or the null character. -/
theorem parse_lacks (text : String) :
    Ensures (fun identifier => identifier.parts ≠ [] ∧
        ∀ part ∈ identifier.parts, Lacks '"' part ∧ Lacks '\x00' part)
      (parse text) := by
  unfold parse
  split
  · exact Ensures.error _
  · split
    · exact Ensures.error _
    · next null =>
      have free : '\x00' ∉ text.toList := fun member => null (List.contains_iff_mem.mpr member)
      cases read : readParts text text.toList with
      | error fault => exact Ensures.error _
      | ok parts =>
        obtain ⟨present, quotes⟩ := readParts_lacks_quote text text.toList parts read
        obtain ⟨_, nulls⟩ := readParts_lacks text free parts read
        dsimp only
        split
        · exact Ensures.error _
        · exact Ensures.ok ⟨present, fun part member => ⟨quotes part member, nulls part member⟩⟩

/-! ### Names that are written -/

/-- A segment as a statement writes it: the star, or quotes around a text without quotes. -/
def IsSegment (segment : String) : Prop :=
  segment = "*" ∨ ∃ stored, segment = inQuotes stored ∧ '"' ∉ stored.toList

theorem partText_isSegment (dialect : Dialect) {part : IdentifierPart}
    (free : Lacks '"' part) : IsSegment (partText dialect part) := by
  have stored := free.stored (by decide) dialect
  cases part with
  | bare name => exact Or.inr ⟨_, rfl, stored _ rfl⟩
  | quoted name => exact Or.inr ⟨_, rfl, stored _ rfl⟩
  | star => exact Or.inl rfl

/-- A written name is a row of segments with dots between them. -/
theorem quote_segments (dialect : Dialect) (name : String) :
    Ensures (fun written => ∃ segments : List String, segments ≠ [] ∧
        written = Text.join "." segments ∧ ∀ segment ∈ segments, IsSegment segment)
      (dialect.quote name) := by
  refine Ensures.map (parse_lacks name) fun identifier ⟨present, free⟩ => ?_
  refine ⟨identifier.parts.map (partText dialect), ?_, rfl, ?_⟩
  · exact fun none => present (List.map_eq_nil_iff.mp none)
  · exact List.forall_mem_map.mpr fun part member => partText_isSegment dialect (free part member).1

end Identifier

end OracleSql
