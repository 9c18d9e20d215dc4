/-
This file says which texts are names, and that nothing of a name is lost when it is read. A name is
a row of segments with dots between them. A segment is a run of characters without dots and quotes,
or it stands in quotes and may have dots; the star of all columns stands last, and no name has the
null character. The segments that are read, each written as it stood, are the name again; and
segments that are written are read as what they were, so there is one reading of a name only.
-/

import OracleSql.Proofs.Identifier.Segments
import OracleSql.Proofs.Runs

namespace OracleSql

namespace Identifier

/-! ### The grammar of names -/

/-- The text of a segment: characters that are neither dots nor quotes, or characters in quotes that
are no quotes. -/
inductive SegmentText : String → Prop
  | bare {name : String} (present : name ≠ "") (dot : '.' ∉ name.toList)
    (quote : '"' ∉ name.toList) : SegmentText name
  | quoted {name : String} (present : name ≠ "") (quote : '"' ∉ name.toList) :
    SegmentText (inQuotes name)

/-- A text of segments with dots between them. A star without quotes stands in the last place only,
and the null character nowhere. -/
def IsName (text : String) : Prop :=
  '\x00' ∉ text.toList ∧ ∃ segments : List String, segments ≠ [] ∧
    text = Text.join "." segments ∧ (∀ segment ∈ segments, SegmentText segment) ∧
    "*" ∉ segments.dropLast

/-! ### Segments as they stand -/

/-- A segment as it stands in a name. -/
def spelling : IdentifierPart → String
  | .bare name => name
  | .quoted name => inQuotes name
  | .star => "*"

/-- A name with its segments as they stand. -/
def spelled (identifier : Identifier) : String :=
  Text.join "." (identifier.parts.map spelling)

/-- The spelling of the segment is that of no other. -/
def Legible : IdentifierPart → Prop
  | .bare name => name ≠ "" ∧ name ≠ "*" ∧ '.' ∉ name.toList ∧ '"' ∉ name.toList
  | .quoted name => name ≠ "" ∧ '"' ∉ name.toList
  | .star => True

theorem toList_inQuotes (name : String) :
    (inQuotes name).toList = '"' :: (name.toList ++ ['"']) := by
  rw [inQuotes, String.toList_append, String.toList_append]
  rfl

theorem toList_spelled_single (part : IdentifierPart) :
    (spelled ⟨[part]⟩).toList = (spelling part).toList := by
  rw [spelled, List.map_singleton, Text.join, String.intercalate_singleton]

theorem toList_spelled_cons (part : IdentifierPart) {rest : List IdentifierPart}
    (more : rest ≠ []) :
    (spelled ⟨part :: rest⟩).toList = (spelling part).toList ++ '.' :: (spelled ⟨rest⟩).toList := by
  obtain ⟨next, others, rfl⟩ := List.exists_cons_of_ne_nil more
  rw [spelled, spelled, List.map_cons, List.map_cons, Text.join, String.intercalate_cons_cons,
    String.toList_append, String.toList_append, List.append_assoc]
  rfl

/-! ### What is read -/

/-- A text that starts with a quote is a segment in quotes up to the next quote. -/
theorem eq_quoted_append {letters : List Char} (closed : letters.dropWhile (· != '"') ≠ []) :
    '"' :: letters =
      (spelling (.quoted (String.ofList (letters.takeWhile (· != '"'))))).toList ++
        (letters.dropWhile (· != '"')).tail := by
  obtain ⟨closing, rest, left⟩ := List.exists_cons_of_ne_nil closed
  have stops := List.head?_dropWhile_not (· != '"') letters
  rw [left] at stops
  obtain rfl : closing = '"' := by simpa using stops
  have whole : letters.takeWhile (· != '"') ++ '"' :: rest = letters := by
    rw [← left, List.takeWhile_append_dropWhile]
  rw [spelling, toList_inQuotes, String.toList_ofList, left, List.cons_append, List.append_assoc,
    List.singleton_append, List.tail_cons, whole]

theorem legible_quoted {letters : List Char} (present : letters.takeWhile (· != '"') ≠ []) :
    Legible (.quoted (String.ofList (letters.takeWhile (· != '"')))) := by
  refine ⟨fun none => present ?_, ?_⟩
  · rwa [← String.toList_eq_nil_iff, String.toList_ofList] at none
  · rw [String.toList_ofList]
    exact fun member => absurd (List.all_eq_true.mp List.all_takeWhile _ member) (by decide)

theorem legible_bareOrStar {letters : List Char} (present : letters.takeWhile isNameChar ≠ []) :
    Legible (bareOrStar (letters.takeWhile isNameChar)) := by
  unfold bareOrStar
  split
  · trivial
  next other =>
    refine ⟨fun none => present ?_, fun star => other ?_, ?_, ?_⟩
    · rwa [← String.toList_eq_nil_iff, String.toList_ofList] at none
    · rw [← String.toList_ofList (l := letters.takeWhile isNameChar), star]
      rfl
    · rw [String.toList_ofList]
      exact fun member => absurd (List.all_eq_true.mp List.all_takeWhile _ member) (by decide)
    · rw [String.toList_ofList]
      exact fun member => absurd (List.all_eq_true.mp List.all_takeWhile _ member) (by decide)

theorem toList_spelling_bareOrStar (name : List Char) :
    (spelling (bareOrStar name)).toList = name := by
  unfold bareOrStar
  split
  next star => exact star.symm
  next => exact String.toList_ofList

/-- Any other text starts with a segment without quotes. -/
theorem eq_bareOrStar_append (letters : List Char) :
    letters = (spelling (bareOrStar (letters.takeWhile isNameChar))).toList ++
      letters.dropWhile isNameChar := by
  rw [toList_spelling_bareOrStar, List.takeWhile_append_dropWhile]

/-- What is made of a segment and of what stands behind it. -/
def readBehind (text : String) (part : IdentifierPart) :
    List Char → Except Fault (List IdentifierPart)
  | [] => .ok [part]
  | _ :: rest =>
    if rest = [] then .error .trailingDot else (readParts text rest).map (part :: ·)

/-- Behind a segment stands nothing, or a mark and more segments. -/
theorem exists_of_readBehind {text : String} {part : IdentifierPart} {rest : List Char}
    {parts : List IdentifierPart} (read : readBehind text part rest = .ok parts) :
    ∃ others, parts = part :: others ∧
      (rest = [] ∧ others = [] ∨
        ∃ mark left, rest = mark :: left ∧ readParts text left = .ok others) := by
  cases rest with
  | nil =>
    cases read
    exact ⟨[], rfl, .inl ⟨rfl, rfl⟩⟩
  | cons mark left =>
    simp only [readBehind] at read
    split at read
    · cases read
    · obtain ⟨others, found, rfl⟩ := map_eq_ok.mp read
      exact ⟨others, rfl, .inr ⟨mark, left, rfl, found⟩⟩

/-- What is read starts with a legible segment, which ends with the letters or before a dot. -/
theorem exists_of_readParts {text : String} {letters : List Char} {parts : List IdentifierPart}
    (read : readParts text letters = .ok parts) :
    ∃ part rest, Legible part ∧ letters = (spelling part).toList ++ rest ∧
      (rest = [] ∨ rest.head? = some '.') ∧ readBehind text part rest = .ok parts := by
  unfold readParts at read
  split at read
  next letters =>
    dsimp only at read
    split at read
    next => cases read
    split at read
    next => cases read
    next closed present =>
      have first := legible_quoted fun none => present (List.isEmpty_iff.mpr none)
      have whole := eq_quoted_append fun none => closed (List.isEmpty_iff.mpr none)
      generalize (letters.dropWhile (· != '"')).tail = rest at read whole
      split at read
      next ends =>
        cases List.head?_eq_none_iff.mp ends
        exact ⟨_, _, first, whole, .inl rfl, read⟩
      next dot =>
        obtain ⟨left, rfl⟩ := List.head?_eq_some_iff.mp dot
        exact ⟨_, _, first, whole, .inr rfl, read⟩
      next => cases read
  next =>
    have whole := eq_bareOrStar_append letters
    dsimp only at read
    generalize letters.dropWhile isNameChar = rest at read whole
    split at read
    next ends =>
      cases List.head?_eq_none_iff.mp ends
      split at read
      next => cases read
      next present =>
        have first := legible_bareOrStar fun none => present (List.isEmpty_iff.mpr none)
        exact ⟨_, _, first, whole, .inl rfl, read⟩
    next dot =>
      obtain ⟨left, rfl⟩ := List.head?_eq_some_iff.mp dot
      split at read
      next => cases read
      next present =>
        have first := legible_bareOrStar fun none => present (List.isEmpty_iff.mpr none)
        exact ⟨_, _, first, whole, .inr rfl, read⟩
    next => cases read

/-- The letters are segments with dots between them, each as it is spelled. -/
structure Spells (letters : List Char) (parts : List IdentifierPart) : Prop where
  present : parts ≠ []
  legible : ∀ part ∈ parts, Legible part
  whole : letters = (spelled ⟨parts⟩).toList

namespace Spells

variable {part : IdentifierPart} {parts : List IdentifierPart} {letters rest : List Char}

theorem single (legible : Legible part) (same : letters = (spelling part).toList) :
    Spells letters [part] :=
  ⟨List.cons_ne_nil _ _, List.forall_mem_singleton.mpr legible,
    same.trans (toList_spelled_single part).symm⟩

theorem cons (legible : Legible part) (same : letters = (spelling part).toList ++ '.' :: rest)
    (others : Spells rest parts) : Spells letters (part :: parts) := by
  refine ⟨List.cons_ne_nil _ _, List.forall_mem_cons.mpr ⟨legible, others.legible⟩, ?_⟩
  rw [toList_spelled_cons part others.present, ← others.whole]
  exact same

/-- The segments that are read are those that the letters spell. -/
theorem of_readParts {text : String} (read : readParts text letters = .ok parts) :
    Spells letters parts := by
  induction parts generalizing letters with
  | nil =>
    obtain ⟨part, rest, -, -, -, behind⟩ := exists_of_readParts read
    obtain ⟨others, impossible, -⟩ := exists_of_readBehind behind
    cases impossible
  | cons first parts inductionHypothesis =>
    obtain ⟨part, rest, legible, whole, ends, behind⟩ := exists_of_readParts read
    obtain ⟨others, same, left⟩ := exists_of_readBehind behind
    cases same
    rcases left with ⟨rfl, rfl⟩ | ⟨mark, left, rfl, found⟩
    · exact single legible (by rwa [List.append_nil] at whole)
    · obtain rfl : mark = '.' := by simpa using ends
      exact cons legible whole (inductionHypothesis found)

end Spells

/-! ### What is written -/

/-- A run without dots and quotes is read as one segment, at the end of a name or before a dot. -/
theorem readParts_bare (text : String) {name rest : List Char} (present : name ≠ [])
    (plain : ∀ letter ∈ name, isNameChar letter = true) (ends : rest = [] ∨ rest.head? = some '.') :
    readParts text (name ++ rest) = readBehind text (bareOrStar name) rest := by
  have stop : ∀ mark ∈ rest.head?, isNameChar mark = false := by
    rintro mark member
    rcases ends with rfl | dot
    · cases member
    · cases dot.symm.trans member
      rfl
  obtain ⟨taken, left⟩ := Text.takeWhile_append_of_stop plain stop
  have written : name.isEmpty = false := List.isEmpty_eq_false_iff.mpr present
  unfold readParts
  split
  next letters quote =>
    obtain ⟨first, others, rfl⟩ := List.exists_cons_of_ne_nil present
    cases quote
    exact absurd (plain '"' List.mem_cons_self) (by decide)
  next =>
    rw [taken, left]
    cases rest with
    | nil => simp [written, readBehind]
    | cons mark others =>
      obtain rfl : mark = '.' := by simpa using ends
      by_cases none : others = []
      · simp [written, readBehind, none]
      · simp [written, readBehind, none]

/-- A run without quotes is read as one segment where it stands in quotes. -/
theorem readParts_quoted (text : String) {name rest : List Char} (present : name ≠ [])
    (free : '"' ∉ name) (ends : rest = [] ∨ rest.head? = some '.') :
    readParts text ('"' :: (name ++ '"' :: rest)) =
      readBehind text (.quoted (String.ofList name)) rest := by
  have plain : ∀ letter ∈ name, (letter != '"') = true := fun letter member =>
    bne_iff_ne.mpr fun same => free (same ▸ member)
  have stop : ∀ mark ∈ ('"' :: rest).head?, (mark != '"') = false := by
    rintro _ ⟨⟩
    rfl
  obtain ⟨taken, left⟩ := Text.takeWhile_append_of_stop plain stop
  have written : name.isEmpty = false := List.isEmpty_eq_false_iff.mpr present
  rw [readParts, taken, left]
  cases rest with
  | nil => simp [written, readBehind]
  | cons mark others =>
    obtain rfl : mark = '.' := by simpa using ends
    by_cases none : others = []
    · simp [written, readBehind, none]
    · simp [written, readBehind, none]

/-- A legible segment is read as what it is, at the end of a name or before a dot. -/
theorem readParts_spelling (text : String) {part : IdentifierPart} (legible : Legible part)
    {rest : List Char} (ends : rest = [] ∨ rest.head? = some '.') :
    readParts text ((spelling part).toList ++ rest) = readBehind text part rest := by
  cases part with
  | bare name =>
    obtain ⟨present, noStar, dot, quote⟩ := legible
    have plain : ∀ letter ∈ name.toList, isNameChar letter = true := by
      intro letter member
      simp only [isNameChar, Bool.and_eq_true, bne_iff_ne]
      exact ⟨fun same => dot (same ▸ member), fun same => quote (same ▸ member)⟩
    have other : bareOrStar name.toList = .bare name := by
      have differs : name.toList ≠ ['*'] := fun star => noStar (String.toList_inj.mp star)
      rw [bareOrStar, if_neg differs, String.ofList_toList]
    rw [spelling, ← other]
    exact readParts_bare text (String.toList_eq_nil_iff.not.mpr present) plain ends
  | quoted name =>
    obtain ⟨present, quote⟩ := legible
    rw [spelling, toList_inQuotes, List.cons_append, List.append_assoc, List.singleton_append,
      readParts_quoted text (String.toList_eq_nil_iff.not.mpr present) quote ends,
      String.ofList_toList]
  | star =>
    have plain : ∀ letter ∈ "*".toList, isNameChar letter = true :=
      List.forall_mem_singleton.mpr rfl
    exact readParts_bare text (List.cons_ne_nil _ _) plain ends

theorem Spells.ne_nil {letters : List Char} {parts : List IdentifierPart}
    (spells : Spells letters parts) : letters ≠ [] := by
  obtain ⟨part, rest, rfl⟩ := List.exists_cons_of_ne_nil spells.present
  have first : (spelling part).toList ≠ [] := by
    have legible := spells.legible part List.mem_cons_self
    cases part with
    | bare name => exact String.toList_eq_nil_iff.not.mpr legible.1
    | quoted name =>
      rw [spelling, toList_inQuotes]
      exact List.cons_ne_nil _ _
    | star => exact List.cons_ne_nil _ _
  rw [spells.whole]
  by_cases more : rest = []
  · rw [more, toList_spelled_single]
    exact first
  · rw [toList_spelled_cons part more]
    exact List.append_ne_nil_of_left_ne_nil first _

/-- Letters that spell segments are read as these. -/
theorem Spells.readParts_eq (text : String) {letters : List Char} {parts : List IdentifierPart}
    (spells : Spells letters parts) : readParts text letters = .ok parts := by
  induction parts generalizing letters with
  | nil => exact absurd rfl spells.present
  | cons part rest inductionHypothesis =>
    obtain ⟨legible, others⟩ := List.forall_mem_cons.mp spells.legible
    by_cases more : rest = []
    · rw [spells.whole, more, toList_spelled_single]
      have alone := readParts_spelling text legible (.inl rfl)
      rwa [List.append_nil] at alone
    · have further : Spells (spelled ⟨rest⟩).toList rest := ⟨more, others, rfl⟩
      rw [spells.whole, toList_spelled_cons part more, readParts_spelling text legible (.inr rfl),
        readBehind, if_neg further.ne_nil, inductionHypothesis further]
      rfl

/-- Letters are read as the segments that they spell, and as no others. -/
theorem readParts_eq_ok_iff (text : String) {letters : List Char} {parts : List IdentifierPart} :
    readParts text letters = .ok parts ↔ Spells letters parts :=
  ⟨Spells.of_readParts, Spells.readParts_eq text⟩

/-- A text is read as a name just if it spells the segments of the name, without the null character
and with a star in the last place only. -/
theorem parse_eq_ok_iff {text : String} {identifier : Identifier} :
    parse text = .ok identifier ↔
      '\x00' ∉ text.toList ∧ Spells text.toList identifier.parts ∧
        .star ∉ identifier.parts.dropLast := by
  have inner (parts : List IdentifierPart) :
      hasInnerStar parts = true ↔ .star ∈ parts.dropLast := List.contains_iff_mem
  unfold parse
  rw [guarded_eq_ok, guarded_eq_ok, List.contains_iff_mem, ← readParts_eq_ok_iff text]
  constructor
  · rintro ⟨_, null, read⟩
    cases found : readParts text text.toList with
    | error fault =>
      rw [found] at read
      cases read
    | ok parts =>
      rw [found] at read
      obtain ⟨star, same⟩ := guarded_eq_ok.mp read
      cases same
      exact ⟨null, rfl, (inner parts).not.mp star⟩
  · rintro ⟨null, read, star⟩
    have present : ¬text.isEmpty = true := by
      rw [String.isEmpty_iff, ← String.toList_eq_nil_iff]
      exact (Spells.of_readParts read).ne_nil
    refine ⟨present, null, ?_⟩
    rw [read]
    exact guarded_eq_ok.mpr ⟨(inner identifier.parts).not.mpr star, rfl⟩

/-! ### Names -/

theorem segmentText_spelling {part : IdentifierPart} (legible : Legible part) :
    SegmentText (spelling part) := by
  cases part with
  | bare name => exact .bare legible.1 legible.2.2.1 legible.2.2.2
  | quoted name => exact .quoted legible.1 legible.2
  | star => exact .bare (by decide) (by decide) (by decide)

/-- Each text of a segment is the spelling of one. -/
theorem exists_spelling {segment : String} (text : SegmentText segment) :
    ∃ part, Legible part ∧ spelling part = segment := by
  cases text with
  | bare present dot quote =>
    by_cases star : segment = "*"
    · exact ⟨.star, trivial, star.symm⟩
    · exact ⟨.bare segment, ⟨present, star, dot, quote⟩, rfl⟩
  | @quoted name present quote => exact ⟨.quoted name, ⟨present, quote⟩, rfl⟩

/-- Texts of segments are the spellings of segments, each of one. -/
theorem exists_spellings {segments : List String}
    (texts : ∀ segment ∈ segments, SegmentText segment) :
    ∃ parts : List IdentifierPart, (∀ part ∈ parts, Legible part) ∧
      parts.map spelling = segments := by
  induction segments with
  | nil => exact ⟨[], List.forall_mem_nil _, rfl⟩
  | cons segment rest inductionHypothesis =>
    obtain ⟨text, others⟩ := List.forall_mem_cons.mp texts
    obtain ⟨part, legible, rfl⟩ := exists_spelling text
    obtain ⟨parts, further, rfl⟩ := inductionHypothesis others
    exact ⟨part :: parts, List.forall_mem_cons.mpr ⟨legible, further⟩, List.map_cons⟩

theorem spelling_eq_star_iff {part : IdentifierPart} (legible : Legible part) :
    spelling part = "*" ↔ part = .star := by
  cases part with
  | bare name => simp [spelling, legible.2.1]
  | quoted name =>
    rw [← String.toList_inj, spelling, toList_inQuotes]
    simp
  | star => simp [spelling]

/-- Stars stand in the same places among segments and among their spellings. -/
theorem star_mem_spellings {parts : List IdentifierPart}
    (legible : ∀ part ∈ parts, Legible part) :
    "*" ∈ (parts.map spelling).dropLast ↔ .star ∈ parts.dropLast := by
  rw [← List.map_dropLast, List.mem_map]
  constructor
  · rintro ⟨part, member, star⟩
    exact (spelling_eq_star_iff (legible part (List.dropLast_subset _ member))).mp star ▸ member
  · exact fun member => ⟨.star, member, rfl⟩

/-- **Reading accepts the names and loses nothing.** A text is read just if it is a row of segments
with dots between them, a star only in the last place and the null character nowhere; and the
segments that are read, each written as it stood, are the text again. -/
theorem parse_exact (text : String) :
    ((∃ identifier, parse text = .ok identifier) ↔ IsName text) ∧
      ∀ identifier, parse text = .ok identifier → identifier.spelled = text := by
  have whole {identifier : Identifier} (read : parse text = .ok identifier) :
      identifier.spelled = text :=
    String.toList_inj.mp (parse_eq_ok_iff.mp read).2.1.whole.symm
  refine ⟨⟨?_, ?_⟩, fun identifier => whole⟩
  · rintro ⟨identifier, read⟩
    obtain ⟨null, spells, star⟩ := parse_eq_ok_iff.mp read
    refine ⟨null, identifier.parts.map spelling, ?_, (whole read).symm, ?_, ?_⟩
    · exact List.map_eq_nil_iff.not.mpr spells.present
    · exact List.forall_mem_map.mpr fun part member =>
        segmentText_spelling (spells.legible part member)
    · exact (star_mem_spellings spells.legible).not.mpr star
  · rintro ⟨null, segments, present, rfl, texts, star⟩
    obtain ⟨parts, legible, rfl⟩ := exists_spellings texts
    refine ⟨⟨parts⟩, parse_eq_ok_iff.mpr ⟨null, ⟨?_, legible, rfl⟩, ?_⟩⟩
    · exact List.map_eq_nil_iff.not.mp present
    · exact (star_mem_spellings legible).not.mp star

/-- The columns of a table in quotes. -/
theorem parse_exact_quoted_star :
    IsName "app.\"User. Table\".*" ∧
      (⟨[.bare "app", .quoted "User. Table", .star]⟩ : Identifier).spelled =
        "app.\"User. Table\".*" := by
  have read : parse "app.\"User. Table\".*" =
      .ok ⟨[.bare "app", .quoted "User. Table", .star]⟩ :=
    parse_eq_ok_iff.mpr ⟨by decide, ⟨by decide, by simp [Legible], by decide⟩, by decide⟩
  have exact := parse_exact "app.\"User. Table\".*"
  exact ⟨exact.1.mp ⟨_, read⟩, exact.2 _ read⟩

end Identifier

end OracleSql
