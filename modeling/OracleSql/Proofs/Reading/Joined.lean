/-
This file says how parts of a condition keep their values when they are joined. Parts joined by OR
have the values of each. Beside an AND a part could lose what it stands for: an OR of its own would
take a neighbour with it, and an unfinished BETWEEN would take the AND. `Conjoins` says that a row
of parts has its value also there, and it holds of parts in parentheses, of NOT before them, of
predicates, and of such rows joined by AND.
-/

import OracleSql.Proofs.Outcome
import OracleSql.Proofs.Reading.Precedence

namespace OracleSql

/-! ### Parts joined by keywords -/

namespace Part

/-- The part that is a keyword. -/
def keyword (text : String) : Part :=
  token (.word text.toList)

variable {assignment : List Token → Truth}

theorem conjuncts_ne_nil (ranging : Bool) (parts : List Part) : conjuncts ranging parts ≠ [] := by
  cases parts with
  | nil => exact List.cons_ne_nil _ _
  | cons part rest =>
    rw [conjuncts]
    split
    · exact List.cons_ne_nil _ _
    · rw [ne_eq, List.modifyHead_eq_nil_iff]
      exact conjuncts_ne_nil _ rest

theorem modifyHead_append {α : Type} (change : α → α) {first : List α} (second : List α)
    (some : first ≠ []) :
    (first ++ second).modifyHead change = first.modifyHead change ++ second := by
  cases first with
  | nil => exact absurd rfl some
  | cons head rest => rfl

/-- An AND that does not belong to a BETWEEN before it keeps the parts on its sides apart. -/
theorem conjuncts_append {ranging : Bool} {first : List Part} (second : List Part)
    (settled : first.foldl ranges ranging = false) :
    conjuncts ranging (first ++ keyword "AND" :: second) =
      conjuncts ranging first ++ conjuncts false second := by
  induction first generalizing ranging with
  | nil =>
    cases settled
    rfl
  | cons part rest inductionHypothesis =>
    rw [List.cons_append, conjuncts, conjuncts, inductionHypothesis settled]
    split
    · rfl
    · exact modifyHead_append _ _ (conjuncts_ne_nil _ _)

/-- Parts joined by OR have the values of each joined by OR. -/
theorem disjunction_intercalate {lists : List (List Part)} (some : lists ≠ []) :
    disjunction assignment (List.intercalate [keyword "OR"] lists) =
      Truth.any (lists.map (disjunction assignment)) := by
  induction lists with
  | nil => exact absurd rfl some
  | cons first rest inductionHypothesis =>
    cases rest with
    | nil => rw [List.intercalate_singleton, List.map_singleton, Truth.any_singleton]
    | cons next others =>
      rw [List.intercalate_cons_cons, List.append_assoc, List.singleton_append, disjunction,
        List.splitOnP_append_cons _ _ (by decide), List.map_append, Truth.any_append, List.map_cons,
        Truth.any_cons, ← inductionHypothesis (List.cons_ne_nil _ _)]
      rfl

end Part

/-- Parts that have the value among others to which they are joined by AND: no OR and no unfinished
BETWEEN of theirs reaches over to the others. -/
structure Conjoins (assignment : List Token → Truth) (parts : List Part) (truth : Truth) :
    Prop where
  undivided : ∀ part ∈ parts, part.isKeyword "OR" = false
  settled : parts.foldl Part.ranges false = false
  value : Part.conjunction assignment parts = truth

namespace Conjoins

variable {assignment : List Token → Truth}

theorem disjunction {parts : List Part} {truth : Truth}
    (conjoins : Conjoins assignment parts truth) :
    Part.disjunction assignment parts = truth := by
  rw [Part.disjunction, List.splitOnP_eq_singleton conjoins.undivided, List.map_singleton,
    Truth.any_singleton, conjoins.value]

/-- A condition in parentheses keeps its value. -/
theorem group (inner : List Token) (truth : Truth) :
    Conjoins assignment [.group inner truth] truth := by
  refine ⟨?_, rfl, ?_⟩
  · simp [Part.isKeyword]
  · exact Truth.all_singleton truth

/-- NOT before parentheses changes the value of what stands in them and no more. -/
theorem negation (inner : List Token) (truth : Truth) :
    Conjoins assignment [Part.keyword "NOT", .group inner truth] truth.not := by
  refine ⟨?_, rfl, ?_⟩
  · simp only [List.mem_cons, List.not_mem_nil, or_false, forall_eq_or_imp, forall_eq]
    exact ⟨by decide, rfl⟩
  · exact Truth.all_singleton truth.not

/-- Parts joined by AND have the values of each joined by AND, and can be joined further. -/
theorem intercalate {lists : List (List Part)} {truths : List Truth} (some : lists ≠ [])
    (each : List.Forall₂ (Conjoins assignment) lists truths) :
    Conjoins assignment (List.intercalate [Part.keyword "AND"] lists) (Truth.all truths) := by
  induction each with
  | nil => exact absurd rfl some
  | @cons first truth rest others head tail inductionHypothesis =>
    cases tail with
    | nil =>
      rw [List.intercalate_singleton, Truth.all_singleton]
      exact head
    | cons next further =>
      obtain ⟨undivided, settled, value⟩ := inductionHypothesis (List.cons_ne_nil _ _)
      rw [List.intercalate_cons_cons, List.append_assoc, List.singleton_append]
      refine ⟨?_, ?_, ?_⟩
      · rw [List.forall_mem_append, List.forall_mem_cons]
        exact ⟨head.undivided, by decide, undivided⟩
      · rw [List.foldl_append, head.settled, List.foldl_cons]
        exact settled
      · rw [Part.conjunction, Part.conjuncts_append _ head.settled, List.map_append,
          Truth.all_append, Truth.all_cons, ← value, ← head.value]
        rfl

end Conjoins

/-! ### Single predicates -/

/-- The keywords that have their say in how conditions are joined. -/
def joiningKeywords : List String := ["OR", "AND", "BETWEEN"]

/-- Whether the token is no parenthesis and joins no conditions. -/
def Token.isInert (token : Token) : Bool :=
  token ≠ .opening && token ≠ .closing && joiningKeywords.all fun text => !token.isKeyword text

theorem Phrase.keyword {assignment : List Token → Truth} (text : String) :
    Phrase assignment [Part.keyword text] :=
  token ⟨nofun, nofun⟩

theorem Phrase.marker {assignment : List Token → Truth} (piece : Piece) :
    Phrase assignment [.token (.marker piece)] :=
  token ⟨nofun, nofun⟩

/-- A keyword with parts in parentheses after it. -/
def Part.call (assignment : List Token → Truth) (text : String) (argument : List Part) :
    List Part :=
  [keyword text, group (written argument) (disjunction assignment argument)]

theorem Part.written_call (assignment : List Token → Truth) (text : String)
    (argument : List Part) :
    written (call assignment text argument) =
      [Token.word text.toList, Token.opening] ++ (written argument ++ [Token.closing]) := by
  rw [call, ← List.singleton_append, written_append, written_group]
  rfl

theorem Phrase.call {assignment : List Token → Truth} (text : String) {argument : List Part}
    (phrase : Phrase assignment argument) :
    Phrase assignment (Part.call assignment text argument) :=
  (keyword text).append phrase.group

/-- The parts of a range after the column. -/
def Part.range (low high : Piece) : List Part :=
  [keyword "BETWEEN", token (.marker low), keyword "AND", token (.marker high)]

theorem Phrase.range {assignment : List Token → Truth} (low high : Piece) :
    Phrase assignment (Part.range low high) :=
  (((keyword "BETWEEN").append (marker low)).append (keyword "AND")).append (marker high)

theorem Phrase.tokens {assignment : List Token → Truth} {tokens : List Token}
    (inert : ∀ token ∈ tokens, token.isInert = true) : Phrase assignment (tokens.map .token) := by
  induction tokens with
  | nil => exact nil
  | cons first rest inductionHypothesis =>
    rw [List.forall_mem_cons] at inert
    obtain ⟨head, others⟩ := inert
    simp only [Token.isInert, Bool.and_eq_true, decide_eq_true_eq] at head
    exact (token head.1).append (inductionHypothesis others)

/-- Parts that make one condition together, and do not reach over to what comes after them. -/
structure Whole (parts : List Part) : Prop where
  undivided : ∀ part ∈ parts, part.isKeyword "OR" = false
  settled : parts.foldl Part.ranges false = false
  together : Part.conjuncts false parts = [parts]

namespace Whole

theorem nil : Whole [] :=
  ⟨List.forall_mem_nil _, rfl, rfl⟩

theorem cons {part : Part} {rest : List Part}
    (quiet : ∀ text ∈ joiningKeywords, part.isKeyword text = false) (whole : Whole rest) :
    Whole (part :: rest) := by
  have apart : part.isKeyword "OR" = false := quiet _ (by decide)
  have joined : part.isKeyword "AND" = false := quiet _ (by decide)
  have ranged : Part.ranges false part = false := by
    rw [Part.ranges, quiet _ (by decide)]
    rfl
  refine ⟨List.forall_mem_cons.mpr ⟨apart, whole.undivided⟩, ?_, ?_⟩
  · rw [List.foldl_cons, ranged, whole.settled]
  · rw [Part.conjuncts, ranged, joined, whole.together]
    rfl

theorem group (inner : List Token) (truth : Truth) {rest : List Part} (whole : Whole rest) :
    Whole (.group inner truth :: rest) :=
  cons (fun _ _ => rfl) whole

theorem tokens {tokens : List Token} (inert : ∀ token ∈ tokens, token.isInert = true)
    {rest : List Part} (whole : Whole rest) : Whole (tokens.map .token ++ rest) := by
  induction tokens with
  | nil => exact whole
  | cons first others inductionHypothesis =>
    rw [List.forall_mem_cons] at inert
    obtain ⟨head, more⟩ := inert
    simp only [Token.isInert, Bool.and_eq_true, List.all_eq_true, Bool.not_eq_true'] at head
    exact cons head.2 (inductionHypothesis more)

theorem call (assignment : List Token → Truth) {text : String} (argument : List Part)
    (quiet : ∀ other ∈ joiningKeywords, (Part.keyword text).isKeyword other = false)
    {rest : List Part} (whole : Whole rest) : Whole (Part.call assignment text argument ++ rest) :=
  (whole.group _ _).cons quiet

/-- The AND of a range joins no conditions. -/
theorem range (low high : Piece) : Whole (Part.range low high) := by
  refine ⟨?_, rfl, rfl⟩
  rw [Part.range]
  simp only [List.forall_mem_cons]
  exact ⟨by decide, rfl, by decide, rfl, List.forall_mem_nil _⟩

/-- A condition that starts with a token other than NOT, and that is no constant, is a predicate. -/
theorem conjoins {assignment : List Token → Truth} {first : Token} {rest : List Part}
    (whole : Whole (.token first :: rest)) (plain : first.isKeyword "NOT" = false)
    (varies : first ≠ .word ['1']) :
    Conjoins assignment (.token first :: rest)
      (assignment (Part.written (.token first :: rest))) := by
  refine ⟨whole.undivided, whole.settled, ?_⟩
  have other (further : List Token) :
      Part.written (.token first :: rest) ≠ .word ['1'] :: further :=
    fun same => varies (List.cons.inj same).1
  rw [Part.conjunction, whole.together, List.map_singleton, Truth.all_singleton, Part.factor,
    Part.isKeyword, plain, if_neg Bool.false_ne_true, Part.predicate, if_neg (other _),
    if_neg (other _)]
  intro inner truth impossible
  cases impossible

end Whole

/-! ### Written pieces -/

theorem Part.written_intercalate (separator : List Part) (rows : List (List Part)) :
    written (List.intercalate separator rows) =
      List.intercalate (written separator) (rows.map written) := by
  induction rows with
  | nil => rfl
  | cons row rest inductionHypothesis =>
    cases rest with
    | nil => rw [List.map_singleton, List.intercalate_singleton, List.intercalate_singleton]
    | cons next further =>
      rw [List.map_cons, List.map_cons, List.intercalate_cons_cons, List.intercalate_cons_cons,
        written_append, written_append, inductionHypothesis, List.map_cons]

theorem Phrase.intercalate {assignment : List Token → Truth} {separator : List Part}
    (between : Phrase assignment separator) {rows : List (List Part)}
    (each : ∀ row ∈ rows, Phrase assignment row) :
    Phrase assignment (List.intercalate separator rows) := by
  induction rows with
  | nil => exact nil
  | cons row rest inductionHypothesis =>
    rw [List.forall_mem_cons] at each
    cases rest with
    | nil =>
      rw [List.intercalate_singleton]
      exact each.1
    | cons next further =>
      rw [List.intercalate_cons_cons]
      exact (each.1.append between).append (inductionHypothesis each.2)

/-- Pieces that are written as the parts, and are read as them wherever they stand. -/
structure Renders (assignment : List Token → Truth) (pieces : List Piece) (parts : List Part) :
    Prop where
  scanned : tokens? (pieces.flatMap Piece.glyphs) = some (Part.written parts)
  phrase : Phrase assignment parts

namespace Renders

variable {assignment : List Token → Truth} {pieces : List Piece} {parts : List Part}

theorem reading (renders : Renders assignment pieces parts) :
    Piece.reading assignment pieces = some (Part.disjunction assignment parts) := by
  rw [Piece.reading, renders.scanned, Option.bind_eq_bind, Option.bind_some,
    renders.phrase.ofTokens?]
  rfl

theorem enclosed (renders : Renders assignment pieces parts) :
    Renders assignment (Piece.enclosed "(" ")" pieces)
      [.group (Part.written parts) (Part.disjunction assignment parts)] := by
  refine ⟨tokens?_of_scan ?_, renders.phrase.group⟩
  have opened : Scanner.between.scan (letters "(") = some ([.opening], .between) := rfl
  rw [Part.written_group]
  exact scan_enclosed opened renders.scanned

theorem negated (renders : Renders assignment pieces parts) :
    Renders assignment (Piece.enclosed "NOT (" ")" pieces) (Part.call assignment "NOT" parts) := by
  refine ⟨tokens?_of_scan ?_, renders.phrase.call "NOT"⟩
  rw [Part.written_call]
  exact scan_enclosed rfl renders.scanned

theorem join {separator : String} {letter : Char} {more : List Glyph} {token : Token}
    (spelled : letters separator = .letter letter :: more)
    (separates : letter ∈ Scanner.separators)
    (scanned : Scanner.between.scan (letters separator) = some ([token], .between))
    (plain : token ≠ .opening ∧ token ≠ .closing)
    {lists : List (List Piece)} {rows : List (List Part)}
    (each : List.Forall₂ (Renders assignment) lists rows) :
    Renders assignment (Piece.join separator lists) (List.intercalate [.token token] rows) := by
  have phrases : List.Forall₂ (fun row pieces => Phrase assignment row ∧
      Renders assignment pieces row) rows lists :=
    List.Forall₂.flip (each.imp fun _ _ renders => ⟨renders.phrase, renders⟩)
  refine ⟨?_, Phrase.intercalate (.token plain) ((List.forall₂_and_left _ _).mp phrases).1⟩
  rw [Part.written_intercalate]
  refine tokens?_join spelled separates scanned ?_
  rw [List.forall₂_map_right_iff]
  exact each.imp fun _ _ renders => renders.scanned

end Renders

/-! ### Values of written pieces -/

/-- The pieces, if they stand alone or between parentheses, have the value. -/
def Means (assignment : List Token → Truth) (pieces : List Piece) (truth : Truth) : Prop :=
  ∃ parts, Renders assignment pieces parts ∧ Part.disjunction assignment parts = truth

/-- The pieces have the value also among others to which they are joined by AND. -/
def MeansJoined (assignment : List Token → Truth) (pieces : List Piece) (truth : Truth) : Prop :=
  ∃ parts, Renders assignment pieces parts ∧ Conjoins assignment parts truth

variable {assignment : List Token → Truth} {pieces : List Piece} {truth : Truth}

theorem MeansJoined.means (joined : MeansJoined assignment pieces truth) :
    Means assignment pieces truth := by
  obtain ⟨parts, renders, conjoins⟩ := joined
  exact ⟨parts, renders, conjoins.disjunction⟩

theorem MeansJoined.join {lists : List (List Piece)} {truths : List Truth} (some : lists ≠ [])
    (each : List.Forall₂ (MeansJoined assignment) lists truths) :
    MeansJoined assignment (Piece.join " AND " lists) (Truth.all truths) := by
  obtain ⟨rows, renders, conjoins⟩ := forall₂_middle each
  have present : rows ≠ [] := by
    rintro rfl
    exact some (List.forall₂_nil_right_iff.mp renders)
  exact ⟨List.intercalate [Part.keyword "AND"] rows,
    Renders.join rfl (by decide) rfl (by decide) renders, Conjoins.intercalate present conjoins⟩

namespace Means

theorem reading (means : Means assignment pieces truth) :
    Piece.reading assignment pieces = some truth := by
  obtain ⟨parts, renders, rfl⟩ := means
  exact renders.reading

/-- Parentheses keep the value together. -/
theorem enclosed (means : Means assignment pieces truth) :
    MeansJoined assignment (Piece.enclosed "(" ")" pieces) truth := by
  obtain ⟨parts, renders, rfl⟩ := means
  exact ⟨_, renders.enclosed, Conjoins.group _ _⟩

theorem negated (means : Means assignment pieces truth) :
    MeansJoined assignment (Piece.enclosed "NOT (" ")" pieces) truth.not := by
  obtain ⟨parts, renders, rfl⟩ := means
  exact ⟨_, renders.negated, Conjoins.negation _ _⟩

theorem join {lists : List (List Piece)} {truths : List Truth} (some : lists ≠ [])
    (each : List.Forall₂ (Means assignment) lists truths) :
    Means assignment (Piece.join " OR " lists) (Truth.any truths) := by
  obtain ⟨rows, renders, values⟩ := forall₂_middle each
  have present : rows ≠ [] := by
    rintro rfl
    exact some (List.forall₂_nil_right_iff.mp renders)
  refine ⟨List.intercalate [Part.keyword "OR"] rows,
    Renders.join rfl (by decide) rfl (by decide) renders, ?_⟩
  have same : rows.map (Part.disjunction assignment) = truths := by
    rw [← List.forall₂_eq_eq_eq, List.forall₂_map_left_iff]
    exact values
  rw [Part.disjunction_intercalate present, same]

end Means

end OracleSql
