/-
This file inverts the filling in of a template. What a template becomes, `Dialect.Fills` says with
one rule for each kind of lexeme; the style of the markers matters only in that names which are made
for markers are refused where names are kept. A template can be filled in if each of its names has a
value and the positional values are as many as the markers for them.
-/

import OracleSql.Template
import OracleSql.Proofs.Outcome

namespace OracleSql

/-! ### Values of names -/

namespace Args

/-- The value is the last one that was given for the name. -/
def GivesLast (args : Args) (name : String) (value : Value) : Prop :=
  ∃ front spelling back, args.named = front ++ (spelling, value) :: back ∧
    Text.sameFolded spelling name = true ∧ ∀ pair ∈ back, Text.sameFolded pair.1 name = false

variable {args : Args} {name : String} {value : Value}

theorem lookup?_eq_some_iff : args.lookup? name = some value ↔ args.GivesLast name value := by
  unfold lookup? GivesLast
  rw [Option.map_eq_some_iff]
  constructor
  · rintro ⟨⟨spelling, _⟩, found, rfl⟩
    obtain ⟨same, later, earlier, split, others⟩ := List.find?_eq_some_iff_append.mp found
    refine ⟨earlier.reverse, spelling, later.reverse, ?_, same, fun pair member => ?_⟩
    · rw [← List.reverse_reverse args.named, split]
      simp
    · simpa using others pair (List.mem_reverse.mp member)
  · rintro ⟨front, spelling, back, split, same, others⟩
    refine ⟨(spelling, value), List.find?_eq_some_iff_append.mpr
      ⟨same, back.reverse, front.reverse, ?_, fun pair member => ?_⟩, rfl⟩
    · rw [split]
      simp
    · rw [others pair (List.mem_reverse.mp member)]
      rfl

theorem lookup?_isSome_iff :
    (args.lookup? name).isSome = true ↔
      ∃ pair ∈ args.named, Text.sameFolded pair.1 name = true := by
  simp [lookup?, List.find?_isSome]

/-- Names that are the same up to case have the same value. -/
theorem lookup?_congr {other : String} (same : Text.sameFolded name other = true) :
    args.lookup? name = args.lookup? other := by
  have folded : Text.foldUpper name = Text.foldUpper other := eq_of_beq same
  simp only [lookup?, Text.sameFolded, folded]

end Args

/-! ### Filling in -/

namespace Dialect

/-- The lexemes become the pieces and use up exactly these positional values. -/
inductive Fills (dialect : Dialect) (args : Args) :
    List Value → List Marker.Lexeme → List Piece → Prop
  | done : Fills dialect args [] [] []
  | text (written : List Char) {unused : List Value} {rest : List Marker.Lexeme}
      {pieces : List Piece} (more : Fills dialect args unused rest pieces) :
      Fills dialect args unused (.text written :: rest) (.text (String.ofList written) :: pieces)
  | native (name : List Char) {unused : List Value} {rest : List Marker.Lexeme}
      {pieces : List Piece} (more : Fills dialect args unused rest pieces) :
      Fills dialect args unused (.native name :: rest)
        (.text (String.ofList (':' :: name)) :: pieces)
  | positional (value : Value) {unused : List Value} {rest : List Marker.Lexeme}
      {pieces : List Piece} (more : Fills dialect args unused rest pieces) :
      Fills dialect args (value :: unused) (.positional :: rest)
        (.value (dialect.lower value) :: pieces)
  | named {name : List Char} {value : Value} {unused : List Value} {rest : List Marker.Lexeme}
      {pieces : List Piece} (given : args.lookup? (String.ofList name) = some value)
      (more : Fills dialect args unused rest pieces) :
      Fills dialect args unused (.named name :: rest)
        (.named (String.ofList name) (dialect.lower value) :: pieces)

/-- No name of the lexemes is one that is made for markers. -/
def Unreserved (lexemes : List Marker.Lexeme) : Prop :=
  ∀ name, .named name ∈ lexemes → isGeneratedName (String.ofList name) = false

variable {dialect : Dialect} {args : Args} {unused : List Value} {lexemes : List Marker.Lexeme}
  {pieces : List Piece}

theorem Unreserved.tail {lexeme : Marker.Lexeme} (free : Unreserved (lexeme :: lexemes)) :
    Unreserved lexemes :=
  fun name member => free name (List.mem_cons_of_mem _ member)

theorem namedPiece_eq_ok_iff {name : String} {piece : Piece} :
    dialect.namedPiece args name = .ok piece ↔
      (∃ value, args.lookup? name = some value ∧ piece = .named name (dialect.lower value)) ∧
        (dialect.markerStyle = .named → isGeneratedName name = false) := by
  unfold namedPiece
  cases args.lookup? name with
  | none => simp
  | some value =>
    dsimp only
    by_cases generated : dialect.markerStyle = .named ∧ isGeneratedName name = true
    · simp [generated]
    · rw [if_neg generated, Except.ok.injEq]
      rw [not_and, Bool.not_eq_true] at generated
      constructor
      · rintro rfl
        exact ⟨⟨value, rfl, rfl⟩, generated⟩
      · rintro ⟨⟨_, ⟨⟩, rfl⟩, _⟩
        rfl

theorem fills_of_fill (filled : dialect.fill args unused lexemes = .ok pieces) :
    dialect.Fills args unused lexemes pieces ∧
      (dialect.markerStyle = .named → Unreserved lexemes) := by
  induction lexemes generalizing unused pieces with
  | nil =>
    cases unused with
    | nil =>
      cases filled
      exact ⟨.done, fun _ _ member => absurd member List.not_mem_nil⟩
    | cons value rest => cases filled
  | cons lexeme rest inductionHypothesis =>
    cases lexeme with
    | text written =>
      obtain ⟨more, others, rfl⟩ := map_eq_ok.mp filled
      obtain ⟨fills, free⟩ := inductionHypothesis others
      exact ⟨fills.text written, fun style name member => free style name (by simpa using member)⟩
    | native name =>
      obtain ⟨more, others, rfl⟩ := map_eq_ok.mp filled
      obtain ⟨fills, free⟩ := inductionHypothesis others
      exact ⟨fills.native name, fun style name member => free style name (by simpa using member)⟩
    | positional =>
      cases unused with
      | nil => cases filled
      | cons value others =>
        obtain ⟨more, others, rfl⟩ := map_eq_ok.mp filled
        obtain ⟨fills, free⟩ := inductionHypothesis others
        exact ⟨fills.positional value,
          fun style name member => free style name (by simpa using member)⟩
    | named name =>
      obtain ⟨piece, first, others⟩ := bind_eq_ok.mp filled
      obtain ⟨more, further, rfl⟩ := map_eq_ok.mp others
      obtain ⟨fills, free⟩ := inductionHypothesis further
      obtain ⟨⟨value, given, rfl⟩, unreserved⟩ := namedPiece_eq_ok_iff.mp first
      refine ⟨fills.named given, fun style other member => ?_⟩
      rcases List.mem_cons.mp member with same | member
      · cases same
        exact unreserved style
      · exact free style other member

theorem Fills.fill_eq (fills : dialect.Fills args unused lexemes pieces)
    (free : dialect.markerStyle = .named → Unreserved lexemes) :
    dialect.fill args unused lexemes = .ok pieces := by
  induction fills with
  | done => rfl
  | text written _ inductionHypothesis =>
    rw [fill, inductionHypothesis fun style => (free style).tail]
    rfl
  | native name _ inductionHypothesis =>
    rw [fill, inductionHypothesis fun style => (free style).tail]
    rfl
  | positional value _ inductionHypothesis =>
    rw [fill, inductionHypothesis fun style => (free style).tail]
    rfl
  | named given _ inductionHypothesis =>
    have piece := namedPiece_eq_ok_iff.mpr
      ⟨⟨_, given, rfl⟩, fun style => free style _ List.mem_cons_self⟩
    rw [fill, piece, inductionHypothesis fun style => (free style).tail]
    rfl

/-- A template is filled in by the rules; where names are kept, none of them may be a made one. -/
theorem fill_eq_ok_iff :
    dialect.fill args unused lexemes = .ok pieces ↔
      dialect.Fills args unused lexemes pieces ∧
        (dialect.markerStyle = .named → Unreserved lexemes) :=
  ⟨fills_of_fill, fun ⟨fills, free⟩ => fills.fill_eq free⟩

/-- Lexemes can be filled in if each name has a value and there is a positional value for each of
the other markers, and none besides. -/
theorem exists_fills_iff :
    (∃ pieces, dialect.Fills args unused lexemes pieces) ↔
      (∀ name, .named name ∈ lexemes → (args.lookup? (String.ofList name)).isSome = true) ∧
        lexemes.count .positional = unused.length := by
  constructor
  · rintro ⟨pieces, fills⟩
    induction fills with
    | done => exact ⟨fun _ member => absurd member List.not_mem_nil, rfl⟩
    | text _ _ inductionHypothesis => simpa using inductionHypothesis
    | native _ _ inductionHypothesis => simpa using inductionHypothesis
    | positional _ _ inductionHypothesis => simpa using inductionHypothesis
    | @named name value _ _ _ given _ inductionHypothesis =>
      obtain ⟨each, counted⟩ := inductionHypothesis
      refine ⟨fun other member => ?_, by simpa using counted⟩
      rcases List.mem_cons.mp member with same | member
      · cases same
        rw [given]
        rfl
      · exact each other member
  · rintro ⟨each, counted⟩
    induction lexemes generalizing unused with
    | nil =>
      cases List.length_eq_zero_iff.mp counted.symm
      exact ⟨[], .done⟩
    | cons lexeme rest inductionHypothesis =>
      have others := fun name member => each name (List.mem_cons_of_mem lexeme member)
      cases lexeme with
      | text written =>
        obtain ⟨pieces, fills⟩ := inductionHypothesis others (by simpa using counted)
        exact ⟨_, fills.text written⟩
      | native name =>
        obtain ⟨pieces, fills⟩ := inductionHypothesis others (by simpa using counted)
        exact ⟨_, fills.native name⟩
      | positional =>
        cases unused with
        | nil => simp at counted
        | cons value further =>
          obtain ⟨pieces, fills⟩ := inductionHypothesis others (by simpa using counted)
          exact ⟨_, fills.positional value⟩
      | named name =>
        obtain ⟨value, given⟩ := Option.isSome_iff_exists.mp (each name List.mem_cons_self)
        obtain ⟨pieces, fills⟩ := inductionHypothesis others (by simpa using counted)
        exact ⟨_, fills.named given⟩

end Dialect

end OracleSql
