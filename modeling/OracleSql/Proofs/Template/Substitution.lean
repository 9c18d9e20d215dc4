/-
This file says what the statement of a template is where markers are numbered. There is one just if
every name of the template has a value and the positional values are as many as the markers for
them. Its text is that of the template with the number of each portable marker in the marker's
place, and it binds, for each of them, the value that was given for it. Values for names that the
template does not use have no say.
-/

import OracleSql.Proofs.Template.Filling
import OracleSql.Proofs.Template.Outline

namespace OracleSql

/-! ### Outlines of templates -/

/-- A lexeme in an outline: its text, or the place of a portable marker. -/
def Marker.Lexeme.slot (lexeme : Marker.Lexeme) : Option String :=
  if lexeme.isPortable then none else some (String.ofList lexeme.written)

/-- The value is given for the marker at the index: to a `?` the positional value that follows those
of the markers before it, to a name the last value for it. -/
def Args.Gives (args : Args) (markers : List Marker.Lexeme) (index : Nat) (value : Value) : Prop :=
  match markers[index]? with
  | some .positional => args.positional[(markers.take index).count .positional]? = some value
  | some (.named name) => args.GivesLast (String.ofList name) value
  | _ => False

namespace Dialect.Fills

variable {dialect : Dialect} {args : Args} {unused : List Value} {lexemes : List Marker.Lexeme}
  {pieces : List Piece}

/-- What is filled in has the outline of the template. -/
theorem map_slot (fills : dialect.Fills args unused lexemes pieces) :
    pieces.map Piece.slot = lexemes.map Marker.Lexeme.slot := by
  induction fills with
  | done => rfl
  | text _ _ inductionHypothesis | native _ _ inductionHypothesis
  | positional _ _ inductionHypothesis | named _ _ inductionHypothesis =>
    rw [List.map_cons, List.map_cons, inductionHypothesis]
    rfl

/-- A piece with a marker is filled in for each portable one. -/
theorem countP_isMarker (fills : dialect.Fills args unused lexemes pieces) :
    pieces.countP Piece.isMarker = lexemes.countP Marker.Lexeme.isPortable := by
  induction fills with
  | done => rfl
  | text _ _ inductionHypothesis | native _ _ inductionHypothesis =>
    rw [List.countP_cons_of_neg Bool.false_ne_true, List.countP_cons_of_neg Bool.false_ne_true,
      inductionHypothesis]
  | positional _ _ inductionHypothesis | named _ _ inductionHypothesis =>
    rw [List.countP_cons_of_pos rfl, List.countP_cons_of_pos rfl, inductionHypothesis]

theorem length_values (fills : dialect.Fills args unused lexemes pieces) :
    (pieces.filterMap Piece.value?).length = lexemes.countP Marker.Lexeme.isPortable := by
  induction fills with
  | done => rfl
  | text _ _ inductionHypothesis | native _ _ inductionHypothesis =>
    rw [List.countP_cons_of_neg Bool.false_ne_true, ← inductionHypothesis]
    rfl
  | positional _ _ inductionHypothesis | named _ _ inductionHypothesis =>
    rw [List.countP_cons_of_pos rfl, ← inductionHypothesis]
    rfl

/-- No returned columns are filled in. -/
theorem outBind?_eq_none (fills : dialect.Fills args unused lexemes pieces) (name : String) :
    ∀ piece ∈ pieces, piece.outBind? name = none := by
  induction fills with
  | done => simp
  | text _ _ inductionHypothesis | native _ _ inductionHypothesis
  | positional _ _ inductionHypothesis | named _ _ inductionHypothesis =>
    exact List.forall_mem_cons.mpr ⟨rfl, inductionHypothesis⟩

/-- Each value that is filled in was given for the marker in its place. -/
theorem exists_gives (fills : dialect.Fills args unused lexemes pieces) {index : Nat}
    {value : Value} (bound : (pieces.filterMap Piece.value?)[index]? = some value) :
    ∃ given, { args with positional := unused }.Gives
      (lexemes.filter Marker.Lexeme.isPortable) index given ∧ value = dialect.lower given := by
  induction fills generalizing index with
  | done => simp at bound
  | text _ _ inductionHypothesis | native _ _ inductionHypothesis => exact inductionHypothesis bound
  | positional given _ inductionHypothesis =>
    rw [List.filter_cons_of_pos rfl]
    cases index with
    | zero => exact ⟨given, rfl, (Option.some.inj bound).symm⟩
    | succ index =>
      obtain ⟨other, gives, same⟩ := inductionHypothesis bound
      refine ⟨other, ?_, same⟩
      unfold Args.Gives at gives ⊢
      rw [List.getElem?_cons_succ, List.take_succ_cons, List.count_cons_self]
      exact gives
  | named found _ inductionHypothesis =>
    rw [List.filter_cons_of_pos rfl]
    cases index with
    | zero => exact ⟨_, Args.lookup?_eq_some_iff.mp found, (Option.some.inj bound).symm⟩
    | succ index =>
      obtain ⟨other, gives, same⟩ := inductionHypothesis bound
      refine ⟨other, ?_, same⟩
      unfold Args.Gives at gives ⊢
      rw [List.getElem?_cons_succ, List.take_succ_cons, List.count_cons_of_ne (by simp)]
      exact gives

/-- The statement of what is filled in, where markers are numbered. -/
theorem assemble_numbered (fills : dialect.Fills args unused lexemes pieces)
    (numbered : dialect.markerStyle = .numbered) :
    dialect.assemble pieces .rows =
      { sql := Outline.written (lexemes.map Marker.Lexeme.slot)
          ((List.range' 1 (lexemes.countP Marker.Lexeme.isPortable)).map toString)
        binds := .positional (pieces.filterMap Piece.value?)
        shape := .rows } := by
  have outs : (pieces.foldl (Assembly.add .numbered) {}).outs = [] := by
    rw [Assembly.outs_foldl, List.nil_append, List.filterMap_eq_nil_iff]
    intro pair member
    exact fills.outBind?_eq_none _ _ (List.mem_of_mem_filter (List.of_mem_zip member).1)
  have sql := Assembly.sql_foldl .numbered pieces {}
  have positional := Assembly.positional_foldl pieces {}
  rw [Assembly.names_numbered, fills.map_slot, fills.countP_isMarker, String.empty_append] at sql
  unfold assemble Assembly.binds
  rw [numbered]
  dsimp only
  rw [sql, positional, outs, List.append_nil, List.reverse_reverse]
  rfl

end Dialect.Fills

/-! ### Names in use -/

namespace Args

/-- Whether one of the lexemes asks for the name. -/
def isUsed (lexemes : List Marker.Lexeme) (name : String) : Bool :=
  lexemes.any fun lexeme =>
    match lexeme with
    | .named marker => Text.sameFolded name (String.ofList marker)
    | _ => false

/-- A name in use finds the same value where the pairs with names in use are the same. -/
theorem lookup?_of_isUsed {lexemes : List Marker.Lexeme} {args : Args}
    {others : List (String × Value)} {marker : List Char} (used : .named marker ∈ lexemes)
    (same : others.filter (isUsed lexemes ·.1) = args.named.filter (isUsed lexemes ·.1)) :
    { args with named := others }.lookup? (String.ofList marker) =
      args.lookup? (String.ofList marker) := by
  have restricted (pairs : List (String × Value)) :
      pairs.reverse.find? (Text.sameFolded ·.1 (String.ofList marker)) =
        (pairs.filter (isUsed lexemes ·.1)).reverse.find?
          (Text.sameFolded ·.1 (String.ofList marker)) := by
    rw [← List.filter_reverse, List.find?_filter]
    congr 1
    funext pair
    by_cases found : Text.sameFolded pair.1 (String.ofList marker) = true
    · have asked : isUsed lexemes pair.1 = true := List.any_eq_true.mpr ⟨_, used, found⟩
      simp only [asked, true_and, Bool.decide_eq_true]
    · rw [Bool.not_eq_true] at found
      simp only [found, Bool.false_eq_true, and_false, decide_false]
  unfold lookup?
  rw [restricted others, same, ← restricted]

end Args

namespace Dialect

variable {dialect : Dialect} {template : String} {args : Args}

/-- A template without native markers has the statement of what it is filled in with. -/
theorem translate_eq_ok_iff {statement : Statement}
    (portable : ∀ lexemes, Marker.lexemes template = .ok lexemes → hasNative lexemes = false) :
    dialect.translate template args = .ok statement ↔
      ∃ lexemes pieces, Marker.lexemes template = .ok lexemes ∧
        dialect.fill args args.positional lexemes = .ok pieces ∧
        dialect.assemble pieces .rows = statement := by
  unfold translate
  constructor
  · intro translated
    obtain ⟨lexemes, read, built⟩ := bind_eq_ok.mp translated
    have found := mapError_eq_ok.mp read
    rw [portable lexemes found] at built
    obtain ⟨pieces, filled, same⟩ := bind_eq_ok.mp built
    exact ⟨lexemes, pieces, found, filled, Except.ok.inj same⟩
  · rintro ⟨lexemes, pieces, read, filled, rfl⟩
    refine bind_eq_ok.mpr ⟨lexemes, mapError_eq_ok.mpr read, ?_⟩
    rw [portable lexemes read]
    exact bind_eq_ok.mpr ⟨pieces, filled, rfl⟩

theorem translate_congr {others : List (String × Value)} {lexemes : List Marker.Lexeme}
    (read : Marker.lexemes template = .ok lexemes) (plain : hasNative lexemes = false)
    (same : others.filter (Args.isUsed lexemes ·.1) = args.named.filter (Args.isUsed lexemes ·.1)) :
    dialect.translate template { args with named := others } = dialect.translate template args := by
  have filled : dialect.fill { args with named := others } args.positional lexemes =
      dialect.fill args args.positional lexemes := by
    refine dialect.fill_congr dialect { args with named := others } args rfl rfl
      (fun marker used => ?_) args.positional
    rw [namedPiece, namedPiece, Args.lookup?_of_isUsed used same]
  unfold translate
  rw [read]
  simp only [Error.ofLexemes, Except.mapError, bind, Except.bind, plain, filled,
    Bool.false_eq_true, if_false]

/-- **A template is a substitution** where markers are numbered: a template without native markers
has a statement just if it can be read, each of its names has a value, and the positional values are
as many as the markers for them. The text of the statement is the template with the number of each
portable marker in its place; the values are those given for the markers, as the database takes
them. Pairs of names and values that the template does not use change nothing. -/
theorem translate_substitutes (dialect : Dialect) (template : String) (args : Args)
    (numbered : dialect.markerStyle = .numbered)
    (portable : ∀ lexemes, Marker.lexemes template = .ok lexemes → hasNative lexemes = false) :
    ((∃ statement, dialect.translate template args = .ok statement) ↔
      ∃ lexemes, Marker.lexemes template = .ok lexemes ∧
        (∀ name, .named name ∈ lexemes →
          ∃ pair ∈ args.named, Text.sameFolded pair.1 (String.ofList name) = true) ∧
        lexemes.count .positional = args.positional.length) ∧
    (∀ statement, dialect.translate template args = .ok statement →
      ∃ lexemes values, Marker.lexemes template = .ok lexemes ∧
        statement =
          { sql := Outline.written (lexemes.map Marker.Lexeme.slot)
              ((List.range' 1 (lexemes.countP Marker.Lexeme.isPortable)).map toString)
            binds := .positional values
            shape := .rows } ∧
        values.length = lexemes.countP Marker.Lexeme.isPortable ∧
        ∀ index value, values[index]? = some value →
          ∃ given, args.Gives (lexemes.filter Marker.Lexeme.isPortable) index given ∧
            value = dialect.lower given) ∧
    ∀ lexemes, Marker.lexemes template = .ok lexemes → ∀ others : List (String × Value),
      others.filter (Args.isUsed lexemes ·.1) = args.named.filter (Args.isUsed lexemes ·.1) →
        dialect.translate template { args with named := others } =
          dialect.translate template args := by
  refine ⟨?_, fun statement translated => ?_, fun lexemes read others same => ?_⟩
  · have fillable (lexemes : List Marker.Lexeme) :
        (∃ pieces, dialect.fill args args.positional lexemes = .ok pieces) ↔
          (∀ name, .named name ∈ lexemes →
            ∃ pair ∈ args.named, Text.sameFolded pair.1 (String.ofList name) = true) ∧
          lexemes.count .positional = args.positional.length := by
      have kept : dialect.markerStyle ≠ .named := by rw [numbered]; decide
      simp only [fill_eq_ok_iff, kept, false_implies, and_true, exists_fills_iff,
        Args.lookup?_isSome_iff]
    constructor
    · rintro ⟨statement, translated⟩
      obtain ⟨lexemes, pieces, read, filled, _⟩ := (translate_eq_ok_iff portable).mp translated
      exact ⟨lexemes, read, (fillable lexemes).mp ⟨pieces, filled⟩⟩
    · rintro ⟨lexemes, read, given⟩
      obtain ⟨pieces, filled⟩ := (fillable lexemes).mpr given
      exact ⟨_, (translate_eq_ok_iff portable).mpr ⟨lexemes, pieces, read, filled, rfl⟩⟩
  · obtain ⟨lexemes, pieces, read, filled, rfl⟩ := (translate_eq_ok_iff portable).mp translated
    have fills := (fill_eq_ok_iff.mp filled).1
    exact ⟨lexemes, _, read, fills.assemble_numbered numbered, fills.length_values,
      fun index value bound => fills.exists_gives bound⟩
  · exact translate_congr read (portable lexemes read) same

/-- A template with a `?` in a literal, a name in two spellings and a value without use. -/
theorem translate_substitutes_repeated_name :
    let template := "SELECT '?', @v, ?, @V FROM t -- @w"
    let args : Args :=
      { positional := [.bool true], named := [("v", .null), ("W", .null), ("V", .text "x")] }
    (∃ statement, ({} : Dialect).translate template args = .ok statement) ∧
      ({} : Dialect).translate template { args with named := [("v", .null), ("V", .text "x")] } =
        ({} : Dialect).translate template args ∧
      ({} : Dialect).translate template args =
        .ok { sql := "SELECT '?', :1, :2, :3 FROM t -- @w"
              binds := .positional [.text "x", .int 1, .text "x"]
              shape := .rows } := by
  intro template args
  have read : (Marker.lexemes template).map (fun lexemes => (hasNative lexemes,
        lexemes.filter Marker.Lexeme.isPortable, args.named.filter (Args.isUsed lexemes ·.1))) =
      .ok (false, [.named ['v'], .positional, .named ['V']], [("v", .null), ("V", .text "x")]) := by
    decide +kernel
  obtain ⟨lexemes, found, parts⟩ := map_eq_ok.mp read
  simp only [Prod.mk.injEq] at parts
  obtain ⟨plain, markers, used⟩ := parts
  have portable : ∀ others, Marker.lexemes template = .ok others → hasNative others = false := by
    intro others also
    cases found.symm.trans also
    exact plain
  obtain ⟨possible, _, unused⟩ := translate_substitutes {} template args rfl portable
  have same : [("v", .null), ("V", .text "x")].filter (Args.isUsed lexemes ·.1) =
      args.named.filter (Args.isUsed lexemes ·.1) := by
    rw [← used, List.filter_filter]
    simp only [Bool.and_self]
  refine ⟨possible.mpr ⟨lexemes, found, fun name member => ?_, ?_⟩,
    unused lexemes found _ same, by decide +kernel⟩
  · have marked : Marker.Lexeme.named name ∈ lexemes.filter Marker.Lexeme.isPortable :=
      List.mem_filter.mpr ⟨member, rfl⟩
    rw [markers] at marked
    refine ⟨("v", .null), by decide, ?_⟩
    simp only [List.mem_cons, Marker.Lexeme.named.injEq, List.not_mem_nil, or_false,
      reduceCtorEq, false_or] at marked
    rcases marked with rfl | rfl <;> decide
  · rw [← List.count_filter (p := Marker.Lexeme.isPortable) rfl, markers]
    rfl

end Dialect

end OracleSql
