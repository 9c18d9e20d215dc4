/-
This file compares what a template becomes with numbered and with named markers. Both statements
have the outline of the template and say the same. A name is refused only where names are kept, and
only if it is reserved; there, all markers of one name get the spelling that stands first in the
template, and one value is bound under it.
-/

import OracleSql.Proofs.Styles.Alike
import OracleSql.Proofs.Template.Substitution

namespace OracleSql

/-- The name of a portable marker that has one. -/
def Marker.Lexeme.name? : Marker.Lexeme → Option String
  | named name => some (String.ofList name)
  | _ => none

theorem Piece.exists_of_name? {piece : Piece} {name : String} (known : piece.name? = some name) :
    ∃ value, piece = .named name value := by
  cases piece with
  | named other value =>
    cases known
    exact ⟨value, rfl⟩
  | _ => cases known

/-! ### Names of a template -/

namespace Dialect.Fills

variable {dialect : Dialect} {args : Args} {unused : List Value} {lexemes : List Marker.Lexeme}
  {pieces : List Piece}

/-- The pieces that are filled in keep the names of the markers. -/
theorem map_name? (fills : dialect.Fills args unused lexemes pieces) :
    (pieces.filter Piece.isMarker).map Piece.name? =
      (lexemes.filter Marker.Lexeme.isPortable).map Marker.Lexeme.name? := by
  induction fills with
  | done => rfl
  | text _ _ inductionHypothesis | native _ _ inductionHypothesis => exact inductionHypothesis
  | positional _ _ inductionHypothesis | named _ _ inductionHypothesis =>
    rw [List.filter_cons_of_pos rfl, List.filter_cons_of_pos rfl, List.map_cons, List.map_cons,
      inductionHypothesis]
    rfl

theorem filterMap_name? (fills : dialect.Fills args unused lexemes pieces) :
    (pieces.filter Piece.isMarker).filterMap Piece.name? =
      lexemes.filterMap Marker.Lexeme.name? := by
  rw [Piece.filterMap_isMarker fun _ => rfl]
  induction fills with
  | done => rfl
  | text _ _ inductionHypothesis | native _ _ inductionHypothesis
  | positional _ _ inductionHypothesis => exact inductionHypothesis
  | named _ _ inductionHypothesis => exact congrArg _ inductionHypothesis

theorem exists_of_mem (fills : dialect.Fills args unused lexemes pieces) {name : String}
    {value : Value} (member : .named name value ∈ pieces) :
    ∃ letters given, .named letters ∈ lexemes ∧ name = String.ofList letters ∧
      args.lookup? name = some given ∧ value = dialect.lower given := by
  induction fills with
  | done => cases member
  | text _ _ inductionHypothesis | native _ _ inductionHypothesis
  | positional _ _ inductionHypothesis =>
    obtain ⟨letters, given, inside, rest⟩ := inductionHypothesis (by simpa using member)
    exact ⟨letters, given, List.mem_cons_of_mem _ inside, rest⟩
  | @named letters given _ _ _ found _ inductionHypothesis =>
    rcases List.mem_cons.mp member with same | later
    · cases same
      exact ⟨letters, given, List.mem_cons_self, rfl, found, rfl⟩
    · obtain ⟨others, given, inside, rest⟩ := inductionHypothesis later
      exact ⟨others, given, List.mem_cons_of_mem _ inside, rest⟩

/-- What is filled in without reserved names has one value for a name in whatever case. -/
theorem isNamed (fills : dialect.Fills args unused lexemes pieces) (free : Unreserved lexemes) :
    Piece.Named pieces where
  free := fun name value member => by
    obtain ⟨letters, _, inside, rfl, _⟩ := fills.exists_of_mem member
    exact free letters inside
  agree := fun first one second other member also same => by
    obtain ⟨_, given, _, _, found, rfl⟩ := fills.exists_of_mem member
    obtain ⟨_, again, _, _, foundToo, rfl⟩ := fills.exists_of_mem also
    cases (Args.lookup?_congr same ▸ found).symm.trans foundToo
    rfl

/-- A marker with a name has the spelling of the name that stands first, and this one is bound. -/
theorem exists_spelling (fills : dialect.Fills args unused lexemes pieces)
    (free : Unreserved lexemes) {index : Nat} {name : List Char}
    (marker : (lexemes.filter Marker.Lexeme.isPortable)[index]? = some (.named name)) :
    ∃ spelling ∈ (pieces.foldl (Assembly.add .named) {}).named.map Prod.fst,
      (({} : Assembly).names .named pieces)[index]? = some spelling ∧
        (lexemes.filterMap Marker.Lexeme.name?).find? (Text.sameFolded · (String.ofList name)) =
          some spelling := by
  have keeps := keeps_assembled (fills.isNamed free)
  have length := Assembly.length_names .named {} pieces
  have kept := congrArg (·[index]?) fills.map_name?
  simp only [List.getElem?_map, marker] at kept
  obtain ⟨piece, found, known⟩ := Option.map_eq_some_iff.mp kept
  obtain ⟨value, rfl⟩ := Piece.exists_of_name? known
  obtain ⟨spelling, placed⟩ : ∃ spelling, (({} : Assembly).names .named pieces)[index]? =
    some spelling := ⟨_, List.getElem?_eq_getElem (length ▸ (List.getElem?_eq_some_iff.mp found).1)⟩
  have pair : (Piece.named (String.ofList name) value, spelling) ∈
      (pieces.filter Piece.isMarker).zip (({} : Assembly).names .named pieces) :=
    List.mem_of_getElem? (List.getElem?_zip_eq_some.mpr ⟨found, placed⟩)
  have unreserved : isGeneratedName (String.ofList name) = false :=
    free name (List.mem_of_mem_filter (List.mem_of_getElem? marker))
  have written : ((pieces.filter Piece.isMarker).zip
      (({} : Assembly).names .named pieces)).filterMap (·.1.name?) =
        lexemes.filterMap Marker.Lexeme.name? :=
    calc
      _ = (((pieces.filter Piece.isMarker).zip
          (({} : Assembly).names .named pieces)).map Prod.fst).filterMap Piece.name? :=
        List.filterMap_map.symm
      _ = _ := by rw [List.map_fst_zip length.ge, fills.filterMap_name?]
  refine ⟨spelling, List.mem_map_of_mem (keeps.bound _ spelling value pair rfl), placed, ?_⟩
  rw [← written]
  exact keeps.spelling unreserved pair

end Dialect.Fills

namespace Dialect

theorem unreserved_iff {lexemes : List Marker.Lexeme} :
    Unreserved lexemes ↔ ∀ name, .named name ∈ lexemes → ¬ IsReserved (String.ofList name) := by
  refine forall_congr' fun name => imp_congr_right fun _ => ?_
  rw [← isGeneratedName_iff, Bool.not_eq_true]

variable {dialect : Dialect} {template : String} {args : Args}

/-- The rules of filling in do not depend on the style of the markers. -/
theorem fills_styled (style : MarkerStyle) {unused : List Value} {lexemes : List Marker.Lexeme}
    {pieces : List Piece} :
    (dialect.styled style).Fills args unused lexemes pieces ↔
      dialect.Fills args unused lexemes pieces := by
  constructor
  all_goals
    intro fills
    induction fills with
    | done => exact .done
    | text written _ inductionHypothesis => exact .text written inductionHypothesis
    | native name _ inductionHypothesis => exact .native name inductionHypothesis
    | positional value _ inductionHypothesis => exact .positional value inductionHypothesis
    | named given _ inductionHypothesis => exact .named given inductionHypothesis

/-- A template has a statement with named markers if it has one with numbered markers and uses no
reserved name. -/
theorem exists_translate_named_iff
    (portable : ∀ lexemes, Marker.lexemes template = .ok lexemes → hasNative lexemes = false) :
    (∃ statement, (dialect.styled .named).translate template args = .ok statement) ↔
      (∃ statement, (dialect.styled .numbered).translate template args = .ok statement) ∧
        ∀ lexemes, Marker.lexemes template = .ok lexemes →
          ∀ name, .named name ∈ lexemes → ¬ IsReserved (String.ofList name) := by
  simp only [translate_eq_ok_iff portable, fill_eq_ok_iff, fills_styled]
  constructor
  · rintro ⟨_, lexemes, pieces, read, ⟨fills, free⟩, rfl⟩
    refine ⟨⟨_, lexemes, pieces, read, ⟨fills, fun style => by cases style⟩, rfl⟩, ?_⟩
    intro others also
    cases read.symm.trans also
    exact unreserved_iff.mp (free rfl)
  · rintro ⟨⟨_, lexemes, pieces, read, ⟨fills, _⟩, rfl⟩, free⟩
    exact ⟨_, lexemes, pieces, read, ⟨fills, fun _ => unreserved_iff.mpr (free lexemes read)⟩, rfl⟩

/-- The two statements of a template say the same. Markers of one name have the spelling that comes
first, under which the value is bound. -/
theorem translate_same {numbered named : Statement}
    (portable : ∀ lexemes, Marker.lexemes template = .ok lexemes → hasNative lexemes = false)
    (counted : (dialect.styled .numbered).translate template args = .ok numbered)
    (spelled : (dialect.styled .named).translate template args = .ok named) :
    ∃ lexemes names, Marker.lexemes template = .ok lexemes ∧
      Statement.SameWith (lexemes.map Marker.Lexeme.slot) names numbered named ∧
      ∀ (index : Nat) name,
        (lexemes.filter Marker.Lexeme.isPortable)[index]? = some (Marker.Lexeme.named name) →
        ∃ spelling ∈ named.binds.names, names[index]? = some spelling ∧
          (lexemes.filterMap Marker.Lexeme.name?).find? (Text.sameFolded · (String.ofList name)) =
            some spelling := by
  obtain ⟨lexemes, pieces, read, filled, rfl⟩ := (translate_eq_ok_iff portable).mp counted
  obtain ⟨others, further, again, filledToo, rfl⟩ := (translate_eq_ok_iff portable).mp spelled
  cases read.symm.trans again
  obtain ⟨fills, free⟩ := fill_eq_ok_iff.mp filledToo
  have refilled := ((fills_styled .numbered).mpr ((fills_styled .named).mp fills)).fill_eq
    fun style => by cases style
  cases filled.symm.trans refilled
  have named := fills.isNamed (free rfl)
  refine ⟨lexemes, _, read, fills.map_slot ▸ dialect.assemble_same (Or.inl rfl) named,
    fun index name marker => ?_⟩
  obtain ⟨spelling, bound, placed, first⟩ := fills.exists_spelling (free rfl) marker
  refine ⟨spelling, ?_, placed, first⟩
  show spelling ∈ List.map Prod.fst _
  rw [List.map_reverse]
  exact List.mem_reverse.mpr bound

end Dialect

end OracleSql
