/-
This file shows that a test against a list of values says the same however the list is cut. A server
reads each list as a test of its own. A content is among values if it equals one of them, which is
not known of a null, neither in the column nor in the list. Tests against the parts of a list,
joined by OR, say what a test against all of it says; where the column is to be none of the values,
they say it joined by AND.

The text is followed as well. The parts are the values in their order, and none of them is longer
than the server takes. The markers count through all of them, and each stands for the value in its
place.
-/

import OracleSql.Proofs.Batch.Carried
import OracleSql.Proofs.Condition.Rendering
import OracleSql.Proofs.Values.Erased

namespace OracleSql

/-! ### What a test says -/

namespace Value

/-- Whether a content equals a bound value, which is not known if one of them is the null. -/
def equals (same : Value → Value → Truth) (content bound : Value) : Truth :=
  if content.isNull || bound.isNull then .unknown else same content bound

/-- Whether a content is one of the values, or none of them. -/
def isAmong (same : Value → Value → Truth) (content : Value) (negated : Bool)
    (values : List Value) : Truth :=
  let found := Truth.any (values.map (equals same content))
  if negated then found.not else found

end Value

theorem Truth.not_or (left right : Truth) : (left.or right).not = left.not.and right.not := by
  cases left <;> cases right <;> rfl

/-- A test against values says what the tests against the lists say that make them up. -/
theorem Value.isAmong_flatten (same : Value → Value → Truth) (content : Value) (negated : Bool)
    (lists : List (List Value)) :
    content.isAmong same negated lists.flatten =
      if negated then Truth.all (lists.map (content.isAmong same negated))
      else Truth.any (lists.map (content.isAmong same negated)) := by
  induction lists with
  | nil => cases negated <;> rfl
  | cons list rest inductionHypothesis =>
    have joined : Truth.any ((list :: rest).flatten.map (content.equals same)) =
        (Truth.any (list.map (content.equals same))).or
          (Truth.any (rest.flatten.map (content.equals same))) := by
      rw [List.flatten_cons, List.map_append, Truth.any_append]
    rw [isAmong, joined, List.map_cons, Truth.all_cons, Truth.any_cons]
    cases negated with
    | true =>
      rw [if_pos rfl] at inductionHypothesis ⊢
      rw [if_pos rfl, ← inductionHypothesis, Truth.not_or]
      rfl
    | false =>
      rw [if_neg Bool.false_ne_true] at inductionHypothesis ⊢
      rw [if_neg Bool.false_ne_true, ← inductionHypothesis]
      rfl

/-! ### Reading a test -/

/-- A test of a column against a list of values. -/
structure ListTest where
  column : List Token
  negated : Bool
  values : List Value

namespace ListTest

/-- The values of a list up to its closing parenthesis: markers with commas between them. -/
def values? : List Token → Option (List Value)
  | [.marker (.value bound), .closing] => some [bound]
  | .marker (.value bound) :: .sign ',' :: rest => (values? rest).map (bound :: ·)
  | _ => none

/-- The test that tokens make: a name, IN or NOT IN, and a list in parentheses. -/
def ofTokens? (tokens : List Token) : Option ListTest :=
  let column := tokens.takeWhile Token.isOfName
  match tokens.dropWhile Token.isOfName with
  | first :: .opening :: rest =>
    if first.isKeyword "IN" then (values? rest).map (⟨column, false, ·⟩) else none
  | first :: second :: .opening :: rest =>
    if first.isKeyword "NOT" && second.isKeyword "IN" then
      (values? rest).map (⟨column, true, ·⟩)
    else none
  | _ => none

/-- What predicates say of a row: a test against a list goes by the content of its column, and for
others it is given. -/
def assignment (same : Value → Value → Truth) (row : List Token → Value)
    (other : List Token → Truth) (tokens : List Token) : Truth :=
  match ofTokens? tokens with
  | some test => (row test.column).isAmong same test.negated test.values
  | none => other tokens

/-- Markers with commas between them are read back as their values. -/
theorem values?_intercalate {values : List Value} (some : values ≠ []) :
    values? (List.intercalate [Token.sign ','] (values.map fun bound =>
      [Token.marker (.value bound)]) ++ [Token.closing]) = .some values := by
  induction values with
  | nil => exact absurd rfl some
  | cons first rest inductionHypothesis =>
    cases rest with
    | nil => rfl
    | cons next further =>
      have others := inductionHypothesis (List.cons_ne_nil _ _)
      rw [List.map_cons] at others
      rw [List.map_cons, List.map_cons, List.intercalate_cons_cons, List.append_assoc,
        List.append_assoc]
      exact congrArg (Option.map (first :: ·)) others

/-- Tokens of a name that a word comes after are the first tokens that can stand in a name. -/
theorem span_name {tokens : List Token} (named : ∀ token ∈ tokens, token.isOfName = true)
    (letters : List Char) (rest : List Token) :
    (tokens ++ Token.word letters :: rest).takeWhile Token.isOfName = tokens ∧
      (tokens ++ Token.word letters :: rest).dropWhile Token.isOfName = .word letters :: rest := by
  rw [List.takeWhile_append_of_pos named, List.dropWhile_append_of_pos named]
  exact ⟨List.append_nil tokens, rfl⟩

end ListTest

namespace Condition

variable {dialect : Dialect} {column written : String} {tokens : List Token}

/-- A written test against a list is read back. -/
theorem list_ofTokens? (name : WritesName written tokens) (negated : Bool) {values : List Value}
    (some : values ≠ []) :
    ListTest.ofTokens? (Piece.tokens (listPieces dialect written negated values)) =
      .some ⟨tokens, negated, values.map dialect.lower⟩ := by
  have present : values.map dialect.lower ≠ [] := by
    rwa [ne_eq, List.map_eq_nil_iff]
  have list := ListTest.values?_intercalate present
  rw [List.map_map] at list
  rw [Piece.tokens, tokens?_listPieces name, Option.getD_some, ListTest.ofTokens?]
  cases negated with
  | false =>
    obtain ⟨taken, dropped⟩ := ListTest.span_name name.named "IN".toList (Token.opening ::
      (List.intercalate [Token.sign ','] (values.map fun value =>
        [Token.marker (valuePiece dialect value)]) ++ [Token.closing]))
    rw [listKeywords, if_neg Bool.false_ne_true, List.singleton_append, taken, dropped]
    exact congrArg (Option.map _) list
  | true =>
    obtain ⟨taken, dropped⟩ := ListTest.span_name name.named "NOT".toList
      (Token.word "IN".toList :: Token.opening :: (List.intercalate [Token.sign ',']
        (values.map fun value => [Token.marker (valuePiece dialect value)]) ++ [Token.closing]))
    rw [listKeywords, if_pos rfl, List.cons_append, List.singleton_append, taken, dropped]
    exact congrArg (Option.map _) list

variable {same : Value → Value → Truth} {row : List Token → Value} {other : List Token → Truth}

theorem assignment_list (name : WritesName written tokens) (negated : Bool) {values : List Value}
    (some : values ≠ []) :
    ListTest.assignment same row other
        (Piece.tokens (listPieces dialect written negated values)) =
      (row (Piece.tokens [.text written])).isAmong same negated (values.map dialect.lower) := by
  have alone : Piece.tokens [.text written] = tokens := by
    rw [Piece.tokens, List.flatMap_singleton, Piece.glyphs, tokens?_of_scan name.scanned,
      Option.getD_some]
  rw [ListTest.assignment, list_ofTokens? name negated some, alone]

/-- A test against one list says whether the content of the column is among the values. -/
theorem list_reading (named : dialect.nameText column = .ok written) (negated : Bool)
    {values : List Value} (some : values ≠ []) :
    Piece.reading (ListTest.assignment same row other) (listPieces dialect written negated values) =
      .some ((row (Piece.tokens [.text written])).isAmong same negated
        (values.map dialect.lower)) := by
  obtain ⟨tokens, name⟩ := Dialect.exists_writesName named
  have means := (list_isTest named negated values).isPredicate
    (ListTest.assignment same row other)
  rw [means.means.reading, assignment_list name negated some]

/-- So do the tests against the lists that the values are cut into. -/
theorem leafTruth_membership (named : dialect.nameText column = .ok written) (negated : Bool)
    (values : List Value) :
    leafTruth dialect (ListTest.assignment same row other) (.membership column values negated) =
      (row (Piece.tokens [.text written])).isAmong same negated (values.map dialect.lower) := by
  obtain ⟨tokens, name⟩ := Dialect.exists_writesName named
  have tests : ((chunks maxListLength values).map fun list =>
        Draft.predicateTruth (ListTest.assignment same row other)
          ((dialect.nameText column).map fun name => listPieces dialect name negated list)) =
      (chunks maxListLength (values.map dialect.lower)).map
        ((row (Piece.tokens [.text written])).isAmong same negated) := by
    rw [chunks_map, List.map_map, named]
    exact List.map_congr_left fun list member =>
      assignment_list name negated (ne_nil_of_mem_chunks maxListLength values list member)
  rw [leafTruth, tests, ← Value.isAmong_flatten, flatten_chunks]

end Condition

/-! ### The text of a test -/

namespace Condition

/-- The text of a test against so many values, behind so many markers. -/
def listText (style : MarkerStyle) (name : String) (negated : Bool) (before count : Nat) : String :=
  let markers := (List.range' (before + 1) count).map fun number => ":" ++ style.valueName number
  name ++ (if negated then " NOT IN (" else " IN (") ++ (Text.join ", " markers ++ ")")

/-- The texts of tests against lists; the markers count through all of them. -/
def listTexts (style : MarkerStyle) (name : String) (negated : Bool) :
    (before : Nat) → (lists : List (List Value)) → List String
  | _, [] => []
  | before, list :: rest =>
    listText style name negated before list.length ::
      listTexts style name negated (before + list.length) rest

/-- The text of a test against values that are cut into lists, in parentheses if there are
several. -/
def membershipText (style : MarkerStyle) (name : String) (negated : Bool) (before : Nat)
    (lists : List (List Value)) : String :=
  let tests := Text.join (if negated then " AND " else " OR ")
    (listTexts style name negated before lists)
  if 1 < lists.length then "(" ++ (tests ++ ")") else tests

/-- The tests against lists, joined, in parentheses if these are several. -/
def joinedPieces (dialect : Dialect) (name : String) (negated : Bool)
    (lists : List (List Value)) : List Piece :=
  let tests := lists.map (listPieces dialect name negated)
  parenthesized (1 < tests.length) (Piece.join (if negated then " AND " else " OR ") tests)

variable (dialect : Dialect) (style : MarkerStyle) (name : String) (negated : Bool)

theorem listPieces_writes (before : Nat) (values : List Value) :
    Piece.Writes style before (listPieces dialect name negated values) (values.map dialect.lower)
      (listText style name negated before (values.map dialect.lower).length) := by
  have markers := Rows.valuePieces_writes style before (values.map dialect.lower)
  rw [Rows.valuePieces, List.map_map] at markers
  exact markers.enclosed _ ")"

theorem listPieces_writesEach (before : Nat) (lists : List (List Value)) :
    Piece.WritesEach style before (lists.map (listPieces dialect name negated))
      (lists.map (List.map dialect.lower))
      (listTexts style name negated before (lists.map (List.map dialect.lower))) := by
  induction lists generalizing before with
  | nil => exact .nil before
  | cons list rest inductionHypothesis =>
    exact .cons (listPieces_writes dialect style name negated before list) (inductionHypothesis _)

/-- The tests against several lists write their texts, joined, in one pair of parentheses. -/
theorem joinedPieces_writes (before : Nat) (lists : List (List Value)) :
    Piece.Writes style before (joinedPieces dialect name negated lists)
      (lists.map (List.map dialect.lower)).flatten
      (membershipText style name negated before (lists.map (List.map dialect.lower))) := by
  have joined := (listPieces_writesEach dialect style name negated before lists).join
    (if negated then " AND " else " OR ")
  rw [membershipText, joinedPieces, List.length_map, List.length_map]
  by_cases several : 1 < lists.length
  · rw [if_pos several, parenthesized, if_pos (decide_eq_true several)]
    exact joined.enclosed "(" ")"
  · rw [if_neg several, parenthesized, if_neg (by rwa [decide_eq_true_iff])]
    exact joined

end Condition

/-! ### Cutting a list -/

/-- A test against values says of every row what the test says that is not cut. Its lists are the
values in their order, each of them one that the server takes, and the markers in them are the next
ones of the statement. Only a column without a name keeps it from being written. -/
theorem Condition.membership_uncut (dialect : Dialect) (column : String) (values : List Value)
    (negated : Bool) :
    (isIn column values).pieces dialect = (membership column values false).pieces dialect ∧
    (notIn column values).pieces dialect = (membership column values true).pieces dialect ∧
    (values = [] →
      ∃ own, (membership column values negated).pieces dialect = .ok own ∧
        (∀ assignment, Piece.reading assignment own = some (Truth.ofBool negated)) ∧
        ∀ style assembly, own.foldl (Assembly.add style) assembly =
          assembly.extended style (if negated then "1=1" else "1=0") []) ∧
    (values ≠ [] → ∀ failure, dialect.nameText column = .error failure →
      (membership column values negated).pieces dialect = .error failure) ∧
    (values ≠ [] → ∀ written, dialect.nameText column = .ok written →
      ∃ own lists, (membership column values negated).pieces dialect = .ok own ∧
        lists.flatten = values.map dialect.lower ∧
        (∀ list ∈ lists, 1 ≤ list.length ∧ list.length ≤ 1000) ∧
        (∀ same row other,
          let truth := (row (Piece.tokens [.text written])).isAmong same negated
            (values.map dialect.lower)
          let assignment := ListTest.assignment same row other
          Piece.reading assignment own = some truth ∧
            Piece.reading assignment (listPieces dialect written negated values) = some truth) ∧
        ∀ style assembly, own.foldl (Assembly.add style) assembly =
          assembly.extended style (membershipText style written negated assembly.markers lists)
            (values.map dialect.lower)) := by
  refine ⟨?_, ?_, ?_, ?_, ?_⟩
  · cases values <;> rfl
  · cases values <;> rfl
  · rintro rfl
    refine ⟨_, rfl, fun assignment => (constant_meansJoined negated).means.reading, ?_⟩
    exact fun style assembly => (Piece.Writes.single assembly.markers _).foldl_eq assembly rfl
  · intro some failure unnamed
    rw [pieces, membershipPieces, if_neg (by rwa [List.isEmpty_iff]), unnamed]
    rfl
  · intro some written named
    have present : values.isEmpty = false := by rwa [List.isEmpty_eq_false_iff]
    have built : (membership column values negated).pieces dialect =
        .ok (joinedPieces dialect written negated (chunks maxListLength values)) := by
      rw [pieces, membershipPieces, present, if_neg Bool.false_ne_true, named]
      rfl
    refine ⟨_, (chunks maxListLength values).map (List.map dialect.lower), built, ?_, ?_, ?_, ?_⟩
    · rw [← chunks_map, flatten_chunks]
    · rw [← chunks_map]
      intro list member
      exact ⟨List.length_pos_iff.mpr (ne_nil_of_mem_chunks _ _ list member),
        length_le_of_mem_chunks (by decide) _ list member⟩
    · intro same row other
      obtain ⟨_, again, means⟩ := @membership_means dialect
        (ListTest.assignment same row other) _ _ named _ present negated
      cases built.symm.trans again
      rw [leafTruth_membership named] at means
      exact ⟨means.means.reading, list_reading named negated some⟩
    · intro style assembly
      have writes := joinedPieces_writes dialect style written negated assembly.markers
        (chunks maxListLength values)
      rw [← chunks_map, flatten_chunks] at writes
      rw [← chunks_map]
      exact writes.foldl_eq assembly rfl

/-- A thousand numbers and the null. -/
def thousandAndNull : List Value :=
  (List.range 1000).map (fun number => .int (Int64.ofNat number)) ++ [.null]

/-- A column is not known to be none of the values where one of them is the null, though the numbers
in front of it make up a list of their own and the column is none of these. -/
theorem Condition.membership_uncut_two_lists :
    (∃ own, (membership "id" [] true).pieces {} = .ok own ∧
      Piece.reading (fun _ => .unknown) own = some .yes) ∧
    (∃ failure, (membership "" [.null] true).pieces {} = .error failure) ∧
    ∃ own lists, (membership "id" thousandAndNull true).pieces {} = .ok own ∧
      lists.flatten = thousandAndNull.map ({} : Dialect).lower ∧ 1 < lists.length ∧
      Piece.reading (ListTest.assignment (fun one other => Truth.ofBool (one = other))
        (fun _ => .int 1000) fun _ => .unknown) own = some .unknown ∧
      (own.foldl (Assembly.add .named) {}).sql = membershipText .named "\"ID\"" true 0 lists ∧
      (own.foldl (Assembly.add .named) {}).markers = 1001 := by
  refine ⟨?_, ?_, ?_⟩
  · obtain ⟨own, built, reading, _⟩ := (membership_uncut {} "id" [] true).2.2.1 rfl
    exact ⟨own, built, reading _⟩
  · obtain ⟨failure, unnamed⟩ : ∃ failure, ({} : Dialect).nameText "" = .error failure := ⟨_, rfl⟩
    exact ⟨failure, (membership_uncut {} "" [.null] true).2.2.2.1 (by decide) failure unnamed⟩
  · have named : ({} : Dialect).nameText "id" = .ok "\"ID\"" := by decide +kernel
    obtain ⟨own, lists, built, whole, bounds, reading, extended⟩ :=
      (membership_uncut {} "id" thousandAndNull true).2.2.2.2 (by decide +kernel) _ named
    have many : lists.flatten.length = 1001 := by
      rw [whole]
      decide +kernel
    have several : 1 < lists.length := by
      match lists, bounds, many with
      | [list], bounds, many =>
        have few := (bounds list List.mem_cons_self).2
        rw [List.flatten_singleton] at many
        omega
      | _ :: _ :: _, _, _ => exact Nat.le_add_left 2 _
    refine ⟨own, lists, built, whole, several, (reading _ _ _).1.trans ?_, ?_, ?_⟩
    · decide +kernel
    · rw [extended]
      exact String.empty_append
    · have counted (text : String) (values : List Value) :
          (Assembly.extended .named {} text values).markers = values.length := Nat.zero_add _
      rw [extended, counted, ← whole, many]
end OracleSql
