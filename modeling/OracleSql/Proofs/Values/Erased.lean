/-
This file takes the values out of what statements are built from. Pieces, conditions and the values
of a template each have a form in which every value is the null, and two of them are alike if these
forms are the same. Two facts carry everything else. Assembling does not look at values: a statement
is the same up to its binds as the one of the pieces without values. And the pieces of a condition
or a template without values are its pieces, without values.
-/

import OracleSql.Proofs.Condition.Tree
import Mathlib.Data.List.Forall2

namespace OracleSql

/-! ### Pieces -/

namespace Piece

/-- The piece with the null for its value. -/
def withoutValue : Piece → Piece
  | value _ => value .null
  | named name _ => named name .null
  | piece => piece

/-- Pieces that differ at most in their values. -/
def Alike (first second : List Piece) : Prop :=
  first.map withoutValue = second.map withoutValue

theorem Alike.refl (pieces : List Piece) : Alike pieces pieces := rfl

theorem Alike.append {first second further other : List Piece} (left : Alike first second)
    (right : Alike further other) : Alike (first ++ further) (second ++ other) := by
  unfold Alike at left right ⊢
  rw [List.map_append, List.map_append, left, right]

theorem Alike.cons {first second : List Piece} (piece : Piece) (alike : Alike first second) :
    Alike (piece :: first) (piece :: second) :=
  (Alike.refl [piece]).append alike

theorem Alike.enclosed {first second : List Piece} (opening closing : String)
    (alike : Alike first second) :
    Alike (enclosed opening closing first) (enclosed opening closing second) :=
  (alike.append (Alike.refl [text closing])).cons (text opening)

/-- A joined list is changed member by member. -/
theorem map_join {separator : String} {change : Piece → Piece}
    (kept : change (.text separator) = .text separator) (members : List (List Piece)) :
    (join separator members).map change = join separator (members.map (List.map change)) := by
  match members with
  | [] => rfl
  | [_] => rfl
  | member :: next :: rest =>
    have others := map_join kept (next :: rest)
    rw [join_cons_cons, List.map_append, List.map_cons, kept, others]
    rfl

/-- A joined list without values is the join of the members without values. -/
theorem map_withoutValue_join (separator : String) (members : List (List Piece)) :
    (join separator members).map withoutValue =
      join separator (members.map (List.map withoutValue)) :=
  map_join rfl members

/-- Lists that are alike member by member are alike when they are joined. -/
theorem Alike.join {first second : List (List Piece)} (separator : String)
    (alike : List.Forall₂ Alike first second) :
    Alike (join separator first) (Piece.join separator second) := by
  have members : first.map (List.map withoutValue) = second.map (List.map withoutValue) := by
    induction alike with
    | nil => rfl
    | cons head _ inductionHypothesis =>
      rw [List.map_cons, List.map_cons, inductionHypothesis, head]
  unfold Alike
  rw [map_withoutValue_join, map_withoutValue_join, members]

theorem Alike.flatten {first second : List (List Piece)} (alike : List.Forall₂ Alike first second) :
    Alike first.flatten second.flatten := by
  induction alike with
  | nil => exact Alike.refl []
  | cons head _ inductionHypothesis =>
    rw [List.flatten_cons, List.flatten_cons]
    exact head.append inductionHypothesis

end Piece

/-! ### Statements -/

/-- The statement without its binds. -/
def Statement.withoutBinds (statement : Statement) : Statement :=
  { statement with binds := .none }

/-- The plan with its statements without their binds. -/
def Plan.withoutBinds (plan : Plan) : Plan :=
  { plan with statements := plan.statements.map Statement.withoutBinds }

namespace Assembly

/-- The assembly with the null for every value. -/
def withoutValues (assembly : Assembly) : Assembly :=
  { assembly with
    positional := assembly.positional.map fun _ => .null
    named := assembly.named.map fun pair => (pair.1, .null) }

/-- A name is looked up among the bound names, whatever they are bound to. -/
theorem withoutValues_addNamed (assembly : Assembly) (name : String) (value : Value) :
    (assembly.addNamed name value).withoutValues =
      assembly.withoutValues.addNamed name .null := by
  have found : assembly.withoutValues.named.find? (fun pair => Text.sameFolded pair.1 name) =
      (assembly.named.find? fun pair => Text.sameFolded pair.1 name).map
        fun pair => (pair.1, .null) := by
    rw [withoutValues, List.find?_map]
    rfl
  unfold addNamed
  rw [found]
  cases assembly.named.find? fun pair => Text.sameFolded pair.1 name with
  | none => rfl
  | some pair => rfl

theorem withoutValues_add (style : MarkerStyle) (assembly : Assembly) (piece : Piece) :
    (assembly.add style piece).withoutValues =
      assembly.withoutValues.add style piece.withoutValue := by
  cases piece with
  | text sql => rfl
  | value value => cases style <;> rfl
  | named name value =>
    cases style with
    | numbered => rfl
    | named => exact withoutValues_addNamed assembly name value
  | out column columnType rows => cases style <;> rfl

theorem withoutValues_foldl (style : MarkerStyle) (pieces : List Piece) (assembly : Assembly) :
    (pieces.foldl (Assembly.add style) assembly).withoutValues =
      (pieces.map Piece.withoutValue).foldl (Assembly.add style) assembly.withoutValues := by
  induction pieces generalizing assembly with
  | nil => rfl
  | cons piece rest inductionHypothesis =>
    rw [List.foldl_cons, inductionHypothesis, withoutValues_add, List.map_cons, List.foldl_cons]

end Assembly

/-- Pieces that are alike make up statements that differ at most in their binds. -/
theorem Dialect.assemble_withoutBinds (dialect : Dialect) {first second : List Piece}
    (shape : Shape) (alike : Piece.Alike first second) :
    (dialect.assemble first shape).withoutBinds = (dialect.assemble second shape).withoutBinds := by
  have assembled :
      (first.foldl (Assembly.add dialect.markerStyle) {}).withoutValues =
        (second.foldl (Assembly.add dialect.markerStyle) {}).withoutValues := by
    rw [Assembly.withoutValues_foldl, Assembly.withoutValues_foldl, alike]
  have sql := congrArg Assembly.sql assembled
  have outs := congrArg Assembly.outs assembled
  simp only [Assembly.withoutValues] at sql outs
  simp only [Dialect.assemble, Statement.withoutBinds, sql, outs]

/-! ### Templates -/

/-- The values of a template with the null for each of them. -/
def Args.withoutValues (args : Args) : Args where
  positional := args.positional.map fun _ => .null
  named := args.named.map fun pair => (pair.1, .null)

theorem Args.lookup?_withoutValues (args : Args) (name : String) :
    args.withoutValues.lookup? name = (args.lookup? name).map fun _ => .null := by
  simp only [lookup?, withoutValues, ← List.map_reverse, List.find?_map, Option.map_map]
  rfl

/-- The piece of a named marker does not depend on the value of the name. -/
theorem Dialect.namedPiece_withoutValues (dialect : Dialect) (args : Args) (name : String) :
    dialect.namedPiece args.withoutValues name =
      (dialect.namedPiece args name).map Piece.withoutValue := by
  unfold namedPiece
  rw [Args.lookup?_withoutValues]
  cases args.lookup? name with
  | none => rfl
  | some value =>
    by_cases generated : dialect.markerStyle = .named ∧ isGeneratedName name
    · simp only [Option.map_some, if_pos generated]
      rfl
    · simp only [Option.map_some, if_neg generated]
      rfl

/-- A template is filled in the same way with other values. -/
theorem Dialect.fill_withoutValues (dialect : Dialect) (args : Args) (unused : List Value)
    (lexemes : List Marker.Lexeme) :
    dialect.fill args.withoutValues (unused.map fun _ => .null) lexemes =
      (dialect.fill args unused lexemes).map (List.map Piece.withoutValue) := by
  induction lexemes generalizing unused with
  | nil =>
    cases unused with
    | nil => rfl
    | cons value rest => simp [fill, Args.withoutValues, Except.map]
  | cons lexeme rest inductionHypothesis =>
    cases lexeme with
    | text written =>
      simp only [fill, inductionHypothesis]
      cases dialect.fill args unused rest <;> rfl
    | native name =>
      simp only [fill, inductionHypothesis]
      cases dialect.fill args unused rest <;> rfl
    | positional =>
      cases unused with
      | nil => simp [fill, Args.withoutValues, Except.map]
      | cons value others =>
        simp only [fill, List.map_cons, inductionHypothesis]
        cases dialect.fill args others rest <;> rfl
    | named name =>
      simp only [fill, inductionHypothesis, namedPiece_withoutValues]
      cases dialect.namedPiece args (String.ofList name) with
      | error failure => rfl
      | ok piece => cases dialect.fill args unused rest <;> rfl

/-- A fragment has the same pieces with other values. -/
theorem Dialect.fragment_withoutValues (dialect : Dialect) (sql : String) (args : Args) :
    dialect.fragment sql args.withoutValues =
      (dialect.fragment sql args).map (List.map Piece.withoutValue) := by
  unfold fragment
  cases Error.ofLexemes (Marker.lexemes sql) with
  | error failure => rfl
  | ok lexemes =>
    by_cases native : hasNative lexemes
    · simp only [bind, Except.bind, if_pos native]
      rfl
    · simp only [bind, Except.bind, if_neg native]
      exact dialect.fill_withoutValues args args.positional lexemes

/-! ### Conditions -/

namespace Condition

mutual

/-- The condition with the null for every value. -/
def withoutValues : Condition → Condition
  | all parts => all (allWithoutValues parts)
  | any parts => any (allWithoutValues parts)
  | negation inner => negation inner.withoutValues
  | compare column comparison _ => compare column comparison .null
  | nullness column isNull => nullness column isNull
  | membership column values negated => membership column (values.map fun _ => .null) negated
  | range column _ _ negated => range column .null .null negated
  | template sql values => template sql (values.map fun _ => .null)
  | fragment sql => fragment sql
  | always => always
  | never => never

/-- Conditions with the null for every value. -/
def allWithoutValues : List Condition → List Condition
  | [] => []
  | part :: rest => part.withoutValues :: allWithoutValues rest

end

theorem allWithoutValues_eq (parts : List Condition) :
    allWithoutValues parts = parts.map withoutValues := by
  induction parts with
  | nil => rfl
  | cons part rest inductionHypothesis =>
    rw [allWithoutValues, List.map_cons, inductionHypothesis]

@[simp]
theorem isEmpty_withoutValues (condition : Condition) :
    condition.withoutValues.isEmpty = condition.isEmpty := by
  have parts (parts : List Condition)
      (each : ∀ part ∈ parts, part.withoutValues.isEmpty = part.isEmpty) :
      allEmpty (allWithoutValues parts) = allEmpty parts := by
    rw [allWithoutValues_eq, allEmpty_eq, allEmpty_eq, List.all_map, Bool.eq_iff_iff,
      List.all_eq_true, List.all_eq_true]
    refine forall₂_congr fun part member => ?_
    rw [Function.comp_apply, each part member]
  induction condition with
  | all members inductionHypothesis => exact parts members inductionHypothesis
  | any members inductionHypothesis => exact parts members inductionHypothesis
  | negation inner inductionHypothesis => exact inductionHypothesis
  | _ => rfl

theorem enclosedInAll_withoutValues (condition : Condition) :
    condition.withoutValues.enclosedInAll = condition.enclosedInAll := by
  cases condition <;> rfl

theorem enclosedInAny_withoutValues (condition : Condition) :
    condition.withoutValues.enclosedInAny = condition.enclosedInAny := by
  cases condition <;> rfl

theorem map_withoutValue_enclosed (opening closing : String) (pieces : List Piece) :
    (Piece.enclosed opening closing pieces).map Piece.withoutValue =
      Piece.enclosed opening closing (pieces.map Piece.withoutValue) := by
  simp [Piece.enclosed, Piece.withoutValue]

theorem map_withoutValue_parenthesized (wanted : Bool) (pieces : List Piece) :
    (parenthesized wanted pieces).map Piece.withoutValue =
      parenthesized wanted (pieces.map Piece.withoutValue) := by
  cases wanted with
  | false => rfl
  | true => exact map_withoutValue_enclosed "(" ")" pieces

theorem map_withoutValue_listPieces (dialect : Dialect) (name : String) (negated : Bool)
    (values : List Value) :
    (listPieces dialect name negated values).map Piece.withoutValue =
      listPieces dialect name negated (values.map fun _ => .null) := by
  unfold listPieces
  rw [map_withoutValue_enclosed, Piece.map_withoutValue_join]
  simp only [List.map_map]
  rfl

theorem membershipPieces_withoutValues (dialect : Dialect) (column : String)
    (values : List Value) (negated : Bool) :
    membershipPieces dialect column (values.map fun _ => .null) negated =
      (membershipPieces dialect column values negated).map (List.map Piece.withoutValue) := by
  unfold membershipPieces
  rw [List.isEmpty_map]
  by_cases none : values.isEmpty
  · rw [if_pos none, if_pos none]
    rfl
  · rw [if_neg none, if_neg none]
    cases dialect.nameText column with
    | error failure => rfl
    | ok name =>
      have lists : (chunks maxListLength (values.map fun _ => Value.null)).map
            (listPieces dialect name negated) =
          ((chunks maxListLength values).map (listPieces dialect name negated)).map
            (List.map Piece.withoutValue) := by
        rw [chunks_map, List.map_map, List.map_map]
        exact List.map_congr_left fun chunk _ =>
          (map_withoutValue_listPieces dialect name negated chunk).symm
      simp only [bind, Except.bind, Except.map, lists, List.length_map,
        map_withoutValue_parenthesized, Piece.map_withoutValue_join]

/-- The parts of a condition without values have the pieces of the parts, without values. -/
theorem partPieces_withoutValues (dialect : Dialect) (wanted other : Condition → Bool)
    (same : ∀ part, other part.withoutValues = wanted part) (parts : List Condition)
    (each : ∀ part ∈ parts,
      part.withoutValues.pieces dialect = (part.pieces dialect).map (List.map Piece.withoutValue)) :
    partPieces dialect other (parts.map withoutValues) =
      (partPieces dialect wanted parts).map (List.map (List.map Piece.withoutValue)) := by
  induction parts with
  | nil => rfl
  | cons part rest inductionHypothesis =>
    have others := inductionHypothesis fun other member =>
      each other (List.mem_cons_of_mem _ member)
    rw [List.map_cons, partPieces, partPieces, isEmpty_withoutValues, same, others,
      each part List.mem_cons_self]
    by_cases empty : part.isEmpty
    · rw [if_pos empty, if_pos empty]
    · rw [if_neg empty, if_neg empty]
      cases part.pieces dialect with
      | error failure => rfl
      | ok first =>
        cases partPieces dialect wanted rest with
        | error failure => rfl
        | ok further =>
          simp only [bind, Except.bind, Except.map, List.map_cons, map_withoutValue_parenthesized]

/-- A condition without values has the pieces of the condition, without values. -/
theorem pieces_withoutValues (dialect : Dialect) (condition : Condition) :
    condition.withoutValues.pieces dialect =
      (condition.pieces dialect).map (List.map Piece.withoutValue) := by
  have joined (separator : String) (outcome : Except Error (List (List Piece))) :
      (outcome.map (List.map (List.map Piece.withoutValue))).map (Piece.join separator) =
        (outcome.map (Piece.join separator)).map (List.map Piece.withoutValue) := by
    cases outcome with
    | error failure => rfl
    | ok members => exact congrArg Except.ok (Piece.map_withoutValue_join separator members).symm
  induction condition with
  | all parts inductionHypothesis =>
    rw [withoutValues, pieces, pieces, allWithoutValues_eq, partPieces_withoutValues dialect
      enclosedInAll enclosedInAll enclosedInAll_withoutValues parts inductionHypothesis, joined]
  | any parts inductionHypothesis =>
    rw [withoutValues, pieces, pieces, allWithoutValues_eq, partPieces_withoutValues dialect
      enclosedInAny enclosedInAny enclosedInAny_withoutValues parts inductionHypothesis, joined]
  | negation inner inductionHypothesis =>
    rw [withoutValues, pieces, pieces, isEmpty_withoutValues, inductionHypothesis]
    by_cases empty : inner.isEmpty
    · rw [if_pos empty, if_pos empty]
      rfl
    · rw [if_neg empty, if_neg empty]
      cases inner.pieces dialect with
      | error failure => rfl
      | ok written =>
        exact congrArg Except.ok (map_withoutValue_enclosed "NOT (" ")" written).symm
  | compare column comparison value =>
    simp only [withoutValues, pieces, comparePieces]
    cases dialect.nameText column with
    | error failure => rfl
    | ok name => cases comparison <;> rfl
  | nullness column isNull =>
    simp only [withoutValues, pieces]
    cases dialect.nameText column <;> rfl
  | membership column values negated =>
    simp only [withoutValues, pieces]
    exact membershipPieces_withoutValues dialect column values negated
  | range column low high negated =>
    simp only [withoutValues, pieces]
    cases dialect.nameText column <;> rfl
  | template sql values =>
    simp only [withoutValues, pieces]
    exact dialect.fragment_withoutValues sql { positional := values }
  | fragment sql =>
    simp only [withoutValues, pieces]
    exact dialect.fragment_withoutValues sql {}
  | always => rfl
  | never => rfl

end Condition

/-! ### Filters -/

namespace Filter

/-- The filter with the null for every value. -/
def withoutValues (filter : Filter) : Filter :=
  ⟨filter.conditions.map Condition.withoutValues⟩

theorem isEmpty_withoutValues (filter : Filter) :
    filter.withoutValues.isEmpty = filter.isEmpty := by
  simp only [isEmpty, withoutValues, List.all_map, Function.comp_def,
    Condition.isEmpty_withoutValues]

theorem enclosed_withoutValues (filter : Filter) (condition : Condition) :
    filter.withoutValues.enclosed condition.withoutValues = filter.enclosed condition := by
  have several : filter.withoutValues.hasSeveral = filter.hasSeveral := by
    simp only [hasSeveral, withoutValues, List.filter_map, List.length_map, Function.comp_def,
      Condition.isEmpty_withoutValues]
  cases condition <;> simp only [Condition.withoutValues, enclosed, several] <;> rfl

/-- A clause without values has the pieces of the clause, without values. -/
theorem clause_withoutValues (dialect : Dialect) (keyword : String) (filter : Filter) :
    filter.withoutValues.clause dialect keyword =
      (filter.clause dialect keyword).map (List.map Piece.withoutValue) := by
  have parts : Condition.partPieces dialect filter.withoutValues.enclosed
        filter.withoutValues.conditions =
      (Condition.partPieces dialect filter.enclosed filter.conditions).map
        (List.map (List.map Piece.withoutValue)) :=
    Condition.partPieces_withoutValues dialect filter.enclosed filter.withoutValues.enclosed
      filter.enclosed_withoutValues filter.conditions
      fun part _ => part.pieces_withoutValues dialect
  unfold clause pieces
  rw [isEmpty_withoutValues, parts]
  by_cases empty : filter.isEmpty
  · rw [if_pos empty, if_pos empty]
    rfl
  · rw [if_neg empty, if_neg empty]
    cases Condition.partPieces dialect filter.enclosed filter.conditions with
    | error failure => rfl
    | ok members =>
      simp only [Except.map, List.map_cons, Piece.map_withoutValue_join]
      rfl

end Filter

end OracleSql
