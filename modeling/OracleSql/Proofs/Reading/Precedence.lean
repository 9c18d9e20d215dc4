/-
This file reads tokens as a condition, with the precedence of SQL. What stands in parentheses is
read first and is one part of what stands around it. The parts of one level are cut at each OR, and
what lies between at each AND, but not at the one that belongs to a BETWEEN before it. NOT stands
before a single condition. What is left is a condition in parentheses or a predicate. What the
predicates say is given; only the two constants are known.

A phrase is a row of parts that is read the same wherever it stands. Phrases in a row are a phrase,
and so is a phrase in parentheses, which is one part with its value. Any tokens whose parentheses
are balanced are a phrase.
-/

import OracleSql.Proofs.Condition.Truth
import OracleSql.Proofs.Reading.Token

namespace OracleSql

/-! ### Parts -/

/-- A part of a condition: a token, or what stands in parentheses and its value. -/
inductive Part where
  | token (token : Token)
  | group (inner : List Token) (truth : Truth)

namespace Part

/-- The tokens of a part. -/
def tokens : Part → List Token
  | token single => [single]
  | group inner _ => .opening :: (inner ++ [.closing])

/-- The tokens of parts in a row. -/
def written (parts : List Part) : List Token :=
  parts.flatMap tokens

theorem written_append (first second : List Part) :
    written (first ++ second) = written first ++ written second :=
  List.flatMap_append

theorem written_group (inner : List Token) (truth : Truth) :
    written [group inner truth] = .opening :: (inner ++ [.closing]) := by
  rw [written, List.flatMap_singleton, tokens]

/-- Whether the part is the keyword. -/
def isKeyword (keyword : String) : Part → Bool
  | token single => single.isKeyword keyword
  | group _ _ => false

/-! ### Precedence -/

/-- Whether the next AND after the part belongs to a BETWEEN, if `ranging` says so before it. -/
def ranges (ranging : Bool) (part : Part) : Bool :=
  part.isKeyword "BETWEEN" || (ranging && !part.isKeyword "AND")

/-- The parts between the ANDs that join conditions. -/
def conjuncts (ranging : Bool) : List Part → List (List Part)
  | [] => [[]]
  | part :: rest =>
    let others := conjuncts (ranges ranging part) rest
    if part.isKeyword "AND" && !ranging then [] :: others else others.modifyHead (part :: ·)

variable (assignment : List Token → Truth)

/-- The value of a predicate; a comparison of one number with another is a constant. -/
def predicate (tokens : List Token) : Truth :=
  if tokens = [.word ['1'], .sign '=', .word ['1']] then .yes
  else if tokens = [.word ['1'], .sign '=', .word ['0']] then .no
  else assignment tokens

/-- The value of a single condition, which NOT may stand before. -/
def factor : List Part → Truth
  | [group _ truth] => truth
  | part :: rest =>
    if part.isKeyword "NOT" then (factor rest).not
    else predicate assignment (written (part :: rest))
  | [] => predicate assignment []

/-- The value of conditions that are joined by AND. -/
def conjunction (parts : List Part) : Truth :=
  Truth.all ((conjuncts false parts).map (factor assignment))

/-- The value of conditions that are joined by AND and by OR. -/
def disjunction (parts : List Part) : Truth :=
  Truth.any ((parts.splitOnP (isKeyword "OR")).map (conjunction assignment))

end Part

/-! ### Parentheses -/

/-- How far a condition is read: the parts inside the last open parenthesis, and those before each
open one. -/
structure Reader where
  current : List Part := []
  enclosing : List (List Part) := []

namespace Reader

/-- The reader after one more token. A closing parenthesis must have an opening one. -/
def step (assignment : List Token → Truth) : Reader → Token → Option Reader
  | ⟨current, enclosing⟩, .opening => some ⟨[], current :: enclosing⟩
  | ⟨current, before :: enclosing⟩, .closing =>
    some ⟨before ++ [.group (Part.written current) (Part.disjunction assignment current)],
      enclosing⟩
  | ⟨_, []⟩, .closing => none
  | ⟨current, enclosing⟩, token => some ⟨current ++ [.token token], enclosing⟩

/-- The reader after tokens. -/
def run (assignment : List Token → Truth) (reader : Reader) : List Token → Option Reader
  | [] => some reader
  | token :: rest => (reader.step assignment token).bind fun next => next.run assignment rest

theorem run_append {assignment : List Token → Truth} {reader next : Reader} {first : List Token}
    (ran : reader.run assignment first = some next) (second : List Token) :
    reader.run assignment (first ++ second) = next.run assignment second := by
  induction first generalizing reader with
  | nil =>
    cases ran
    rfl
  | cons token rest inductionHypothesis =>
    rw [run, Option.bind_eq_some_iff] at ran
    obtain ⟨moved, stepped, ran⟩ := ran
    rw [List.cons_append, run, stepped, Option.bind_some, inductionHypothesis ran]

end Reader

/-- The parts of a text in which each parenthesis has its mate. -/
def Part.ofTokens? (assignment : List Token → Truth) (tokens : List Token) :
    Option (List Part) := do
  let reader ← Reader.run assignment {} tokens
  if reader.enclosing.isEmpty then some reader.current else none

/-- What written pieces say as a condition, where `assignment` gives the values of the
predicates. -/
def Piece.reading (assignment : List Token → Truth) (pieces : List Piece) : Option Truth := do
  let tokens ← tokens? (pieces.flatMap glyphs)
  let parts ← Part.ofTokens? assignment tokens
  some (Part.disjunction assignment parts)

/-! ### Parts that stand by themselves -/

/-- Parts that are read the same wherever their tokens stand. -/
def Phrase (assignment : List Token → Truth) (parts : List Part) : Prop :=
  ∀ before enclosing,
    Reader.run assignment ⟨before, enclosing⟩ (Part.written parts) =
      some ⟨before ++ parts, enclosing⟩

namespace Phrase

variable {assignment : List Token → Truth}

theorem nil : Phrase assignment [] := by
  intro before enclosing
  rw [List.append_nil]
  rfl

theorem append {first second : List Part} (one : Phrase assignment first)
    (two : Phrase assignment second) : Phrase assignment (first ++ second) := by
  intro before enclosing
  rw [Part.written_append, Reader.run_append (one before enclosing), two, List.append_assoc]

theorem token {token : Token} (plain : token ≠ .opening ∧ token ≠ .closing) :
    Phrase assignment [.token token] := by
  intro before enclosing
  cases token with
  | opening => exact absurd rfl plain.1
  | closing => exact absurd rfl plain.2
  | _ => cases enclosing <;> rfl

/-- Parts in parentheses are one part, which has their value. -/
theorem group {parts : List Part} (inner : Phrase assignment parts) :
    Phrase assignment [.group (Part.written parts) (Part.disjunction assignment parts)] := by
  intro before enclosing
  rw [Part.written_group, Reader.run, Reader.step, Option.bind_some,
    Reader.run_append (inner [] (before :: enclosing))]
  rfl

end Phrase

/-! ### Balanced tokens -/

/-- How many parentheses are open after tokens, if none is closed that was not open. -/
def Token.depth? : (depth : Nat) → List Token → Option Nat
  | depth, [] => some depth
  | depth, .opening :: rest => depth? (depth + 1) rest
  | 0, .closing :: _ => none
  | depth + 1, .closing :: rest => depth? depth rest
  | depth, _ :: rest => depth? depth rest

theorem Token.depth?_plain {token : Token} (plain : token ≠ .opening ∧ token ≠ .closing)
    (depth : Nat) (rest : List Token) : depth? depth (token :: rest) = depth? depth rest := by
  cases token with
  | opening => exact absurd rfl plain.1
  | closing => exact absurd rfl plain.2
  | _ => cases depth <;> rfl

/-- Tokens that close some open parentheses start with a phrase, up to the first of these that is
closed. -/
theorem Phrase.exists_start (assignment : List Token → Truth) (tokens : List Token) (depth : Nat)
    (closed : Token.depth? depth tokens = some 0) :
    ∃ parts rest, Phrase assignment parts ∧ tokens = Part.written parts ++ rest ∧
      (depth = 0 ∧ rest = [] ∨
        ∃ outer further, depth = outer + 1 ∧ rest = .closing :: further ∧
          Token.depth? outer further = some 0) := by
  match tokens with
  | [] =>
    rw [Token.depth?, Option.some.injEq] at closed
    exact ⟨[], [], nil, rfl, Or.inl ⟨closed, rfl⟩⟩
  | token :: rest =>
    by_cases opens : token = .opening
    · subst opens
      rw [Token.depth?] at closed
      -- First the tokens up to the mate of this parenthesis, and then those after it.
      obtain ⟨inner, _, phrase, rfl, ⟨impossible, _⟩ | ⟨_, further, same, rfl, closed⟩⟩ :=
        exists_start assignment rest (depth + 1) closed
      · cases impossible
      · cases same
        obtain ⟨parts, last, others, rfl, ends⟩ := exists_start assignment further depth closed
        refine ⟨_, last, phrase.group.append others, ?_, ends⟩
        rw [Part.written_append, Part.written_group]
        simp only [List.cons_append, List.append_assoc, List.nil_append]
    by_cases closes : token = .closing
    · subst closes
      cases depth with
      | zero => cases closed
      | succ outer => exact ⟨[], _, nil, rfl, Or.inr ⟨outer, rest, rfl, rfl, closed⟩⟩
    rw [Token.depth?_plain ⟨opens, closes⟩] at closed
    obtain ⟨parts, last, phrase, rfl, ends⟩ := exists_start assignment rest depth closed
    exact ⟨_, last, (Phrase.token ⟨opens, closes⟩).append phrase, rfl, ends⟩
  termination_by tokens.length
  decreasing_by
    · simp only [List.length_cons, Nat.lt_add_one]
    · subst_vars
      simp only [List.length_cons, List.length_append]
      omega
    · simp only [List.length_cons, Nat.lt_add_one]

/-- Tokens whose parentheses are balanced are a phrase. -/
theorem Phrase.exists_of_balanced (assignment : List Token → Truth) {tokens : List Token}
    (balanced : Token.depth? 0 tokens = some 0) :
    ∃ parts, Phrase assignment parts ∧ tokens = Part.written parts := by
  obtain ⟨parts, rest, phrase, same, ⟨_, rfl⟩ | ⟨_, _, impossible, _⟩⟩ :=
    exists_start assignment tokens 0 balanced
  · exact ⟨parts, phrase, by rw [same, List.append_nil]⟩
  · cases impossible

/-- A phrase is read as the condition that its parts make. -/
theorem Phrase.ofTokens? {assignment : List Token → Truth} {parts : List Part}
    (phrase : Phrase assignment parts) :
    Part.ofTokens? assignment (Part.written parts) = some parts := by
  rw [Part.ofTokens?, phrase [] []]
  rfl

end OracleSql
