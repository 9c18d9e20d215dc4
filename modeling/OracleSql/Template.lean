/-
This file turns templates into statements. A template holds `?` markers, which take the positional
values in order, and `@name` markers, which take the last value that was given for the name; names
are compared without regard to the case of ASCII letters. Every positional value must be used.

A template with native markers is a statement already and takes values of one sort only. A fragment
is a template inside a longer statement; native markers would get in the way of the numbering there
and are refused.
-/

import OracleSql.Piece

namespace OracleSql

/-! ### Values of a template -/

/-- The values of a template. -/
structure Args where
  positional : List Value := []
  named : List (String × Value) := []
  deriving DecidableEq

namespace Args

/-- The values with one more for the `?` markers. -/
def bind {α : Type} [ToValue α] (args : Args) (value : α) : Args :=
  { args with positional := args.positional ++ [toValue value] }

/-- The values with one more for a name. -/
def bindNamed {α : Type} [ToValue α] (args : Args) (name : String) (value : α) : Args :=
  { args with named := args.named ++ [(name, toValue value)] }

/-- The values of a collection in which each name stands once, in the order of the names. -/
def ofMembers (members : List (String × Value)) : Args :=
  { named := orderedMembers members }

/-- Whether there are no values. -/
def isEmpty (args : Args) : Bool :=
  args.positional.isEmpty && args.named.isEmpty

/-- The last value that was given for a name. -/
def lookup? (args : Args) (name : String) : Option Value :=
  (args.named.reverse.find? fun pair => Text.sameFolded pair.1 name).map Prod.snd

end Args

/-! ### Names of markers -/

/-- Whether a text is the given start with digits after it. -/
def isNumberedName (start : String) (name : String) : Bool :=
  let digits := name.toList.drop start.length
  start.toList.isPrefixOf name.toList && !digits.isEmpty && digits.all Char.isDigit

/-- Whether a name is one of those that are made for values and returned columns. -/
def isGeneratedName (name : String) : Bool :=
  let folded := Text.foldLower name
  isNumberedName "p" folded || isNumberedName "ret" folded

/-! ### Filling in -/

/-- The piece of a marker with a name. Where names are kept, those that are made are refused. -/
def Dialect.namedPiece (dialect : Dialect) (args : Args) (name : String) : Except Error Piece :=
  match args.lookup? name with
  | none => .error (.statement (.unboundName name) {})
  | some value =>
    if dialect.markerStyle = .named ∧ isGeneratedName name then
      .error (.statement (.generatedName name) {})
    else .ok (.named name (dialect.lower value))

/-- The pieces of lexemes, where `unused` are the positional values that are left. -/
def Dialect.fill (dialect : Dialect) (args : Args) :
    (unused : List Value) → List Marker.Lexeme → Draft
  | unused, [] =>
    if unused.isEmpty then .ok []
    else
      let given := args.positional.length
      .error (.statement (.manyValues given (given - unused.length)) {})
  | unused, .text written :: rest =>
    (dialect.fill args unused rest).map (.text (String.ofList written) :: ·)
  | unused, .native name :: rest =>
    (dialect.fill args unused rest).map (.text (String.ofList (':' :: name)) :: ·)
  | unused, .positional :: rest =>
    match unused with
    | [] => .error (.statement (.fewValues args.positional.length) {})
    | value :: others =>
      (dialect.fill args others rest).map (.value (dialect.lower value) :: ·)
  | unused, .named name :: rest => do
    let piece ← dialect.namedPiece args (String.ofList name)
    (dialect.fill args unused rest).map (piece :: ·)

/-- Without names no marker with a name has a value. -/
theorem Dialect.namedPiece_of_unnamed (dialect : Dialect) {args : Args} (unnamed : args.named = [])
    (name : String) :
    dialect.namedPiece args name = .error (.statement (.unboundName name) {}) := by
  rw [namedPiece, Args.lookup?, unnamed]
  rfl

/-- Lexemes are filled in alike where their named markers get the same pieces. -/
theorem Dialect.fill_congr (dialect other : Dialect) (args others : Args)
    {lexemes : List Marker.Lexeme} (lowered : dialect.lower = other.lower)
    (given : args.positional.length = others.positional.length)
    (named : ∀ name, .named name ∈ lexemes →
      dialect.namedPiece args (String.ofList name) = other.namedPiece others (String.ofList name))
    (unused : List Value) :
    dialect.fill args unused lexemes = other.fill others unused lexemes := by
  induction lexemes generalizing unused with
  | nil => rw [fill, fill, given]
  | cons lexeme rest inductionHypothesis =>
    have tail (unused : List Value) := inductionHypothesis
      (fun name member => named name (List.mem_cons_of_mem _ member)) unused
    cases lexeme with
    | text written => rw [fill, fill, tail]
    | native name => rw [fill, fill, tail]
    | positional =>
      cases unused with
      | nil => rw [fill, fill, given]
      | cons value further => rw [fill, fill, tail, lowered]
    | named name => rw [fill, fill, tail, named name List.mem_cons_self]

/-- Whether one of the lexemes is a native marker. -/
def hasNative (lexemes : List Marker.Lexeme) : Bool :=
  lexemes.any fun lexeme => lexeme.nativeName?.isSome

/-- The pieces of a fragment. -/
def Dialect.fragment (dialect : Dialect) (sql : String) (args : Args) : Draft := do
  let lexemes ← Error.ofLexemes (Marker.lexemes sql)
  if hasNative lexemes then .error (.statement .nativeInFragment {})
  else dialect.fill args args.positional lexemes

/-- The binds of a statement that has native markers already. -/
def Dialect.nativeBinds (dialect : Dialect) (args : Args) : Except Error Binds :=
  if args.named.isEmpty then .ok (.positional (args.positional.map dialect.lower))
  else if args.positional.isEmpty then
    .ok (.named (args.named.map fun (name, value) => (name, dialect.lower value)))
  else .error (.statement .mixedValues {})

/-- The statement of a template with its values. -/
def Dialect.translate (dialect : Dialect) (template : String) (args : Args) :
    Except Error Statement := do
  let lexemes ← Error.ofLexemes (Marker.lexemes template)
  if hasNative lexemes then
    if lexemes.any Marker.Lexeme.isPortable then .error (.statement .mixedMarkers {})
    else
      let binds ← dialect.nativeBinds args
      .ok { sql := template, binds, shape := .rows }
  else
    let pieces ← dialect.fill args args.positional lexemes
    .ok (dialect.assemble pieces .rows)

end OracleSql
