/-
This file says what named values are for, and compares native markers with portable ones. A value
that no marker asks for should change nothing; of several values for one name the last one should be
bound, and it alone. Both hold of portable markers. A template with native markers hands on all
named values as they come, so that a value without a marker makes the check refuse the statement,
and a name that is given twice is bound twice.
-/

import OracleSql.Proofs.Markers.Accepted
import OracleSql.Proofs.Template.ReadBack

namespace OracleSql

/-! ### What named values are for -/

/-- The values that are bound under a name in whatever case. -/
def Binds.under (binds : Binds) (name : String) : List Value :=
  match binds with
  | .named pairs => (pairs.filter (Text.sameFolded ·.1 name)).map Prod.snd
  | _ => []

/-- The other values are the same with one more, for a name that no marker has. -/
inductive Args.AddsUnused (markers : List String) (args : Args) : Args → Prop
  | insert (front back : List (String × Value)) {name : String} (value : Value)
      (split : args.named = front ++ back) (unused : Text.memFolded name markers = false) :
      AddsUnused markers args { args with named := front ++ (name, value) :: back }

theorem Args.AddsUnused.positional_eq {markers : List String} {args others : Args}
    (adds : args.AddsUnused markers others) : others.positional = args.positional := by
  cases adds
  rfl

namespace Dialect

/-- The template has a statement with the values, and the check accepts it. -/
def Serves (dialect : Dialect) (template : String) (args : Args) : Prop :=
  ∃ statement, dialect.translate template args = .ok statement ∧ statement.check = .ok ()

/-- A named value that no marker asks for changes nothing: not whether the statement is made and
accepted, and not what is bound under the markers. -/
structure IgnoresUnused (dialect : Dialect) (template : String) (args : Args)
    (markers : List String) : Prop where
  serves : ∀ others, args.AddsUnused markers others →
    (dialect.Serves template others ↔ dialect.Serves template args)
  under : ∀ others, args.AddsUnused markers others → ∀ statement further,
    dialect.translate template args = .ok statement →
      dialect.translate template others = .ok further →
        ∀ marker ∈ markers, further.binds.under marker = statement.binds.under marker

/-- Under each marker one value is bound, the last one that was given for its name. -/
def TakesLast (dialect : Dialect) (template : String) (args : Args) (markers : List String) :
    Prop :=
  ∀ statement, dialect.translate template args = .ok statement →
    ∀ marker ∈ markers, ∀ value, args.lookup? marker = some value →
      statement.binds.under marker = [dialect.lower value]

end Dialect

/-! ### Portable markers -/

namespace Marker

/-- The template is read as these lexemes, with native markers among them and no portable ones. -/
structure ReadsNative (template : String) (lexemes : List Lexeme) : Prop where
  read : Marker.lexemes template = .ok lexemes
  native : hasNative lexemes = true
  plain : lexemes.any Lexeme.isPortable = false

/-- A native marker as a portable one. -/
def Lexeme.toPortable : Lexeme → Lexeme
  | native name => named name
  | lexeme => lexeme

variable {lexemes : List Lexeme}

theorem hasNative_toPortable (lexemes : List Lexeme) :
    hasNative (lexemes.map Lexeme.toPortable) = false := by
  rw [hasNative, List.any_map, List.any_eq_false]
  intro lexeme _
  cases lexeme <;> exact Bool.false_ne_true

/-- Without portable markers before, those that have a name now were native ones. -/
theorem named_mem_toPortable_iff (plain : lexemes.any Lexeme.isPortable = false)
    {name : List Char} : .named name ∈ lexemes.map Lexeme.toPortable ↔ .native name ∈ lexemes := by
  rw [List.mem_map]
  constructor
  · rintro ⟨lexeme, member, same⟩
    cases lexeme with
    | native letters =>
      cases same
      exact member
    | named letters => exact absurd rfl (List.any_eq_false.mp plain _ member)
    | _ => cases same
  · exact fun member => ⟨_, member, rfl⟩

theorem mem_nativeNames_iff {name : String} :
    name ∈ lexemes.filterMap Lexeme.nativeName? ↔
      ∃ letters, .native letters ∈ lexemes ∧ String.ofList letters = name := by
  rw [List.mem_filterMap]
  constructor
  · rintro ⟨lexeme, member, known⟩
    cases lexeme with
    | native letters => exact ⟨letters, member, Option.some.inj known⟩
    | _ => cases known
  · rintro ⟨letters, member, rfl⟩
    exact ⟨_, member, rfl⟩

/-- The markers of a template have names that are not empty. -/
theorem sameFolded_empty_eq_false {template : String} (read : Marker.lexemes template = .ok lexemes)
    {name : String} (member : name ∈ lexemes.filterMap Lexeme.nativeName?) :
    Text.sameFolded "" name = false := by
  obtain ⟨letters, inside, rfl⟩ := mem_nativeNames_iff.mp member
  obtain ⟨constructs, _, reads, rfl⟩ := exists_reads_of_ok read
  obtain ⟨construct, among, same⟩ := List.mem_map.mp inside
  obtain ⟨preceding, following, fits⟩ := reads.exists_fits among
  cases eq_native_of_lexeme same
  rw [Bool.eq_false_iff]
  intro equal
  have folded := congrArg String.toList (Text.sameFolded_iff.mp equal)
  simp only [Text.foldUpper, String.toList_ofList] at folded
  exact fits.1 (List.map_eq_nil_iff.mp folded.symm)

end Marker

/-- Among names that are all different, one is found with its value and no other. -/
theorem filter_of_distinct {bindings : List (String × Value)} {spelling name : String}
    {value : Value} (distinct : bindings.Pairwise fun binding other =>
      Text.sameFolded binding.1 other.1 = false) (member : (spelling, value) ∈ bindings)
    (same : Text.sameFolded spelling name = true) :
    bindings.filter (Text.sameFolded ·.1 name) = [(spelling, value)] := by
  obtain ⟨front, back, rfl⟩ := List.append_of_mem member
  obtain ⟨_, behind, before⟩ := List.pairwise_append.mp distinct
  have others (pair : String × Value) (differs : Text.sameFolded pair.1 spelling = false) :
      ¬ Text.sameFolded pair.1 name = true := by
    intro found
    rw [Text.sameFolded_congr same, found] at differs
    cases differs
  rw [List.filter_append, List.filter_cons_of_pos (a := (spelling, value)) same,
    List.filter_eq_nil_iff.mpr, List.filter_eq_nil_iff.mpr, List.nil_append]
  · intro pair inside
    refine others pair ?_
    rw [Text.sameFolded_comm]
    exact (List.pairwise_cons.mp behind).1 pair inside
  · intro pair inside
    have differs := before pair inside (spelling, value) List.mem_cons_self
    exact others pair differs

namespace Dialect

variable {dialect : Dialect} {template : String} {args : Args} {lexemes : List Marker.Lexeme}

/-- A marker with a name is filled in with the last value for it. -/
theorem Fills.exists_piece {unused : List Value} {pieces : List Piece}
    (fills : dialect.Fills args unused lexemes pieces) {letters : List Char}
    (member : .named letters ∈ lexemes) : ∃ value,
      args.lookup? (String.ofList letters) = some value ∧
        .named (String.ofList letters) (dialect.lower value) ∈ pieces := by
  induction fills with
  | done => cases member
  | text _ _ inductionHypothesis | native _ _ inductionHypothesis
  | positional _ _ inductionHypothesis =>
    obtain ⟨value, given, inside⟩ := inductionHypothesis (by simpa using member)
    exact ⟨value, given, List.mem_cons_of_mem _ inside⟩
  | @named name value _ _ _ given _ inductionHypothesis =>
    rcases List.mem_cons.mp member with same | later
    · cases same
      exact ⟨value, given, List.mem_cons_self⟩
    · obtain ⟨other, found, inside⟩ := inductionHypothesis later
      exact ⟨other, found, List.mem_cons_of_mem _ inside⟩

/-- One value is bound under each portable marker with a name, the last one that was given. -/
theorem takesLast_portable (kept : dialect.markerStyle = .named)
    (read : Marker.lexemes template = .ok lexemes) (portable : hasNative lexemes = false)
    {markers : List String}
    (named : ∀ marker ∈ markers, ∃ letters, .named letters ∈ lexemes ∧
      String.ofList letters = marker) : dialect.TakesLast template args markers := by
  intro statement translated marker member value given
  have plain : ∀ others, Marker.lexemes template = .ok others → hasNative others = false := by
    intro others also
    cases read.symm.trans also
    exact portable
  obtain ⟨_, pieces, again, filled, rfl⟩ := (translate_eq_ok_iff plain).mp translated
  cases read.symm.trans again
  obtain ⟨fills, free⟩ := fill_eq_ok_iff.mp filled
  have keeps := keeps_assembled (fills.isNamed (free kept))
  obtain ⟨letters, inside, rfl⟩ := named marker member
  obtain ⟨other, found, among⟩ := fills.exists_piece inside
  cases found.symm.trans given
  have marked := List.mem_filter.mpr ⟨among, (rfl : Piece.isMarker (.named _ _) = true)⟩
  obtain ⟨index, placed⟩ := List.mem_iff_getElem?.mp marked
  have length := Assembly.length_names .named {} pieces
  obtain ⟨spelling, spelled⟩ : ∃ spelling, (({} : Assembly).names .named pieces)[index]? =
    some spelling := ⟨_, List.getElem?_eq_getElem (length ▸ (List.getElem?_eq_some_iff.mp placed).1)⟩
  have pair : (Piece.named (String.ofList letters) (dialect.lower value), spelling) ∈
      (pieces.filter Piece.isMarker).zip (({} : Assembly).names .named pieces) :=
    List.mem_of_getElem? (List.getElem?_zip_eq_some.mpr ⟨placed, spelled⟩)
  have bound := filter_of_distinct keeps.distinct (keeps.bound _ _ _ pair rfl)
    (keeps.spelled _ _ _ pair)
  unfold assemble
  rw [kept]
  show ((pieces.foldl (Assembly.add .named) {}).named.reverse.filter _).map Prod.snd = _
  rw [List.filter_reverse, bound]
  rfl

/-- A value that no portable marker asks for changes nothing. -/
theorem ignoresUnused_portable (read : Marker.lexemes template = .ok lexemes)
    (portable : hasNative lexemes = false) {markers : List String}
    (named : ∀ letters, .named letters ∈ lexemes → String.ofList letters ∈ markers) :
    dialect.IgnoresUnused template args markers := by
  have same (others : Args) (adds : args.AddsUnused markers others) :
      dialect.translate template others = dialect.translate template args := by
    cases adds with
    | @insert front back name value split unused =>
      refine translate_congr read portable ?_
      have notUsed : ¬ Args.isUsed lexemes name = true := fun used => by
        obtain ⟨lexeme, member, asks⟩ := List.any_eq_true.mp used
        cases lexeme with
        | named letters =>
          have found := Text.memFolded_iff.mpr ⟨_, named letters member, asks⟩
          rw [unused] at found
          cases found
        | _ => cases asks
      rw [split, List.filter_append, List.filter_append,
        List.filter_cons_of_neg (a := (name, value)) notUsed]
  refine ⟨fun others adds => ?_, fun others adds statement further first second marker _ => ?_⟩
  · rw [Serves, Serves, same others adds]
  · rw [same others adds, first, Except.ok.injEq] at second
    rw [second]

/-! ### Native markers -/

section Native

variable (dialect : Dialect) (args : Args) (reads : Marker.ReadsNative template lexemes)
  (named : args.positional = [])
include reads named

/-- All named values are handed on to native markers. -/
theorem exists_translate_native :
    ∃ binds, dialect.translate template args = .ok { sql := template, binds, shape := .rows } ∧
      (binds = .positional [] ∧ args.named = [] ∨
        binds = .named (args.named.map fun (name, value) => (name, dialect.lower value))) := by
  have handed : ∃ binds, dialect.nativeBinds args = .ok binds ∧
      (binds = .positional [] ∧ args.named = [] ∨
        binds = .named (args.named.map fun (name, value) => (name, dialect.lower value))) := by
    unfold nativeBinds
    rw [named]
    cases args.named with
    | nil => exact ⟨_, rfl, Or.inl ⟨rfl, rfl⟩⟩
    | cons pair rest => exact ⟨_, rfl, Or.inr rfl⟩
  obtain ⟨binds, given, which⟩ := handed
  refine ⟨binds, ?_, which⟩
  unfold translate
  rw [reads.read]
  simp only [Error.ofLexemes, Except.mapError, bind, Except.bind, reads.native, reads.plain, given,
    Bool.false_eq_true, if_true, if_false]

/-- Under a native marker all values are bound that were given for its name. -/
theorem under_native {statement : Statement}
    (translated : dialect.translate template args = .ok statement) (name : String) :
    statement.binds.under name =
      (args.named.filter (Text.sameFolded ·.1 name)).map fun pair => dialect.lower pair.2 := by
  obtain ⟨binds, same, which⟩ := exists_translate_native dialect args reads named
  cases same.symm.trans translated
  rcases which with ⟨rfl, none⟩ | rfl
  · rw [none]
    rfl
  · show List.map Prod.snd (List.filter _ _) = _
    rw [List.filter_map, List.map_map]
    rfl

/-- The statement of a template with native markers is accepted if each marker has a value and each
value a marker. -/
theorem serves_native_iff :
    dialect.Serves template args ↔
      (∀ marker ∈ lexemes.filterMap Marker.Lexeme.nativeName?,
        ∃ pair ∈ args.named, Text.sameFolded pair.1 marker = true) ∧
      ∀ pair ∈ args.named,
        Text.memFolded pair.1 (lexemes.filterMap Marker.Lexeme.nativeName?) = true := by
  obtain ⟨binds, translated, which⟩ := exists_translate_native dialect args reads named
  have markers : Marker.nativeNames template =
      .ok (lexemes.filterMap Marker.Lexeme.nativeName?) := by
    rw [Marker.nativeNames, reads.read]
    rfl
  have accepted : dialect.Serves template args ↔
      Statement.AcceptsValues { sql := template, binds, shape := .rows }
        (lexemes.filterMap Marker.Lexeme.nativeName?) := by
    have looked : ({ sql := template, binds, shape := .rows } : Statement).operation ≠
        Statement.definitionOperation := show "raw" ≠ "ddl" by decide
    have checked := Statement.check_eq_ok_iff looked
    simp only [markers, Except.ok.injEq, exists_eq_left'] at checked
    unfold Serves
    simp only [translated, Except.ok.injEq, exists_eq_left', checked]
    exact and_iff_left fun out member => absurd member List.not_mem_nil
  rw [accepted]
  rcases which with ⟨rfl, none⟩ | rfl
  · -- without a value there must be no marker
    rw [none]
    simp [Statement.AcceptsValues, Statement.outs, List.eq_nil_iff_forall_not_mem]
  · refine and_congr (forall₂_congr fun marker _ => ?_) List.forall_mem_map
    refine (or_iff_right Bool.false_ne_true).trans ?_
    simp only [List.mem_map, exists_exists_and_eq_and]

/-- A value that no native marker asks for is harmless just where the statement is refused
anyway. -/
theorem ignoresUnused_native_iff :
    dialect.IgnoresUnused template args (lexemes.filterMap Marker.Lexeme.nativeName?) ↔
      ¬ dialect.Serves template args := by
  have refused (others : Args)
      (adds : args.AddsUnused (lexemes.filterMap Marker.Lexeme.nativeName?) others) :
      ¬ dialect.Serves template others := by
    rw [serves_native_iff dialect others reads (adds.positional_eq.trans named)]
    obtain ⟨front, back, value, split, unused⟩ := adds
    rintro ⟨_, used⟩
    have asked := used _ (List.mem_append_right front List.mem_cons_self)
    rw [unused] at asked
    cases asked
  constructor
  · intro ignores serves
    -- no marker has the empty name
    have unused : Text.memFolded "" (lexemes.filterMap Marker.Lexeme.nativeName?) = false :=
      List.any_eq_false.mpr fun marker member => by
        rw [Marker.sameFolded_empty_eq_false reads.read member]
        exact Bool.false_ne_true
    have adds := Args.AddsUnused.insert [] args.named .null (List.nil_append _).symm unused
    exact refused _ adds ((ignores.serves _ adds).mpr serves)
  · intro fails
    refine ⟨fun others adds => iff_of_false (refused others adds) fails, ?_⟩
    intro others adds statement further first second marker member
    rw [under_native dialect args reads named first,
      under_native dialect others reads (adds.positional_eq.trans named) second]
    obtain ⟨front, back, value, split, unused⟩ := adds
    have differs : ¬ Text.sameFolded _ marker = true := fun same => by
      have found := Text.memFolded_iff.mpr ⟨marker, member, same⟩
      rw [unused] at found
      cases found
    rw [split, List.filter_append, List.filter_append,
      List.filter_cons_of_neg (a := (_, value)) differs]

/-- The last value is the one that is bound just where it is the only one. -/
theorem takesLast_native_iff (markers : List String) :
    dialect.TakesLast template args markers ↔
      ∀ marker ∈ markers, args.named.countP (Text.sameFolded ·.1 marker) ≤ 1 := by
  have last (marker : String) : args.lookup? marker =
      ((args.named.filter (Text.sameFolded ·.1 marker)).getLast?).map Prod.snd := by
    rw [Args.lookup?, ← List.head?_filter, List.filter_reverse, List.head?_reverse]
  obtain ⟨binds, translated, _⟩ := exists_translate_native dialect args reads named
  constructor
  · intro takes marker member
    rw [List.countP_eq_length_filter]
    cases found : args.lookup? marker with
    | none =>
      rw [last, Option.map_eq_none_iff, List.getLast?_eq_none_iff] at found
      rw [found]
      exact Nat.zero_le 1
    | some value =>
      have bound := congrArg List.length (takes _ translated marker member value found)
      rw [under_native dialect args reads named translated, List.length_map] at bound
      exact bound.le
  · intro counted statement given marker member value found
    have few := counted marker member
    rw [List.countP_eq_length_filter] at few
    rw [last, Option.map_eq_some_iff] at found
    obtain ⟨pair, final, rfl⟩ := found
    rw [under_native dialect args reads named given]
    obtain ⟨front, split⟩ := List.getLast?_eq_some_iff.mp final
    have alone : front = [] := by
      rw [split, List.length_append, List.length_singleton] at few
      exact List.eq_nil_of_length_eq_zero (by omega)
    rw [split, alone]
    rfl

end Native

/-- **Native markers ask more of named values than portable ones.** A template with native
markers only is served with named values if each marker has a value and each value a marker. So a
value that no marker asks for is harmless just where the statement is refused anyway, and the last
value for a name is what is bound just if no marker has its name given twice. The template in which
the markers are portable ones that keep their names has no such conditions. -/
theorem native_named_values (dialect : Dialect) (template : String) (lexemes : List Marker.Lexeme)
    (args : Args) (reads : Marker.ReadsNative template lexemes) (named : args.positional = []) :
    let markers := lexemes.filterMap Marker.Lexeme.nativeName?
    (dialect.Serves template args ↔
        (∀ marker ∈ markers, ∃ pair ∈ args.named, Text.sameFolded pair.1 marker = true) ∧
          ∀ pair ∈ args.named, Text.memFolded pair.1 markers = true) ∧
      (dialect.IgnoresUnused template args markers ↔ ¬ dialect.Serves template args) ∧
      (dialect.TakesLast template args markers ↔
        ∀ marker ∈ markers, args.named.countP (Text.sameFolded ·.1 marker) ≤ 1) ∧
      ∀ spelled, Marker.lexemes spelled = .ok (lexemes.map Marker.Lexeme.toPortable) →
        (dialect.styled .named).IgnoresUnused spelled args markers ∧
          (dialect.styled .named).TakesLast spelled args markers := by
  intro markers
  refine ⟨serves_native_iff dialect args reads named,
    ignoresUnused_native_iff dialect args reads named,
    takesLast_native_iff dialect args reads named markers, fun spelled read => ?_⟩
  have portable := Marker.hasNative_toPortable lexemes
  refine ⟨ignoresUnused_portable read portable fun letters member => ?_,
    takesLast_portable rfl read portable fun marker member => ?_⟩
  · exact Marker.mem_nativeNames_iff.mpr
      ⟨letters, (Marker.named_mem_toPortable_iff reads.plain).mp member, rfl⟩
  · obtain ⟨letters, inside, same⟩ := Marker.mem_nativeNames_iff.mp member
    exact ⟨letters, (Marker.named_mem_toPortable_iff reads.plain).mpr inside, same⟩

/-- Two names in other spellings than those of the markers, and a marker in a comment. -/
theorem native_named_values_two_names :
    let template := "SELECT :a, :B FROM t -- :c"
    let args : Args := { named := [("A", .int 1), ("b", .text "x")] }
    ({} : Dialect).Serves template args ∧
      ¬ ({} : Dialect).IgnoresUnused template args ["a", "B"] ∧
      ({} : Dialect).TakesLast template args ["a", "B"] ∧
      (({} : Dialect).styled .named).IgnoresUnused "SELECT @a, @B FROM t -- :c" args ["a", "B"] ∧
      (({} : Dialect).styled .named).TakesLast "SELECT @a, @B FROM t -- :c" args ["a", "B"] := by
  intro template args
  have known : (Marker.lexemes template).map (fun lexemes =>
      (lexemes.map Marker.Lexeme.toPortable, hasNative lexemes,
        lexemes.any Marker.Lexeme.isPortable, lexemes.filterMap Marker.Lexeme.nativeName?)) =
      (Marker.lexemes "SELECT @a, @B FROM t -- :c").map (·, true, false, ["a", "B"]) := by
    decide +kernel
  obtain ⟨portable, spelled⟩ : ∃ portable,
      Marker.lexemes "SELECT @a, @B FROM t -- :c" = .ok portable := by
    cases found : Marker.lexemes "SELECT @a, @B FROM t -- :c" with
    | ok portable => exact ⟨portable, rfl⟩
    | error opened =>
      have fails : (Marker.lexemes "SELECT @a, @B FROM t -- :c").isOk = true := by decide +kernel
      rw [found] at fails
      cases fails
  rw [spelled] at known
  obtain ⟨lexemes, read, parts⟩ := map_eq_ok.mp known
  simp only [Prod.mk.injEq] at parts
  obtain ⟨rfl, native, plain, markers⟩ := parts
  obtain ⟨serves, unused, last, others⟩ :=
    native_named_values {} template lexemes args ⟨read, native, plain⟩ rfl
  rw [markers] at serves unused last others
  have served := serves.mpr (by decide +kernel)
  exact ⟨served, fun ignores => unused.mp ignores served, last.mpr (by decide +kernel),
    others _ spelled⟩

/-- A value that no native marker asks for makes the check refuse the statement, and a name that is
given twice is bound twice. -/
theorem native_named_values_not_ignored :
    let given : Args := { named := [("x", .int 1)] }
    let unused : Args := { named := [("x", .int 1), ("y", .int 2)] }
    let twice : Args := { named := [("x", .int 1), ("x", .int 2)] }
    let dialect : Dialect := {}
    (dialect.Serves "SELECT :x FROM DUAL" given ∧ ¬ dialect.Serves "SELECT :x FROM DUAL" unused) ∧
      twice.lookup? "x" = some (.int 2) ∧
      (dialect.translate "SELECT :x FROM DUAL" twice).map (·.binds.under "x") =
        .ok [.int 1, .int 2] := by
  intro given unused twice dialect
  refine ⟨⟨⟨{ sql := "SELECT :x FROM DUAL", binds := .named [("x", .int 1)], shape := .rows },
    by decide +kernel, by decide +kernel⟩, ?_⟩, by decide +kernel, by decide +kernel⟩
  rintro ⟨statement, translated, accepted⟩
  have same : dialect.translate "SELECT :x FROM DUAL" unused =
      .ok { sql := "SELECT :x FROM DUAL", binds := .named [("x", .int 1), ("y", .int 2)],
            shape := .rows } := by decide +kernel
  cases same.symm.trans translated
  exact absurd accepted (by decide +kernel)

end Dialect

end OracleSql
