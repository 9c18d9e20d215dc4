/-
This file follows the assembling of pieces with named markers. `Assembly.Keeps` is what each piece
keeps, and so the whole row of them: every value is bound under the name of its marker, no two bound
names are the same in any case, none of them is the marker of a returned column, and a name of the
caller is bound under its first spelling.

The pieces must not hold two values for one name, nor names that are reserved; a template that is
filled in has neither, and what a builder writes has no names at all.
-/

import OracleSql.Proofs.Styles.Meaning

namespace OracleSql

namespace Piece

/-- The name that the caller gave to the marker of a piece. -/
def name? : Piece → Option String
  | named name _ => some name
  | _ => none

/-- No name of the pieces is reserved, and one name has one value in whatever case it is written. -/
structure Named (pieces : List Piece) : Prop where
  free : ∀ name value, named name value ∈ pieces → isGeneratedName name = false
  agree : ∀ first one second other, named first one ∈ pieces → named second other ∈ pieces →
    Text.sameFolded first second = true → one = other

theorem Named.mono {pieces others : List Piece} (named : Named pieces) (fewer : others ⊆ pieces) :
    Named others :=
  ⟨fun name value member => named.free name value (fewer member),
    fun first one second other member also =>
      named.agree first one second other (fewer member) (fewer also)⟩

theorem Named.of_isPlain {pieces : List Piece} (plain : pieces.all isPlain = true) :
    Named pieces := by
  have none (name : String) (value : Value) : named name value ∉ pieces := fun member =>
    absurd (List.all_eq_true.mp plain _ member) Bool.false_ne_true
  exact ⟨fun name value member => absurd member (none name value),
    fun name value _ _ member => absurd member (none name value)⟩

end Piece

/-- One more piece that is set apart from the others leaves all of them apart. -/
theorem SetApart.concat {pairs : List (Piece × String)} {last : Piece × String}
    (apart : SetApart pairs)
    (other : ∀ pair ∈ pairs, (pair.1.isOut = true ∨ last.1.isOut = true) →
      Text.sameFolded pair.2 last.2 = false) : SetApart (pairs ++ [last]) := by
  refine List.pairwise_append.mpr ⟨apart, List.pairwise_singleton _ _, fun pair member _ same => ?_⟩
  cases List.mem_singleton.mp same
  exact other pair member

/-! ### Named markers -/

namespace Assembly

/-- A bound name is that of a marker so far: a made one with a number so far, or one that the caller
gave to the value. -/
def Originates (markers : Nat) (pairs : List (Piece × String)) (name : String) (value : Value) :
    Prop :=
  name ∈ pairs.map Prod.snd ∧
    ((∃ number ≤ markers, name = "p" ++ toString number) ∨
      isGeneratedName name = false ∧ .named name value ∈ pairs.map Prod.fst)

theorem Originates.mono {markers later : Nat} {pairs : List (Piece × String)} {name : String}
    {value : Value} (originates : Originates markers pairs name value) (more : markers ≤ later)
    (last : Piece × String) : Originates later (pairs ++ [last]) name value := by
  rw [Originates, List.map_append, List.map_append]
  refine ⟨List.mem_append_left _ originates.1, originates.2.imp ?_ fun ⟨free, member⟩ => ⟨free, ?_⟩⟩
  · exact fun ⟨number, small, same⟩ => ⟨number, small.trans more, same⟩
  · exact List.mem_append_left _ member

/-- What assembling with named markers keeps: `pairs` are the pieces with markers so far, with the
names of these. -/
structure Keeps (assembly : Assembly) (pairs : List (Piece × String)) : Prop where
  bound : ∀ piece name value, (piece, name) ∈ pairs → piece.value? = some value →
    (name, value) ∈ assembly.named
  distinct : assembly.named.Pairwise fun binding other =>
    Text.sameFolded binding.1 other.1 = false
  spelled : ∀ name value spelling, (.named name value, spelling) ∈ pairs →
    Text.sameFolded spelling name = true
  origin : ∀ name value, (name, value) ∈ assembly.named →
    Originates assembly.markers pairs name value
  outs : ∀ piece name, (piece, name) ∈ pairs → piece.isOut = true →
    ∃ number ≤ assembly.outs.length, name = "ret" ++ toString number
  apart : SetApart pairs
  first : ∀ name, isGeneratedName name = false →
    (assembly.named.find? (Text.sameFolded ·.1 name)).map Prod.fst =
      (pairs.filterMap (·.1.name?)).find? (Text.sameFolded · name)

theorem Originates.apart_out {markers : Nat} {pairs : List (Piece × String)} {name : String}
    {value : Value} (originates : Originates markers pairs name value) (number : Nat) :
    Text.sameFolded name ("ret" ++ toString number) = false := by
  rcases originates.2 with ⟨other, _, rfl⟩ | ⟨free, _⟩
  · exact not_sameFolded_of_starts other number
  · exact not_sameFolded_of_isGeneratedName free (isGeneratedName_out number)

variable {assembly : Assembly} {pairs : List (Piece × String)}

theorem keeps_nil : ({} : Assembly).Keeps [] where
  bound := fun _ _ _ member => absurd member List.not_mem_nil
  distinct := .nil
  spelled := fun _ _ _ member => absurd member List.not_mem_nil
  origin := fun _ _ member => absurd member List.not_mem_nil
  outs := fun _ _ member => absurd member List.not_mem_nil
  apart := .nil
  first := fun _ _ => rfl

/-- The next made name is no bound one yet. -/
theorem Keeps.apart_next (keeps : assembly.Keeps pairs) {name : String} {value : Value}
    (member : (name, value) ∈ assembly.named) :
    Text.sameFolded ("p" ++ toString (assembly.markers + 1)) name = false := by
  rw [Text.sameFolded_comm]
  rcases (keeps.origin name value member).2 with ⟨number, small, rfl⟩ | ⟨free, _⟩
  · rw [Bool.eq_false_iff]
    intro same
    have equal := number_eq_of_sameFolded same
    omega
  · exact not_sameFolded_of_isGeneratedName free (isGeneratedName_value _)

/-- A marker for a value has a name that is bound. -/
theorem value?_of_not_isOut {piece : Piece} (marker : piece.isMarker = true)
    (other : piece.isOut = false) : ∃ value, piece.value? = some value := by
  cases piece with
  | text sql => cases marker
  | out column columnType rows => cases other
  | value value => exact ⟨value, rfl⟩
  | named name value => exact ⟨value, rfl⟩

theorem Keeps.text (keeps : assembly.Keeps pairs) (sql : String) :
    (assembly.add .named (.text sql)).Keeps pairs :=
  ⟨keeps.bound, keeps.distinct, keeps.spelled, keeps.origin, keeps.outs, keeps.apart, keeps.first⟩

/-- One more marker for a value keeps all if its name is bound to the value then, and what is bound
besides was so before. -/
theorem Keeps.concat (keeps : assembly.Keeps pairs) {later : Assembly} {piece : Piece}
    {name : String} {value : Value} (gives : piece.value? = some value)
    (kept : assembly.named ⊆ later.named) (inside : (name, value) ∈ later.named)
    (distinct : later.named.Pairwise fun binding other =>
      Text.sameFolded binding.1 other.1 = false)
    (spelled : ∀ other, piece.name? = some other → Text.sameFolded name other = true)
    (origin : ∀ other bound, (other, bound) ∈ later.named →
      Originates later.markers (pairs ++ [(piece, name)]) other bound)
    (outs : later.outs = assembly.outs)
    (first : ∀ other, isGeneratedName other = false →
      (later.named.find? (Text.sameFolded ·.1 other)).map Prod.fst =
        (pairs.filterMap (·.1.name?) ++ piece.name?.toList).find? (Text.sameFolded · other)) :
    later.Keeps (pairs ++ [(piece, name)]) where
  bound := fun other written bound member known => by
    rcases List.mem_append.mp member with earlier | last
    · exact kept (keeps.bound other written bound earlier known)
    · cases List.mem_singleton.mp last
      cases gives.symm.trans known
      exact inside
  distinct := distinct
  spelled := fun other bound written member => by
    rcases List.mem_append.mp member with earlier | last
    · exact keeps.spelled other bound written earlier
    · cases List.mem_singleton.mp last
      exact spelled other rfl
  origin := origin
  outs := fun other written member out => by
    rw [outs]
    rcases List.mem_append.mp member with earlier | last
    · exact keeps.outs other written earlier out
    · cases List.mem_singleton.mp last
      cases piece with
      | out column columnType rows => cases gives
      | _ => cases out
  apart := keeps.apart.concat fun pair member out => by
    have returned : pair.1.isOut = true := out.resolve_right fun isOut => by
      cases piece with
      | out column columnType rows => cases gives
      | _ => cases isOut
    obtain ⟨number, _, same⟩ := keeps.outs pair.1 pair.2 member returned
    rw [same, Text.sameFolded_comm]
    exact (origin name value inside).apart_out number
  first := fun other free => by
    rw [first other free, List.filterMap_append]
    cases piece <;> rfl

theorem Keeps.value (keeps : assembly.Keeps pairs) (value : Value) :
    (assembly.add .named (.value value)).Keeps
      (pairs ++ [(.value value, "p" ++ toString (assembly.markers + 1))]) := by
  refine keeps.concat rfl (List.subset_cons_self _ _) List.mem_cons_self
    (List.pairwise_cons.mpr ⟨fun binding member => keeps.apart_next member, keeps.distinct⟩)
    (fun _ none => by cases none) (fun name other member => ?_) rfl fun name free => ?_
  · rcases List.mem_cons.mp member with same | earlier
    · cases same
      exact ⟨by simp, Or.inl ⟨_, Nat.le_refl _, rfl⟩⟩
    · exact (keeps.origin name other earlier).mono (Nat.le_succ _) _
  · have made : Text.sameFolded ("p" ++ toString (assembly.markers + 1)) name = false := by
      rw [Text.sameFolded_comm]
      exact not_sameFolded_of_isGeneratedName free (isGeneratedName_value _)
    show ((("p" ++ toString (assembly.markers + 1), value) :: assembly.named).find?
      (Text.sameFolded ·.1 name)).map Prod.fst = _
    rw [List.find?_cons, made, keeps.first name free]
    exact congrArg _ (List.append_nil _).symm

theorem Keeps.out (keeps : assembly.Keeps pairs) (column : String)
    (columnType : Option ColumnType) (rows : Nat)
    (markers : ∀ pair ∈ pairs, pair.1.isMarker = true) :
    (assembly.add .named (.out column columnType rows)).Keeps
      (pairs ++ [(.out column columnType rows,
        "ret" ++ toString (assembly.outs.length + 1))]) where
  bound := fun piece name other member gives => by
    rcases List.mem_append.mp member with earlier | last
    · exact keeps.bound piece name other earlier gives
    · cases List.mem_singleton.mp last
      cases gives
  distinct := keeps.distinct
  spelled := fun name other spelling member => by
    rcases List.mem_append.mp member with earlier | last
    · exact keeps.spelled name other spelling earlier
    · cases List.mem_singleton.mp last
  origin := fun name other member => (keeps.origin name other member).mono (Nat.le_succ _) _
  outs := fun piece name member out => by
    have longer : (assembly.add .named (.out column columnType rows)).outs.length =
        assembly.outs.length + 1 := List.length_append
    rw [longer]
    rcases List.mem_append.mp member with earlier | last
    · obtain ⟨number, small, same⟩ := keeps.outs piece name earlier out
      exact ⟨number, Nat.le_succ_of_le small, same⟩
    · cases List.mem_singleton.mp last
      exact ⟨_, Nat.le_refl _, rfl⟩
  apart := keeps.apart.concat fun pair member _ => by
    cases kind : pair.1.isOut with
    | true =>
      obtain ⟨number, small, same⟩ := keeps.outs pair.1 pair.2 member kind
      rw [same, Bool.eq_false_iff]
      intro equal
      have numbers := number_eq_of_sameFolded equal
      omega
    | false =>
      obtain ⟨value, gives⟩ := value?_of_not_isOut (markers pair member) kind
      have bound := keeps.bound pair.1 pair.2 value member gives
      exact (keeps.origin pair.2 value bound).apart_out _
  first := fun name free => by
    rw [List.filterMap_append]
    exact (keeps.first name free).trans (congrArg _ (List.append_nil _)).symm

/-- Names that are the same without regard to case are found alike. -/
theorem find?_congr {name other : String} (same : Text.sameFolded name other = true)
    (bindings : List (String × Value)) :
    bindings.find? (Text.sameFolded ·.1 name) = bindings.find? (Text.sameFolded ·.1 other) := by
  simp only [Text.sameFolded_congr same]

/-- A further marker of a name that is bound already. -/
theorem Keeps.bound_named (keeps : assembly.Keeps pairs) {name spelling : String}
    {value known : Value} (free : isGeneratedName name = false)
    (agree : ∀ first one, .named first one ∈ pairs.map Prod.fst →
      Text.sameFolded first name = true → one = value)
    (found : assembly.named.find? (Text.sameFolded ·.1 name) = some (spelling, known)) :
    (assembly.marked spelling).Keeps (pairs ++ [(.named name value, spelling)]) := by
  have same : Text.sameFolded spelling name = true := by
    have holds := List.find?_some found
    exact holds
  have inside : (spelling, value) ∈ assembly.named := by
    have member := List.mem_of_find?_eq_some found
    rcases (keeps.origin spelling known member).2 with ⟨number, _, rfl⟩ | ⟨_, earlier⟩
    · rw [isGeneratedName_congr (Text.sameFolded_symm same), isGeneratedName_value] at free
      cases free
    · rwa [agree spelling known earlier same] at member
  refine keeps.concat rfl (List.Subset.refl _) inside keeps.distinct (fun other names => ?_)
    (fun other bound member => (keeps.origin other bound member).mono (Nat.le_refl _) _) rfl
    fun other unreserved => ?_
  · cases names
    exact same
  · rw [List.find?_append, ← keeps.first other unreserved]
    show (assembly.named.find? (Text.sameFolded ·.1 other)).map Prod.fst = _
    cases known : assembly.named.find? (Text.sameFolded ·.1 other) with
    | some binding => rfl
    | none =>
      -- the name is bound, so it is not the one that is not found
      have differs : Text.sameFolded name other = false := by
        rw [Bool.eq_false_iff]
        intro same
        rw [← find?_congr same, found] at known
        cases known
      show none = Option.or none (List.find? (Text.sameFolded · other) [name])
      rw [List.find?_singleton, differs]
      rfl

/-- The first marker of a name. -/
theorem Keeps.new_named (keeps : assembly.Keeps pairs) {name : String} {value : Value}
    (free : isGeneratedName name = false)
    (unbound : assembly.named.find? (Text.sameFolded ·.1 name) = none) :
    ({ assembly.marked name with named := (name, value) :: assembly.named } : Assembly).Keeps
      (pairs ++ [(.named name value, name)]) := by
  refine keeps.concat rfl (List.subset_cons_self _ _) List.mem_cons_self
    (List.pairwise_cons.mpr ⟨fun binding member => ?_, keeps.distinct⟩) (fun other names => ?_)
    (fun other bound member => ?_) rfl fun other unreserved => ?_
  · rw [Text.sameFolded_comm, Bool.eq_false_iff]
    exact List.find?_eq_none.mp unbound binding member
  · cases names
    exact Text.sameFolded_refl name
  · rcases List.mem_cons.mp member with same | earlier
    · cases same
      exact ⟨by simp, Or.inr ⟨free, by simp⟩⟩
    · exact (keeps.origin other bound earlier).mono (Nat.le_refl _) _
  · rw [List.find?_append, ← keeps.first other unreserved]
    show (((name, value) :: assembly.named).find? (Text.sameFolded ·.1 other)).map Prod.fst =
      Option.or _ (List.find? (Text.sameFolded · other) [name])
    rw [List.find?_cons, List.find?_singleton]
    cases same : Text.sameFolded name other with
    | true =>
      rw [← find?_congr same, unbound]
      rfl
    | false => cases assembly.named.find? (Text.sameFolded ·.1 other) <;> rfl

/-- What one more piece keeps. -/
theorem Keeps.add (keeps : assembly.Keeps pairs) {piece : Piece} (marker : piece.isMarker = true)
    (markers : ∀ pair ∈ pairs, pair.1.isMarker = true)
    (named : Piece.Named (pairs.map Prod.fst ++ [piece])) :
    (assembly.add .named piece).Keeps (pairs ++ [(piece, assembly.nextName .named piece)]) := by
  cases piece with
  | text sql => cases marker
  | value value => exact keeps.value value
  | out column columnType rows => exact keeps.out column columnType rows markers
  | named name value =>
    have last : Piece.named name value ∈ pairs.map Prod.fst ++ [.named name value] :=
      List.mem_append_right _ (List.mem_singleton_self _)
    have free := named.free name value last
    have agree : ∀ first one, Piece.named first one ∈ pairs.map Prod.fst →
        Text.sameFolded first name = true → one = value := fun first one member =>
      named.agree first one name value (List.mem_append_left _ member) last
    cases found : assembly.named.find? (Text.sameFolded ·.1 name) with
    | none =>
      have added : assembly.add .named (.named name value) =
          { assembly.marked name with named := (name, value) :: assembly.named } := by
        simp only [Assembly.add, addNamed, found]
      have next : assembly.nextName .named (.named name value) = name := by
        simp only [nextName, found, Option.elim]
      rw [added, next]
      exact keeps.new_named free found
    | some binding =>
      have added : assembly.add .named (.named name value) = assembly.marked binding.1 := by
        simp only [Assembly.add, addNamed, found]
      have next : assembly.nextName .named (.named name value) = binding.1 := by
        simp only [nextName, found, Option.elim]
      rw [added, next]
      exact keeps.bound_named free agree found

/-- What assembling keeps. -/
theorem Keeps.foldl (keeps : assembly.Keeps pairs) (pieces : List Piece)
    (markers : ∀ pair ∈ pairs, pair.1.isMarker = true)
    (named : Piece.Named (pairs.map Prod.fst ++ pieces)) :
    (pieces.foldl (Assembly.add .named) assembly).Keeps
      (pairs ++ (pieces.filter Piece.isMarker).zip (assembly.names .named pieces)) := by
  induction pieces generalizing assembly pairs with
  | nil =>
    rw [List.filter_nil, List.zip_nil_left, List.append_nil]
    exact keeps
  | cons piece rest inductionHypothesis =>
    rw [List.foldl_cons]
    by_cases marker : piece.isMarker = true
    · have step := keeps.add marker markers (named.mono (by simp))
      rw [names_marker marker, List.filter_cons_of_pos marker, List.zip_cons_cons,
        ← List.singleton_append, ← List.append_assoc]
      refine inductionHypothesis step (fun pair member => ?_) (named.mono (by simp))
      rcases List.mem_append.mp member with earlier | last
      · exact markers pair earlier
      · cases List.mem_singleton.mp last
        exact marker
    · cases piece with
      | text sql => exact inductionHypothesis (keeps.text sql) markers (named.mono (by simp))
      | _ => exact absurd rfl marker

/-- The markers of a name have the spelling that came first. -/
theorem Keeps.spelling (keeps : assembly.Keeps pairs) {name spelling : String} {value : Value}
    (free : isGeneratedName name = false) (member : (.named name value, spelling) ∈ pairs) :
    (pairs.filterMap (·.1.name?)).find? (Text.sameFolded · name) = some spelling := by
  have bound := keeps.bound _ spelling value member rfl
  have same := keeps.spelled name value spelling member
  rw [← keeps.first name free, ← find?_congr same, find?_of_distinct keeps.distinct bound]
  rfl

end Assembly

end OracleSql
