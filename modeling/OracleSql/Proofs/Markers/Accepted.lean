/-
This file says what the check of a statement accepts, and how far this is from what the check is
for: one value for each marker and one marker for each value. Values in order are counted, and this
says it all. For a batch, the markers of returned columns are taken off by their number, without a
look at which markers they are. Names are compared as sets, so that a name may be bound twice, or
bound and returned at once. `Statement.Unmixed` is what has to be so besides.
-/

import OracleSql.Proofs.Listing.Repeats
import OracleSql.Proofs.Styles.Meaning

namespace OracleSql

namespace Text

variable {name other : String} {names : List String}

theorem memFolded_iff : memFolded name names = true ↔
    ∃ other ∈ names, sameFolded name other = true :=
  List.any_eq_true

/-- Names without regard to case are counted by their folded form. -/
theorem countP_sameFolded (name : String) (names : List String) :
    names.countP (sameFolded · name) = (names.map foldUpper).count (foldUpper name) := by
  rw [List.count, List.countP_map]
  rfl

theorem distinct_iff_nodup : Distinct names ↔ (names.map foldUpper).Nodup := by
  unfold Distinct List.Nodup
  rw [List.pairwise_map]
  refine List.Pairwise.iff_of_mem fun _ _ => ?_
  rw [Bool.eq_false_iff, ne_eq, ne_eq, sameFolded_iff]

/-- No two names are the same without regard to case just if each name counts once at most. -/
theorem distinct_iff_countP_le_one :
    Distinct names ↔ ∀ name, names.countP (sameFolded · name) ≤ 1 := by
  rw [distinct_iff_nodup, List.nodup_iff_count_le_one]
  constructor
  · intro counted name
    rw [countP_sameFolded]
    exact counted _
  · intro counted folded
    by_cases member : folded ∈ names.map foldUpper
    · obtain ⟨name, _, rfl⟩ := List.mem_map.mp member
      rw [← countP_sameFolded]
      exact counted name
    · rw [List.count_eq_zero_of_not_mem member]
      exact Nat.zero_le 1

end Text

namespace Statement

variable {statement : Statement} {markers : List String}

/-! ### What the check asks for -/

/-- Whether the values go with the markers of the text, as far as the check looks. -/
def AcceptsValues (statement : Statement) (markers : List String) : Prop :=
  match statement.binds with
  | .positional values => markers.length = values.length + statement.outs.length
  | .batch rows => ∀ row ∈ rows, row.length = markers.length - statement.outs.length
  | .named pairs =>
    (∀ marker ∈ markers, statement.isReturned marker = true ∨
        ∃ pair ∈ pairs, Text.sameFolded pair.1 marker = true) ∧
      ∀ pair ∈ pairs, Text.memFolded pair.1 markers = true

/-- Every returned column has its marker in the text. -/
def PlacesOuts (statement : Statement) (markers : List String) : Prop :=
  ∀ out ∈ statement.outs, Text.memFolded out.marker markers = true

theorem isReturned_iff {name : String} : statement.isReturned name = true ↔
    ∃ out ∈ statement.outs, Text.sameFolded out.marker name = true :=
  List.any_eq_true

theorem isReturned_congr {name other : String} (same : Text.sameFolded name other = true) :
    statement.isReturned name = statement.isReturned other := by
  simp only [isReturned, Text.sameFolded_congr same]

theorem sameMembers_iff (left right : List String) :
    sameMembers (distinctFolded left) (distinctFolded right) = true ↔
      (∀ name ∈ left, Text.memFolded name right = true) ∧
        ∀ name ∈ right, Text.memFolded name left = true := by
  have inside (some others : List String) :
      ((distinctFolded some).all (distinctFolded others).contains = true) ↔
        ∀ name ∈ some, Text.memFolded name others = true := by
    simp only [List.all_eq_true, List.contains_iff_mem, distinctFolded, List.mem_eraseDups,
      List.mem_map, Text.memFolded_iff, Text.sameFolded_iff]
    constructor
    · intro included name member
      obtain ⟨other, also, same⟩ := included _ ⟨name, member, rfl⟩
      exact ⟨other, also, same.symm⟩
    · rintro found _ ⟨name, member, rfl⟩
      obtain ⟨other, also, same⟩ := found name member
      exact ⟨other, also, same.symm⟩
  rw [sameMembers, Bool.and_eq_true, inside, inside]

theorem countFault?_eq_none_iff {markers values : Nat} :
    statement.countFault? markers values = none ↔ markers = values := by
  unfold countFault?
  split <;> simp_all

theorem outFault?_eq_none_iff : statement.outFault? markers = none ↔
    statement.PlacesOuts markers := by
  unfold outFault? PlacesOuts
  rw [List.findSome?_eq_none_iff]
  refine forall₂_congr fun out _ => ?_
  split <;> simp_all

/-- Where the returned columns have their markers, the values have no fault if they are accepted. -/
theorem valueFault?_eq_none_iff (placed : statement.PlacesOuts markers) :
    statement.valueFault? markers = none ↔ statement.AcceptsValues markers := by
  unfold valueFault? AcceptsValues
  cases statement.binds with
  | positional values => exact countFault?_eq_none_iff
  | batch rows =>
    rw [List.findSome?_eq_none_iff]
    exact forall₂_congr fun row _ => countFault?_eq_none_iff.trans eq_comm
  | named pairs =>
    have bound (marker : String) :
        Text.memFolded marker (pairs.map Prod.fst ++ statement.outs.map OutBind.marker) = true ↔
          statement.isReturned marker = true ∨
            ∃ pair ∈ pairs, Text.sameFolded pair.1 marker = true := by
      rw [Text.memFolded, List.any_append, Bool.or_eq_true, List.any_map, List.any_map, or_comm]
      simp only [isReturned_iff, List.any_eq_true, Function.comp, Text.sameFolded_comm marker]
    have given : (∀ name ∈ pairs.map Prod.fst ++ statement.outs.map OutBind.marker,
        Text.memFolded name markers = true) ↔
          ∀ pair ∈ pairs, Text.memFolded pair.1 markers = true := by
      rw [List.forall_mem_append, List.forall_mem_map, List.forall_mem_map]
      exact and_iff_left placed
    have same := sameMembers_iff markers
      (pairs.map Prod.fst ++ statement.outs.map OutBind.marker)
    simp only [bound, given] at same
    dsimp only
    rw [← same]
    split <;> simp_all

/-- What the check accepts: definitions, and statements whose text can be read, whose values go with
its markers, and whose returned columns have their markers in it. -/
theorem check_eq_ok_iff (looked : statement.operation ≠ definitionOperation) :
    statement.check = .ok () ↔ ∃ markers, Marker.nativeNames statement.sql = .ok markers ∧
      statement.AcceptsValues markers ∧ statement.PlacesOuts markers := by
  have faultless : statement.check = .ok () ↔ statement.fault? = none := by
    unfold check
    cases statement.fault? <;> simp
  rw [faultless, fault?, if_neg looked]
  cases Marker.nativeNames statement.sql with
  | error part => simp
  | ok markers =>
    have unfaulty : (statement.valueFault? markers).or (statement.outFault? markers) = none ↔
        statement.AcceptsValues markers ∧ statement.PlacesOuts markers := by
      rw [Option.or_eq_none_iff, outFault?_eq_none_iff]
      exact and_congr_left valueFault?_eq_none_iff
    simpa using unfaulty

/-! ### One value for each marker -/

/-- Each marker has one value for a run or takes a returned column, and each value has a marker. In
order, there is a marker for every value and for every returned column. Each row of a batch has as
many values as there are markers that take no returned column. Names are compared without regard to
case: a marker that takes no returned column is bound once, each bound name is that of a marker, and
none of them takes a returned column as well. -/
def FitsValues (statement : Statement) (markers : List String) : Prop :=
  match statement.binds with
  | .positional values => markers.length = values.length + statement.outs.length
  | .batch rows =>
    ∀ row ∈ rows, row.length = markers.countP fun marker => !statement.isReturned marker
  | .named pairs =>
    (∀ marker ∈ markers, statement.isReturned marker = true ∨
        pairs.countP (Text.sameFolded ·.1 marker) = 1) ∧
      (∀ pair ∈ pairs, Text.memFolded pair.1 markers = true) ∧
      ∀ pair ∈ pairs, statement.isReturned pair.1 = false

/-- What the check does not look at. In a batch with rows, as many markers of the text take returned
columns as there are such columns, if there are so many markers at all; no name is bound twice, and
none is bound that takes a returned column. -/
def Unmixed (statement : Statement) (markers : List String) : Prop :=
  match statement.binds with
  | .positional _ => True
  | .batch rows =>
    rows = [] ∨ markers.countP statement.isReturned = min statement.outs.length markers.length
  | .named pairs =>
    Text.Distinct (pairs.map Prod.fst) ∧ ∀ pair ∈ pairs, statement.isReturned pair.1 = false

theorem fitsValues_iff_of_batch {rows : List (List Value)} (batch : statement.binds = .batch rows)
    (accepted : statement.AcceptsValues markers) :
    statement.FitsValues markers ↔ statement.Unmixed markers := by
  unfold AcceptsValues at accepted
  unfold FitsValues Unmixed
  rw [batch] at accepted ⊢
  dsimp only at accepted ⊢
  have total : markers.length = markers.countP statement.isReturned +
      markers.countP fun marker => !statement.isReturned marker := by
    simpa using List.length_eq_countP_add_countP statement.isReturned
  constructor
  · intro fits
    rcases rows with - | ⟨row, rest⟩
    · exact Or.inl rfl
    · have counted := fits row List.mem_cons_self
      rw [accepted row List.mem_cons_self] at counted
      exact Or.inr (by omega)
  · rintro (rfl | counted) row member
    · cases member
    · rw [accepted row member]
      omega

theorem fitsValues_iff_of_named {pairs : List (String × Value)}
    (named : statement.binds = .named pairs) (accepted : statement.AcceptsValues markers) :
    statement.FitsValues markers ↔ statement.Unmixed markers := by
  unfold AcceptsValues at accepted
  unfold FitsValues Unmixed
  rw [named] at accepted ⊢
  dsimp only at accepted ⊢
  obtain ⟨reached, used⟩ := accepted
  have counts (marker : String) : (pairs.map Prod.fst).countP (Text.sameFolded · marker) =
      pairs.countP (Text.sameFolded ·.1 marker) := List.countP_map
  constructor
  · rintro ⟨once, _, apart⟩
    refine ⟨Text.distinct_iff_countP_le_one.mpr fun name => ?_, apart⟩
    -- A name that counts is that of a pair, and so that of a marker, which is bound once.
    rcases Nat.eq_zero_or_pos ((pairs.map Prod.fst).countP (Text.sameFolded · name)) with
      none | counted
    · rw [none]
      exact Nat.zero_le 1
    · rw [counts] at counted
      obtain ⟨pair, member, same⟩ := List.countP_pos_iff.mp counted
      obtain ⟨marker, inside, spelled⟩ := Text.memFolded_iff.mp (used pair member)
      have notReturned : statement.isReturned marker ≠ true := by
        rw [← isReturned_congr spelled, apart pair member]
        exact Bool.false_ne_true
      rw [Text.countP_sameFolded, ← Text.sameFolded_iff.mp same, Text.sameFolded_iff.mp spelled,
        ← Text.countP_sameFolded, counts]
      exact ((once marker inside).resolve_left notReturned).le
  · rintro ⟨distinct, apart⟩
    refine ⟨fun marker inside => (reached marker inside).imp_right fun bound => ?_, used, apart⟩
    have most := Text.distinct_iff_countP_le_one.mp distinct marker
    rw [counts] at most
    exact Nat.le_antisymm most (List.countP_pos_iff.mpr bound)

/-- **Accepted values fit the markers exactly where they are not mixed up.** The text of a statement
that the check accepts can be read, and each returned column has its marker there. Each marker has
one value and each value its marker just if, in a batch, markers and columns are returned in equal
numbers, and if no name is bound twice or both bound and returned. For values in order nothing more
is needed. -/
theorem accepted_fits_iff (statement : Statement)
    (looked : statement.operation ≠ definitionOperation) (accepted : statement.check = .ok ()) :
    ∃ markers, Marker.nativeNames statement.sql = .ok markers ∧ statement.PlacesOuts markers ∧
      (statement.FitsValues markers ↔ statement.Unmixed markers) := by
  obtain ⟨markers, read, values, placed⟩ := (check_eq_ok_iff looked).mp accepted
  refine ⟨markers, read, placed, ?_⟩
  cases bound : statement.binds with
  | positional given =>
    unfold AcceptsValues at values
    unfold FitsValues Unmixed
    rw [bound] at values ⊢
    exact iff_of_true values trivial
  | batch rows => exact fitsValues_iff_of_batch bound values
  | named pairs => exact fitsValues_iff_of_named bound values

/-- A name that the text holds in two spellings and that is bound in a third, next to a returned
column. -/
theorem accepted_fits_iff_repeated_marker :
    let statement : Statement :=
      { sql := "INSERT INTO t (a, b) VALUES (:Va, :vA) RETURNING id INTO :ret1"
        binds := .named [("va", .int 7)]
        shape := .returning [{ marker := "RET1", column := "id", rows := 1 }] }
    statement.check = .ok () ∧ statement.FitsValues ["Va", "vA", "ret1"] := by
  intro statement
  have looked : statement.operation ≠ definitionOperation := by decide
  have accepted : statement.check = .ok () := by decide +kernel
  obtain ⟨markers, read, _, fits⟩ := accepted_fits_iff statement looked accepted
  have known : Marker.nativeNames statement.sql = .ok ["Va", "vA", "ret1"] := by decide +kernel
  cases read.symm.trans known
  refine ⟨accepted, fits.mpr ⟨?_, ?_⟩⟩
  · exact List.pairwise_singleton _ _
  · exact List.forall_mem_singleton.mpr (by decide +kernel)

/-- The check accepts a name that is bound twice, and a batch of rows with two values for the one
marker that takes no returned column. -/
theorem accepted_misfits :
    let twice : Statement :=
      { sql := "SELECT :x FROM DUAL"
        binds := .named [("x", .int 1), ("X", .int 2)]
        shape := .rows }
    let spread : Statement :=
      { sql := "INSERT INTO T (A) VALUES (:1) RETURNING A, B INTO :2, :2"
        binds := .batch [[.int 1, .int 2]]
        shape := .returning [{ marker := "2", column := "id", rows := 1 }] }
    (Marker.nativeNames twice.sql = .ok ["x"] ∧ twice.check = .ok () ∧
        ¬ twice.FitsValues ["x"]) ∧
      Marker.nativeNames spread.sql = .ok ["1", "2", "2"] ∧ spread.check = .ok () ∧
        ¬ spread.FitsValues ["1", "2", "2"] := by
  intro twice spread
  refine ⟨⟨by decide +kernel, by decide +kernel, ?_⟩, by decide +kernel, by decide +kernel, ?_⟩
  · rintro ⟨once, -⟩
    exact absurd (once "x" List.mem_cons_self) (by decide +kernel)
  · intro fits
    exact absurd (fits _ List.mem_cons_self) (by decide +kernel)

end Statement

end OracleSql
