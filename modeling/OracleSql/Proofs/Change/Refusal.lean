/-
This file says that the guard against changes of all rows refuses only those. A change that it
refuses has no condition that could leave a row out: each one says nothing, or has the value true
whatever its predicates say. The other way round, a change is refused for want of a condition by
nothing but the guard, since no later step of its building fails with this error; so it is said
exactly when a change is refused.
-/

import OracleSql.Proofs.Change.Guard

namespace OracleSql

variable {α : Type}

/-- The outcome does not refuse a change for want of a condition. -/
abbrev Spares (outcome : Except Error α) : Prop :=
  FailsWith (fun failure => failure.isMissingWhere = false) outcome

/-! ### Parts of changes -/

namespace Dialect

variable (dialect : Dialect)

theorem nameText_spares (name : String) : Spares (dialect.nameText name) :=
  FailsWith.mapError _ _ fun _ => rfl

theorem namePiece_spares (name : String) : Spares (dialect.namePiece name) :=
  (dialect.nameText_spares name).map _

theorem namePieces_spares (names : List String) : Spares (dialect.namePieces names) :=
  (FailsWith.mapM fun name _ => dialect.namePiece_spares name).map _

theorem namedPiece_spares (args : Args) (name : String) :
    Spares (dialect.namedPiece args name) := by
  unfold namedPiece
  split
  · exact .error rfl
  · split
    · exact .error rfl
    · exact .ok _

theorem fill_spares (args : Args) (unused : List Value) (lexemes : List Marker.Lexeme) :
    Spares (dialect.fill args unused lexemes) := by
  induction lexemes generalizing unused with
  | nil =>
    unfold fill
    split
    · exact .ok _
    · exact .error rfl
  | cons lexeme rest inductionHypothesis =>
    cases lexeme with
    | text written => exact (inductionHypothesis unused).map _
    | native name => exact (inductionHypothesis unused).map _
    | positional =>
      cases unused with
      | nil => exact .error rfl
      | cons value others => exact (inductionHypothesis others).map _
    | named name =>
      exact (dialect.namedPiece_spares args _).bind fun _ => (inductionHypothesis unused).map _

theorem fragment_spares (sql : String) (args : Args) : Spares (dialect.fragment sql args) := by
  have read : Spares (Error.ofLexemes (Marker.lexemes sql)) := FailsWith.mapError _ _ fun _ => rfl
  refine read.bind fun lexemes => ?_
  split
  · exact .error rfl
  · exact dialect.fill_spares args _ lexemes

theorem store_spares (table : Option Table) (column : String) (value : Value) :
    Spares (dialect.store table column value) := by
  unfold store
  split
  · exact FailsWith.mapError _ _ fun _ => rfl
  · exact .ok _

theorem outPiece_spares (table : Option Table) (rows : Nat) (column : String) :
    Spares (dialect.outPiece table rows column) := by
  unfold outPiece
  split
  next declared _ =>
    have typed : Spares (Error.ofColumn declared (dialect.columnType declared)) :=
      FailsWith.mapError _ _ fun _ => rfl
    exact typed.map _
  next => exact .ok _

theorem returningPieces_spares (table : Option Table) (columns : List String) (rows : Nat) :
    Spares (dialect.returningPieces table columns rows) := by
  unfold returningPieces
  split
  · exact .ok _
  · refine (dialect.namePieces_spares columns).bind fun _ => ?_
    have outs := FailsWith.mapM fun column (_ : column ∈ columns) =>
      dialect.outPiece_spares table rows column
    exact outs.bind fun _ => .ok _

theorem checkReturning_spares (operation : String) (columns : List String) :
    Spares (dialect.checkReturning operation columns) := by
  unfold checkReturning
  split
  · exact .ok _
  · exact .error rfl

end Dialect

namespace Condition

variable (dialect : Dialect)

theorem comparePieces_spares (column : String) (comparison : Comparison) (value : Value) :
    Spares (comparePieces dialect column comparison value) := by
  refine (dialect.nameText_spares column).bind fun _ => ?_
  dsimp only
  split
  · exact .ok _
  · exact .ok _

theorem membershipPieces_spares (column : String) (values : List Value) (negated : Bool) :
    Spares (membershipPieces dialect column values negated) := by
  unfold membershipPieces
  split
  · exact .ok _
  · exact (dialect.nameText_spares column).bind fun _ => .ok _

theorem partPieces_spares (wanted : Condition → Bool) {parts : List Condition}
    (each : ∀ part ∈ parts, Spares (pieces dialect part)) :
    Spares (partPieces dialect wanted parts) := by
  induction parts with
  | nil => exact .ok _
  | cons part rest inductionHypothesis =>
    obtain ⟨first, others⟩ := List.forall_mem_cons.mp each
    rw [partPieces]
    split
    · exact inductionHypothesis others
    · exact first.bind fun _ => (inductionHypothesis others).bind fun _ => .ok _

theorem pieces_spares (condition : Condition) : Spares (pieces dialect condition) := by
  induction condition with
  | all parts inductionHypothesis => exact (partPieces_spares dialect _ inductionHypothesis).map _
  | any parts inductionHypothesis => exact (partPieces_spares dialect _ inductionHypothesis).map _
  | negation inner inductionHypothesis =>
    rw [pieces]
    split
    · exact .ok _
    · exact inductionHypothesis.map _
  | compare column comparison value => exact comparePieces_spares dialect column comparison value
  | nullness column isNull => exact (dialect.nameText_spares column).bind fun _ => .ok _
  | membership column values negated => exact membershipPieces_spares dialect column values negated
  | range column low high negated => exact (dialect.nameText_spares column).bind fun _ => .ok _
  | template sql values => exact dialect.fragment_spares sql _
  | fragment sql => exact dialect.fragment_spares sql _
  | always => exact .ok _
  | never => exact .ok _

end Condition

theorem Filter.clause_spares (dialect : Dialect) (keyword : String) (filter : Filter) :
    Spares (filter.clause dialect keyword) := by
  unfold clause
  split
  · exact .ok _
  · refine FailsWith.map _ (FailsWith.map _ ?_)
    exact Condition.partPieces_spares dialect _ fun part _ => part.pieces_spares dialect

/-! ### Refused changes -/

/-- A change is refused for want of a condition. -/
def Refused (outcome : Except Error α) : Prop :=
  ∃ failure, outcome = .error failure ∧ failure.isMissingWhere = true

theorem Spares.not_refused {outcome : Except Error α} (spares : Spares outcome) :
    ¬Refused outcome := by
  rintro ⟨failure, same, refuses⟩
  rw [spares failure same] at refuses
  cases refuses

/-- The place that is added to an error does not make it another one. -/
theorem refused_plan_iff (outcome : Except Error Statement) (context : Context) :
    Refused ((outcome.map Plan.single).mapError (Error.within context)) ↔ Refused outcome := by
  cases outcome with
  | ok statement => exact iff_of_false (Spares.not_refused (.ok _)) (Spares.not_refused (.ok _))
  | error failure =>
    have kept : (failure.within context).isMissingWhere = failure.isMissingWhere := by
      cases failure <;> rfl
    constructor
    · rintro ⟨_, ⟨⟩, refuses⟩
      exact ⟨failure, rfl, kept ▸ refuses⟩
    · rintro ⟨_, ⟨⟩, refuses⟩
      exact ⟨_, rfl, kept.trans refuses⟩

/-- Nothing lets a change pass just if neither it nor the dialect allows all rows to be changed, and
each condition says nothing or is recognised as holding for every row. -/
theorem Filter.unguarded_iff (filter : Filter) (allowed globally : Bool) :
    (filter.restricts || allowed || globally) = false ↔
      allowed = false ∧ globally = false ∧
        ∀ condition ∈ filter.conditions,
          condition.isEmpty = true ∨ condition.isAlways = true := by
  have counts : filter.restricts = false ↔
      ∀ condition ∈ filter.conditions, condition.isEmpty = true ∨ condition.isAlways = true := by
    rw [restricts, List.any_eq_false]
    refine forall₂_congr fun condition _ => ?_
    cases condition.isEmpty <;> cases condition.isAlways <;> decide
  rw [Bool.or_eq_false_iff, Bool.or_eq_false_iff, counts, and_assoc, and_rotate]

/-- A removal is refused just if nothing allows it and none of its conditions counts. -/
theorem Delete.refused_iff (dialect : Dialect) (delete : Delete) :
    Refused (delete.plan dialect) ↔
      delete.allowAll = false ∧ dialect.allowGlobalUpdate = false ∧
        ∀ condition ∈ delete.filter.conditions,
          condition.isEmpty = true ∨ condition.isAlways = true := by
  rw [← delete.filter.unguarded_iff, plan, refused_plan_iff]
  unfold build
  dsimp only
  cases allowed : (delete.filter.restricts || delete.allowAll || dialect.allowGlobalUpdate) with
  | false => exact ⟨fun _ => rfl, fun _ => ⟨_, rfl, rfl⟩⟩
  | true =>
    refine ⟨fun refused => absurd refused (Spares.not_refused ?_), nofun⟩
    refine (dialect.namePiece_spares delete.table).bind fun _ => ?_
    refine (delete.filter.clause_spares dialect _).bind fun _ => ?_
    refine (dialect.checkReturning_spares _ delete.returning).bind fun _ => ?_
    exact (dialect.returningPieces_spares none delete.returning 0).bind fun _ => .ok _

theorem Update.assignmentPieces_spares (dialect : Dialect) (update : Update) (column : String)
    (assignment : Assignment) : Spares (update.assignmentPieces dialect column assignment) := by
  refine (dialect.nameText_spares column).bind fun _ => ?_
  cases assignment with
  | value value =>
    exact ((dialect.store_spares update.declared column value).map _).bind fun _ => .ok _
  | expression sql => exact (dialect.fragment_spares sql {}).bind fun _ => .ok _

/-- A change of rows is refused just if it sets something, nothing allows it and none of its
conditions counts. -/
theorem Update.refused_iff (dialect : Dialect) (update : Update) :
    Refused (update.plan dialect) ↔ update.assignments ≠ [] ∧
      update.allowAll = false ∧ dialect.allowGlobalUpdate = false ∧
        ∀ condition ∈ update.filter.conditions,
          condition.isEmpty = true ∨ condition.isAlways = true := by
  rw [← update.filter.unguarded_iff, plan, refused_plan_iff]
  unfold build
  dsimp only
  by_cases bare : update.assignments = []
  · rw [bare]
    exact ⟨fun refused => absurd refused (Spares.not_refused (.error rfl)),
      fun some => absurd rfl some.1⟩
  rw [if_neg (mt List.isEmpty_iff.mp bare)]
  cases allowed : (update.filter.restricts || update.allowAll || dialect.allowGlobalUpdate) with
  | false => exact ⟨fun _ => ⟨bare, rfl⟩, fun _ => ⟨_, rfl, rfl⟩⟩
  | true =>
    refine ⟨fun refused => absurd refused (Spares.not_refused ?_), fun some => nomatch some.2⟩
    refine (dialect.namePiece_spares update.table).bind fun _ => ?_
    refine (FailsWith.mapM fun assigned _ =>
      update.assignmentPieces_spares dialect assigned.1 assigned.2).bind fun _ => ?_
    refine (update.filter.clause_spares dialect _).bind fun _ => ?_
    refine (dialect.checkReturning_spares _ update.returning).bind fun _ => ?_
    exact (dialect.returningPieces_spares update.declared update.returning 0).bind fun _ => .ok _

/-- **The guard refuses only changes of all rows.** What is recognised as holding for every row has
the value true whatever its predicates say, for every condition. So where a change of rows or a
removal is refused for want of a condition, each of its conditions says nothing or has the value
true for every row; and it is refused just if it would change something, nothing allows it, and no
condition counts. -/
theorem refused_change_reaches_all_rows :
    (∀ condition : Condition, condition.isAlways = true →
      ∀ valuation, condition.meaning valuation = .yes) ∧
    (∀ (dialect : Dialect) (update : Update),
      (Refused (update.plan dialect) → ∀ condition ∈ update.filter.conditions,
        condition.isEmpty = true ∨ ∀ valuation, condition.meaning valuation = .yes) ∧
      (Refused (update.plan dialect) ↔ update.assignments ≠ [] ∧
        update.allowAll = false ∧ dialect.allowGlobalUpdate = false ∧
          ∀ condition ∈ update.filter.conditions,
            condition.isEmpty = true ∨ condition.isAlways = true)) ∧
    ∀ (dialect : Dialect) (delete : Delete),
      (Refused (delete.plan dialect) → ∀ condition ∈ delete.filter.conditions,
        condition.isEmpty = true ∨ ∀ valuation, condition.meaning valuation = .yes) ∧
      (Refused (delete.plan dialect) ↔
        delete.allowAll = false ∧ dialect.allowGlobalUpdate = false ∧
          ∀ condition ∈ delete.filter.conditions,
            condition.isEmpty = true ∨ condition.isAlways = true) := by
  have holds : ∀ condition : Condition, condition.isAlways = true →
      ∀ valuation, condition.meaning valuation = .yes := fun condition recognised valuation =>
    condition.meaning_of_isAlways recognised valuation
  refine ⟨holds, fun dialect update => ⟨fun refused condition member => ?_, ?_⟩,
    fun dialect delete => ⟨fun refused condition member => ?_, delete.refused_iff dialect⟩⟩
  · obtain ⟨_, _, _, each⟩ := (update.refused_iff dialect).mp refused
    exact (each condition member).imp_right (holds condition)
  · exact update.refused_iff dialect
  · obtain ⟨_, _, each⟩ := (delete.refused_iff dialect).mp refused
    exact (each condition member).imp_right (holds condition)

/-- A removal whose conditions are a test against no values, nothing at all, and a choice of which
one part always holds. -/
theorem refused_change_reaches_all_rows_choice :
    let choice : Condition := .any [.compare "a" .equal .null, .negation .never]
    let removal : Delete := { table := "t", filter := ⟨[.notIn "id" [], .all [], choice]⟩ }
    Refused (removal.plan {}) ∧ choice.isAlways = true ∧
      (∀ valuation, choice.meaning valuation = .yes) ∧
      ∀ condition ∈ removal.filter.conditions,
        condition.isEmpty = true ∨ ∀ valuation, condition.meaning valuation = .yes := by
  intro choice removal
  have refused : Refused (removal.plan {}) := ⟨_, rfl, rfl⟩
  exact ⟨refused, rfl, refused_change_reaches_all_rows.1 choice rfl,
    (refused_change_reaches_all_rows.2.2 {} removal).1 refused⟩

end OracleSql
