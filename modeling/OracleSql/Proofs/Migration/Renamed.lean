/-
This file says what a reported renaming has done. A database refuses to rename what is not there,
and to give a name that belongs to something else; otherwise it renames, unless something else is in
the way. The second refusal has the number of the error for what exists already, and a renaming
counts it as success, like the definitions that make something. So a renaming that is reported
leaves a renamed object just if the new name was free; if it was not, nothing has changed.
-/

import OracleSql.Proofs.Migration.Answering
import OracleSql.Proofs.Migration.Defining

namespace OracleSql

variable {σ Name Object : Type}

/-- A statement gives an object another name. What is not there has none to lose (ORA-00942), and a
name that belongs to something else is not given (ORA-00955). -/
structure Connection.Renames (connection : Connection σ) (sql : String)
    (objectOf : σ → Name → Option Object) (given wanted : Name) : Prop where
  absent : ∀ state, objectOf state given = none →
    ∃ error, (connection.execute sql .none state).answer = .error error ∧
      error.nativeCode? = some 942
  taken : ∀ state object other, objectOf state given = some object →
    objectOf state wanted = some other →
      objectOf (connection.execute sql .none state).arrived = objectOf state ∧
      ∃ error, (connection.execute sql .none state).answer = .error error ∧
        error.nativeCode? = some 955
  free : ∀ state object, objectOf state given = some object → objectOf state wanted = none →
    match (connection.execute sql .none state).answer with
    | .ok _ =>
      objectOf (connection.execute sql .none state).arrived wanted = some object ∧
        objectOf (connection.execute sql .none state).arrived given = none
    | .error error => ∀ code ∈ presentOnCreateCodes, error.nativeCode? ≠ some code

namespace Migrator

variable {executor : Executor σ}

/-- A reported renaming has renamed its object just if the new name was free. If it belonged to
something else, everything is as before, and the step counts as carried out already. -/
theorem renaming_reported_iff {source target sql : String} {objectOf : σ → Name → Option Object}
    {given wanted : Name}
    (written : (Definition.renameTable source target).sql executor.dialect = .ok sql)
    (renames : executor.connection.Renames sql objectOf given wanted)
    {state after : σ} {report : MigrationReport}
    (ran : (define executor [.renameTable source target]).perform state = (.ok report, after)) :
    ∃ object, objectOf state given = some object ∧
      ((objectOf after wanted = some object ∧ objectOf after given = none) ↔
        objectOf state wanted = none) ∧
      (objectOf state wanted = none → report = { executed := [sql] }) ∧
      (objectOf state wanted ≠ none →
        objectOf after = objectOf state ∧ report = { tolerated := [sql] }) := by
  obtain ⟨text, needed, made, settled, rfl⟩ := define_reported executor ran
  obtain rfl := Except.ok.inj (written.symm.trans made)
  obtain ⟨rfl, answered⟩ := runStep_settled executor settled
  cases there : objectOf state given with
  | none =>
    obtain ⟨error, refused, absent⟩ := renames.absent state there
    have unsettled : (942 : Int) ∉ DefinitionKind.alter.settledCodes := by decide
    rcases answered with ⟨count, done, -⟩ | ⟨other, failed, ⟨code, member, number⟩, -⟩
    · cases done.symm.trans refused
    · obtain rfl := Except.error.inj (failed.symm.trans refused)
      obtain rfl := Option.some.inj (number.symm.trans absent)
      exact absurd member unsettled
  | some object =>
    refine ⟨object, rfl, ?_⟩
    cases held : objectOf state wanted with
    | some other =>
      obtain ⟨same, error, refused, -⟩ := renames.taken state object other there held
      rcases answered with ⟨count, done, -⟩ | ⟨_, _, _, rfl⟩
      · cases done.symm.trans refused
      · refine ⟨⟨fun ⟨_, gone⟩ => ?_, nofun⟩, nofun, fun _ => ⟨same, rfl⟩⟩
        -- The object still has the name that it was to lose.
        cases there.symm.trans ((congrFun same given).symm.trans gone)
    | none =>
      have freed := renames.free state object there held
      rcases answered with ⟨count, done, rfl⟩ | ⟨error, failed, ⟨code, member, number⟩, -⟩
      · rw [done] at freed
        exact ⟨⟨fun _ => rfl, fun _ => freed⟩, fun _ => rfl, fun taken => absurd rfl taken⟩
      · rw [failed] at freed
        exact absurd number (freed code member)

/-! ### Two tables -/

/-- A database of numbered tables in which every statement gives `USERS` the name `MEMBERS`. -/
def renamingDatabase : Connection (String → Option Nat) where
  __ := Connection.ofCatalog (fun _ _ => none) .numbered
  execute _ _ tables :=
    match tables "USERS", tables "MEMBERS" with
    | none, _ => .settled (.error (.database ⟨some 942, "table or view does not exist"⟩ {})) tables
    | some _, some _ => .settled
      (.error (.database ⟨some 955, "name is already used by an existing object"⟩ {})) tables
    | some number, none => .settled (.ok 0)
      fun name => if name = "MEMBERS" then some number else if name = "USERS" then none
        else tables name

/-- It renames as a database does. -/
theorem renamingDatabase_renames (sql : String) :
    renamingDatabase.Renames sql id "USERS" "MEMBERS" where
  absent tables absent := by
    unfold renamingDatabase
    dsimp only
    rw [show tables "USERS" = none from absent]
    exact ⟨_, rfl, rfl⟩
  taken tables number other given wanted := by
    unfold renamingDatabase
    dsimp only
    rw [show tables "USERS" = some number from given,
      show tables "MEMBERS" = some other from wanted]
    exact ⟨rfl, _, rfl, rfl⟩
  free tables number given wanted := by
    unfold renamingDatabase
    dsimp only
    rw [show tables "USERS" = some number from given, show tables "MEMBERS" = none from wanted]
    exact ⟨rfl, rfl⟩

/-- What defines on this database. -/
def renamingExecutor : Executor (String → Option Nat) where
  dialect := {}
  connection := renamingDatabase

/-- The text of the renaming. -/
def renamingText : String := "ALTER TABLE \"USERS\" RENAME TO \"MEMBERS\""

/-- The only table is renamed. -/
theorem renaming_reported_iff_free :
    let tables := fun name : String => if name = "USERS" then some 1 else none
    let ran := (define renamingExecutor [.renameTable "users" "members"]).perform tables
    ran.1 = .ok { executed := [renamingText] } ∧
      ran.2 "MEMBERS" = some 1 ∧ ran.2 "USERS" = none := by
  intro tables ran
  have written : (Definition.renameTable "users" "members").sql renamingExecutor.dialect =
      .ok renamingText := by
    decide +kernel
  have reported : ran.1 = .ok { executed := [renamingText] } := by decide +kernel
  obtain ⟨number, there, renamed, -, -⟩ := renaming_reported_iff written
    (renamingDatabase_renames renamingText) (Prod.ext reported rfl : ran = (_, ran.2))
  obtain rfl : 1 = number := Option.some.inj there
  exact ⟨reported, renamed.mpr rfl⟩

/-- Where another table has the new name, neither table is renamed, and the step counts as carried
out already. -/
theorem renaming_reported_taken :
    let tables := fun name : String =>
      if name = "USERS" then some 1 else if name = "MEMBERS" then some 2 else none
    let ran := (define renamingExecutor [.renameTable "users" "members"]).perform tables
    renamingExecutor.connection.Renames renamingText id "USERS" "MEMBERS" ∧
      ran.1 = .ok { tolerated := [renamingText] } ∧
      ran.2 "USERS" = some 1 ∧ ran.2 "MEMBERS" = some 2 :=
  ⟨renamingDatabase_renames renamingText, by decide +kernel, by decide +kernel, by decide +kernel⟩

end Migrator

end OracleSql
