/-
This file follows a text from a declaration into the statements that define its table. Comments and
defaults are the only texts that stand in a definition as literals, where every quote inside is
written twice. Whatever the text, the reader of templates finds the end of its literal at the
closing quote, the letters between the quotes stand for the text, and what the statements say before
and behind the literal is the same for all texts. So no text ends its literal early.
-/

import OracleSql.Migration.Definition
import OracleSql.Proofs.Outcome
import OracleSql.Proofs.Template.Scanning

namespace OracleSql

/-! ### One literal -/

/-- The letters that stand between the quotes of a literal mean, where two quotes mean one. -/
def undoubled : List Char → List Char
  | [] => []
  | [letter] => [letter]
  | letter :: next :: rest =>
    if letter = '\'' ∧ next = '\'' then letter :: undoubled rest
    else letter :: undoubled (next :: rest)

theorem undoubled_cons {letter : Char} (other : letter ≠ '\'') (rest : List Char) :
    undoubled (letter :: rest) = letter :: undoubled rest := by
  cases rest with
  | nil => rfl
  | cons next rest => rw [undoubled, if_neg fun both => other both.1]

/-- Doubling the quotes and undoubling them gives back the letters. -/
theorem undoubled_flatMap (letters : List Char) :
    undoubled (letters.flatMap literalLetter) = letters := by
  induction letters with
  | nil => rfl
  | cons letter rest inductionHypothesis =>
    rw [List.flatMap_cons, literalLetter]
    split
    next quote => rw [quote, List.cons_append, List.singleton_append, undoubled,
      if_pos ⟨rfl, rfl⟩, inductionHypothesis]
    next other => rw [List.singleton_append, undoubled_cons other, inductionHypothesis]

theorem escaped_flatMap (letters : List Char) :
    Marker.Escaped '\'' (letters.flatMap literalLetter) := by
  induction letters with
  | nil => exact .nil
  | cons letter rest inductionHypothesis =>
    rw [List.flatMap_cons, literalLetter]
    split
    · exact .doubled inductionHypothesis
    next other => exact .letter other inductionHypothesis

theorem toList_literal (content : String) :
    (literal content).toList = '\'' :: (content.toList.flatMap literalLetter ++ ['\'']) :=
  String.toList_ofList

/-- The text has the content as a literal between a beginning and an end: from behind the opening
quote the reader comes just past the closing quote, and the letters between the quotes stand for the
content. -/
def Quotes (content : String) (before after : List Char) (text : String) : Prop :=
  ∃ body, text.toList = before ++ '\'' :: (body ++ '\'' :: after) ∧
    Marker.quotedLength '\'' (body ++ '\'' :: after) = some (body.length + 1) ∧
    undoubled body = content.toList

/-- A literal is whole wherever no further quote follows it. -/
theorem quotes_literal (content before after : String) (apart : after.toList.head? ≠ some '\'') :
    Quotes content before.toList after.toList (before ++ literal content ++ after) := by
  refine ⟨content.toList.flatMap literalLetter, ?_,
    Marker.quotedLength_append (escaped_flatMap _) apart, undoubled_flatMap _⟩
  rw [String.toList_append, String.toList_append, toList_literal, List.append_assoc,
    List.cons_append, List.append_assoc, List.singleton_append]

/-! ### Texts that depend on a content -/

/-- Whatever the content, the outcome is the same error, or else all the results are of this
form. -/
def Uniformly {α : Type} (form : (String → α) → Prop) (draft : String → Except Error α) : Prop :=
  (∃ error, ∀ content, draft content = .error error) ∨
    ∃ written, form written ∧ ∀ content, draft content = .ok (written content)

namespace Uniformly

variable {α β : Type} {form : (String → α) → Prop} {further : (String → β) → Prop}

theorem ok {written : String → α} (formed : form written) :
    Uniformly form fun content => .ok (written content) :=
  Or.inr ⟨written, formed, fun _ => rfl⟩

theorem bind {draft : String → Except Error α} {next : α → Except Error β}
    (first : Uniformly form draft)
    (second : ∀ written, form written → Uniformly further fun content => next (written content)) :
    Uniformly further fun content => draft content >>= next := by
  rcases first with ⟨error, failed⟩ | ⟨written, formed, same⟩
  · refine Or.inl ⟨error, fun content => ?_⟩
    show draft content >>= next = _
    rw [failed]
    rfl
  · have joined : (fun content => draft content >>= next) = fun content => next (written content) :=
      funext fun content => by rw [same]; rfl
    rw [joined]
    exact second written formed

/-- What does not depend on the content comes first. -/
theorem bindFixed (outcome : Except Error α) {next : String → α → Except Error β}
    (each : ∀ result, Uniformly further fun content => next content result) :
    Uniformly further fun content => outcome >>= next content := by
  cases outcome with
  | error error => exact Or.inl ⟨error, fun _ => rfl⟩
  | ok result => exact each result

end Uniformly

/-- The text has its content as one literal, between the same beginning and the same end. -/
def HasLiteral (written : String → String) : Prop :=
  ∃ before after : String, after.toList.head? ≠ some '\'' ∧
    ∀ content, written content = before ++ literal content ++ after

/-- One of the texts has the content as a literal, and the others do not depend on it. -/
def OneHasLiteral (written : String → List String) : Prop :=
  ∃ earlier later text, HasLiteral text ∧
    ∀ content, written content = earlier ++ text content :: later

theorem HasLiteral.surround {written : String → String} (inside : HasLiteral written)
    (front back : String) (apart : back.toList.head? ≠ some '\'') :
    HasLiteral fun content => front ++ written content ++ back := by
  obtain ⟨before, after, close, same⟩ := inside
  refine ⟨front ++ before, after ++ back, ?_, fun content => ?_⟩
  · rw [String.toList_append, List.head?_append]
    cases leading : after.toList.head? with
    | none => exact apart
    | some letter => exact fun quote => close (leading.trans quote)
  · simp only [same, String.append_assoc]

/-- Where one member of a list depends on the content, so does one result, at its place. -/
theorem Uniformly.mapM_middle {α : Type} {step : α → Except Error String} {member : String → α}
    (drafted : Uniformly HasLiteral fun content => step (member content)) (earlier later : List α) :
    Uniformly OneHasLiteral fun content => (earlier ++ member content :: later).mapM step := by
  simp only [List.mapM_append, List.mapM_cons, bind_assoc]
  refine bindFixed _ fun before => bind drafted fun text inside => bindFixed _ fun after => ?_
  exact ok ⟨before, after, text, inside, fun _ => rfl⟩

/-- Joining texts leaves each of them between a beginning and an end. -/
theorem exists_join_middle (separator : String) (earlier later : List String) :
    ∃ before after, (after = "" ∨ ∃ more, after = separator ++ more) ∧
      ∀ text, Text.join separator (earlier ++ text :: later) = before ++ text ++ after := by
  induction earlier with
  | nil =>
    cases later with
    | nil =>
      refine ⟨"", "", Or.inl rfl, fun text => ?_⟩
      rw [List.nil_append, Text.join, String.intercalate_singleton, String.empty_append,
        String.append_empty]
    | cons next rest =>
      refine ⟨"", separator ++ Text.join separator (next :: rest), Or.inr ⟨_, rfl⟩, fun text => ?_⟩
      rw [List.nil_append, Text.join, String.intercalate_cons_cons, String.empty_append,
        String.append_assoc, Text.join]
  | cons first rest inductionHypothesis =>
    obtain ⟨before, after, ends, same⟩ := inductionHypothesis
    refine ⟨first ++ separator ++ before, after, ends, fun text => ?_⟩
    have joined : Text.join separator (first :: (rest ++ text :: later)) =
        first ++ separator ++ Text.join separator (rest ++ text :: later) := by
      cases rest with
      | nil => exact String.intercalate_cons_cons
      | cons second others => exact String.intercalate_cons_cons
    rw [List.cons_append, joined, same]
    simp only [String.append_assoc]

/-- Joining the texts with commas leaves the literal in its place. -/
theorem OneHasLiteral.join {written : String → List String} (inside : OneHasLiteral written) :
    HasLiteral fun content => Text.join ", " (written content) := by
  obtain ⟨earlier, later, text, literal, same⟩ := inside
  obtain ⟨before, after, ends, joined⟩ := exists_join_middle ", " earlier later
  have apart : after.toList.head? ≠ some '\'' := by
    rcases ends with rfl | ⟨more, rfl⟩
    · decide
    · rw [String.toList_append]
      simp
  simp only [same, joined]
  exact literal.surround before after apart

theorem OneHasLiteral.append {written : String → List String} (inside : OneHasLiteral written)
    (others : List String) : OneHasLiteral fun content => written content ++ others := by
  obtain ⟨earlier, later, text, literal, same⟩ := inside
  refine ⟨earlier, later ++ others, text, literal, fun content => ?_⟩
  show written content ++ others = _
  rw [same, List.append_assoc, List.cons_append]

/-! ### Texts of a declaration -/

/-- Where the declaration of a column has a text. -/
inductive Column.TextPlace where
  | default
  | comment

/-- The column with a text at a place. -/
def Column.withText (column : Column) : TextPlace → String → Column
  | .default, content => { column with default := some (.text content) }
  | .comment, content => { column with comment := some content }

namespace Definition

variable (dialect : Dialect)

theorem commentTable_hasLiteral (table : String) :
    Uniformly HasLiteral fun content => (commentTable table content).sql dialect := by
  refine Uniformly.bindFixed (dialect.nameText table) fun name => Uniformly.ok ?_
  exact ⟨"COMMENT ON TABLE " ++ name ++ " IS ", "", by decide, fun _ => String.append_empty.symm⟩

theorem commentColumn_hasLiteral (table column : String) :
    Uniformly HasLiteral fun content => (commentColumn table column content).sql dialect := by
  refine Uniformly.bindFixed (pairText dialect "COMMENT ON COLUMN " table "." column) fun names =>
    Uniformly.ok ?_
  exact ⟨names ++ " IS ", "", by decide, fun _ => String.append_empty.symm⟩

/-- The default of a column is a literal inside the text of the column. A column that the database
numbers is refused whatever the default. -/
theorem columnText_hasLiteral (table : Table) (column : Column) :
    Uniformly HasLiteral fun content =>
      dialect.columnText table (column.withText .default content) := by
  refine Uniformly.bindFixed (dialect.nameText column.name) fun name => ?_
  refine Uniformly.bindFixed (Error.ofColumn column (dialect.columnType column))
    fun columnType => ?_
  let required := if table.allowsNull column then "" else " NOT NULL"
  let check := (dialect.checkCondition? column name).elim "" fun condition =>
    " CHECK (" ++ condition ++ ")"
  have apart : (required ++ check).toList.head? ≠ some '\'' := by
    simp only [required, check]
    split
    · cases dialect.checkCondition? column name with
      | none => decide
      | some condition => simp [String.toList_append]
    · simp [String.toList_append]
  cases numbered : column.identity with
  | true =>
    refine Or.inl ⟨.validation (.column column.name .identityDefault), fun content => ?_⟩
    simp only [Column.withText, numbered, Option.isSome_some, Bool.and_true, if_true]
    rfl
  | false =>
    refine Or.inr ⟨fun content => name ++ " " ++ columnType.sql ++
        (" DEFAULT " ++ literal content) ++ required ++ check,
      ⟨name ++ " " ++ columnType.sql ++ " DEFAULT ", required ++ check, apart,
        fun content => by simp only [String.append_assoc]⟩, fun content => ?_⟩
    have clause : dialect.defaultClause table (column.withText .default content) =
        .ok (" DEFAULT " ++ literal content) := by
      simp only [Dialect.defaultClause, Column.withText, numbered, Bool.false_and,
        Bool.false_eq_true, if_false]
      rfl
    have identity : (column.withText .default content).identity = false := numbered
    simp only [identity, Bool.false_and, Bool.false_eq_true, if_false, clause]
    rfl

/-- The default stays a literal in the definition of the table that has the column. -/
theorem createTable_hasLiteral (table : Table) (earlier later : List Column) (column : Column) :
    Uniformly HasLiteral fun content =>
      (createTable { table with
        columns := earlier ++ column.withText .default content :: later }).sql dialect := by
  show Uniformly HasLiteral fun content =>
    (earlier ++ column.withText .default content :: later).mapM (dialect.columnText table) >>=
      fun columns => do
        let key ← table.primaryKey.toList.mapM (primaryKeyText dialect table.name)
        let name ← dialect.nameText table.name
        .ok ("CREATE TABLE " ++ name ++ " (" ++ Text.join ", " (columns ++ key) ++ ")")
  refine Uniformly.bind
    (Uniformly.mapM_middle (columnText_hasLiteral dialect table column) earlier later)
    fun columns inside => ?_
  refine Uniformly.bindFixed (table.primaryKey.toList.mapM (primaryKeyText dialect table.name))
    fun key => ?_
  refine Uniformly.bindFixed (dialect.nameText table.name) fun name => Uniformly.ok ?_
  exact (inside.append key).join.surround ("CREATE TABLE " ++ name ++ " (") ")" (by decide)

/-- So it does in the definition that adds the column. -/
theorem addColumn_hasLiteral (table : Table) (columns : String → List Column) (column : Column) :
    Uniformly HasLiteral fun content =>
      (addColumn { table with columns := columns content }
        (column.withText .default content)).sql dialect := by
  refine Uniformly.bindFixed (dialect.nameText table.name) fun name => ?_
  refine Uniformly.bind (columnText_hasLiteral dialect table column) fun text inside =>
    Uniformly.ok ?_
  exact inside.surround ("ALTER TABLE " ++ name ++ " ADD (") ")" (by decide)

/-- Comments do not show in the definition of the table. -/
theorem sql_createTable_comment (table : Table) (comment : Option String) :
    (createTable { table with comment }).sql dialect = (createTable table).sql dialect :=
  rfl

theorem sql_createTable_withText_comment (table : Table) (earlier later : List Column)
    (column : Column) (content : String) :
    (createTable { table with
        columns := earlier ++ column.withText .comment content :: later }).sql dialect =
      (createTable { table with columns := earlier ++ column :: later }).sql dialect := by
  show tableText _ _ = tableText _ _
  simp only [tableText, List.mapM_append, List.mapM_cons]
  rfl

theorem sql_addColumn_withText_comment (table : Table) (columns : String → List Column)
    (column : Column) (content : String) :
    (addColumn { table with columns := columns content }
        (column.withText .comment content)).sql dialect =
      (addColumn table column).sql dialect :=
  rfl

end Definition

/-! ### Texts of steps -/

namespace Dialect

variable (dialect : Dialect)

/-- The texts of the steps of definitions. -/
def texts (definitions : List Definition) : Except Error (List String) :=
  (dialect.steps definitions).map (List.map MigrationStep.sql)

theorem texts_eq_mapM (definitions : List Definition) :
    dialect.texts definitions = definitions.mapM (Definition.sql dialect) := by
  induction definitions with
  | nil => rfl
  | cons definition rest inductionHypothesis =>
    rw [List.mapM_cons, ← inductionHypothesis, texts, texts, steps, steps, List.mapM_cons, step]
    cases definition.sql dialect with
    | error error => rfl
    | ok sql =>
      cases rest.mapM dialect.step with
      | error error => rfl
      | ok steps => rfl

/-- A definition may stand for another one with the same text. -/
theorem texts_congr {definition other : Definition}
    (same : definition.sql dialect = other.sql dialect) (earlier later : List Definition) :
    dialect.texts (earlier ++ definition :: later) = dialect.texts (earlier ++ other :: later) := by
  simp only [texts_eq_mapM, List.mapM_append, List.mapM_cons, same]

/-- Of a row of definitions with one text for each content, one step has the literal. -/
theorem texts_hasLiteral {definition : String → Definition}
    (inside : Uniformly HasLiteral fun content => (definition content).sql dialect)
    (earlier later : List Definition) :
    Uniformly OneHasLiteral fun content =>
      dialect.texts (earlier ++ definition content :: later) := by
  simp only [texts_eq_mapM]
  exact Uniformly.mapM_middle inside earlier later

theorem tableDefinitions_hasLiteral_of_comment (table : Table) :
    Uniformly OneHasLiteral fun content =>
      dialect.texts (dialect.tableDefinitions { table with comment := some content }) := by
  let sequences := table.columns.flatMap (·.sequenceDefinitions table.name)
  let others := table.columns.flatMap (dialect.triggerDefinitions table.name) ++
    table.indexes.map (.createIndex table.name)
  let comments := table.columns.flatMap (·.commentDefinitions table.name)
  have same (content : String) :
      dialect.texts (dialect.tableDefinitions { table with comment := some content }) =
        dialect.texts ((sequences ++ .createTable table :: others) ++
          .commentTable table.name content :: comments) := by
    have row : dialect.tableDefinitions { table with comment := some content } =
        sequences ++ .createTable { table with comment := some content } ::
          (others ++ .commentTable table.name content :: comments) := by
      simp [tableDefinitions, sequences, others, comments]
    rw [row, dialect.texts_congr (Definition.sql_createTable_comment dialect table _)]
    simp only [List.append_assoc, List.cons_append]
  simp only [same]
  exact dialect.texts_hasLiteral (Definition.commentTable_hasLiteral dialect table.name) _ _

/-- What numbers the rows of a column does not depend on its texts. -/
theorem sequenceDefinitions_withText (table : String) (column : Column) (place : Column.TextPlace)
    (content : String) :
    (column.withText place content).sequenceDefinitions table =
      column.sequenceDefinitions table := by
  cases place <;> rfl

theorem triggerDefinitions_withText (table : String) (column : Column) (place : Column.TextPlace)
    (content : String) :
    dialect.triggerDefinitions table (column.withText place content) =
      dialect.triggerDefinitions table column := by
  cases place <;> rfl

/-- A column with a text is defined and then commented on: a default is in the first definition,
which does not show a comment, and a comment in the second. -/
theorem texts_hasLiteral_of_place (made : Column.TextPlace → String → Definition)
    {plain : Definition} (table : String) (column : Column)
    (default : Uniformly HasLiteral fun content => (made .default content).sql dialect)
    (comment : ∀ content, (made .comment content).sql dialect = plain.sql dialect)
    (place : Column.TextPlace) (earlier between later : List Definition) :
    Uniformly OneHasLiteral fun content => dialect.texts (earlier ++ made place content ::
      (between ++ ((column.withText place content).commentDefinitions table ++ later))) := by
  cases place with
  | default =>
    -- The comments on the column do not see its default.
    show Uniformly OneHasLiteral fun content => dialect.texts (earlier ++ made .default content ::
      (between ++ (column.commentDefinitions table ++ later)))
    exact dialect.texts_hasLiteral default _ _
  | comment =>
    have same (content : String) :
        dialect.texts (earlier ++ made .comment content ::
            (between ++ ((column.withText .comment content).commentDefinitions table ++ later))) =
          dialect.texts ((earlier ++ plain :: between) ++
            .commentColumn table column.name content :: later) := by
      rw [dialect.texts_congr (comment content), List.append_assoc, List.cons_append]
      rfl
    simp only [same]
    exact dialect.texts_hasLiteral
      (Definition.commentColumn_hasLiteral dialect table column.name) _ _

theorem tableDefinitions_hasLiteral_of_column (table : Table) (place : Column.TextPlace)
    (earlier later : List Column) (column : Column) :
    Uniformly OneHasLiteral fun content => dialect.texts (dialect.tableDefinitions
      { table with columns := earlier ++ column.withText place content :: later }) := by
  let columns := earlier ++ column :: later
  let between := columns.flatMap (dialect.triggerDefinitions table.name) ++
    table.indexes.map (.createIndex table.name) ++
    table.comment.toList.map (.commentTable table.name) ++
    earlier.flatMap (·.commentDefinitions table.name)
  have row (content : String) :
      dialect.tableDefinitions
          { table with columns := earlier ++ column.withText place content :: later } =
        columns.flatMap (·.sequenceDefinitions table.name) ++ .createTable
          { table with columns := earlier ++ column.withText place content :: later } ::
            (between ++ ((column.withText place content).commentDefinitions table.name ++
              later.flatMap (·.commentDefinitions table.name))) := by
    simp [tableDefinitions, between, columns, sequenceDefinitions_withText,
      triggerDefinitions_withText]
  simp only [row]
  exact dialect.texts_hasLiteral_of_place (fun place content => .createTable
      { table with columns := earlier ++ column.withText place content :: later })
    table.name column (Definition.createTable_hasLiteral dialect table earlier later column)
    (Definition.sql_createTable_withText_comment dialect table earlier later column) place _ _ _

theorem columnDefinitions_hasLiteral (table : Table) (columns : String → List Column)
    (place : Column.TextPlace) (column : Column) :
    Uniformly OneHasLiteral fun content => dialect.texts (dialect.columnDefinitions
      { table with columns := columns content } (column.withText place content)) := by
  have row (content : String) :
      dialect.columnDefinitions { table with columns := columns content }
          (column.withText place content) =
        column.sequenceDefinitions table.name ++
          .addColumn { table with columns := columns content } (column.withText place content) ::
            (dialect.triggerDefinitions table.name column ++
              ((column.withText place content).commentDefinitions table.name ++ [])) := by
    simp [columnDefinitions, sequenceDefinitions_withText, triggerDefinitions_withText]
  simp only [row]
  exact dialect.texts_hasLiteral_of_place (fun place content => .addColumn
      { table with columns := columns content } (column.withText place content))
    table.name column (Definition.addColumn_hasLiteral dialect table columns column)
    (Definition.sql_addColumn_withText_comment dialect table columns column) place _ _ _

/-- Whatever the content, the draft is the same error, or else it is the same texts but for one, and
this one has the content as a literal between the same beginning and the same end. -/
def Isolates (draft : String → Except Error (List String)) : Prop :=
  (∃ error, ∀ content, draft content = .error error) ∨
    ∃ earlier later before after, ∀ content, ∃ text,
      draft content = .ok (earlier ++ text :: later) ∧ Quotes content before after text

theorem isolates_of_hasLiteral {draft : String → Except Error (List String)}
    (inside : Uniformly OneHasLiteral draft) : Isolates draft := by
  refine inside.imp_right ?_
  rintro ⟨written, ⟨earlier, later, text, ⟨before, after, apart, same⟩, row⟩, drafted⟩
  refine ⟨earlier, later, before.toList, after.toList, fun content => ⟨text content, ?_, ?_⟩⟩
  · rw [drafted, row]
  · rw [same]
    exact quotes_literal content before after apart

/-- **No text leaves its literal.** Where a table, or one column of a table, is declared with a text
as comment or default, and the table is created, the column added or the comment set, then for every
text the same steps are written, or the same error is given. One step has the text as a literal that
ends for the reader at its closing quote and stands for the text; what this step says before and
behind the literal, and the other steps, are the same for all texts. -/
theorem literals_are_isolated (dialect : Dialect) (table : Table) :
    Isolates (fun content =>
        dialect.texts (dialect.tableDefinitions { table with comment := some content })) ∧
      (∀ (column : Column) (place : Column.TextPlace),
        (∀ earlier later, Isolates fun content =>
          dialect.texts (dialect.tableDefinitions
            { table with columns := earlier ++ column.withText place content :: later })) ∧
        ∀ columns : String → List Column, Isolates fun content =>
          dialect.texts (dialect.columnDefinitions { table with columns := columns content }
            (column.withText place content))) ∧
      (Isolates fun content => dialect.texts [.commentTable table.name content]) ∧
      ∀ column, Isolates fun content =>
        dialect.texts [.commentColumn table.name column content] := by
  refine ⟨?_, fun column place => ⟨fun earlier later => ?_, fun columns => ?_⟩, ?_,
    fun column => ?_⟩
  · exact isolates_of_hasLiteral (dialect.tableDefinitions_hasLiteral_of_comment table)
  · exact isolates_of_hasLiteral
      (dialect.tableDefinitions_hasLiteral_of_column table place earlier later column)
  · exact isolates_of_hasLiteral (dialect.columnDefinitions_hasLiteral table columns place column)
  · exact isolates_of_hasLiteral (dialect.texts_hasLiteral
      (Definition.commentTable_hasLiteral dialect table.name) [] [])
  · exact isolates_of_hasLiteral (dialect.texts_hasLiteral
      (Definition.commentColumn_hasLiteral dialect table.name column) [] [])

/-- A default that would end its literal and hide the rest of the step behind dashes. -/
example :
    let column : Column := { name := "title", fieldType := .string, size := some 9 }
    ({} : Dialect).texts (({} : Dialect).columnDefinitions { name := "items", columns := [column] }
      (column.withText .default "') --")) =
        .ok ["ALTER TABLE \"ITEMS\" ADD (\"TITLE\" VARCHAR2(9 CHAR) DEFAULT ''') --')"] := by
  decide +kernel

end Dialect

end OracleSql
