/-
This file says when the sequences and triggers of identity columns have names of their own. Such a
name is put together from the stored names of table and column with underscores between them, and
names may hold underscores themselves. So the same name can come about in two ways: where the one
table's name is the other's with an underscore and some more behind it, and the other's column
starts with just this. Unless something is shortened, there is no further way.
-/

import OracleSql.Migration.Migrator
import OracleSql.Proofs.Identifier.Grammar

namespace OracleSql

/-! ### Texts with an underscore between -/

/-- Two rows of letters around an underscore are the same text only if they are the same, or one of
them reaches over the other's underscore. -/
theorem append_underscore_eq_iff {first second other another : List Char} :
    first ++ '_' :: second = other ++ '_' :: another ↔
      (first = other ∧ second = another) ∨
        (∃ middle, other = first ++ '_' :: middle ∧ second = middle ++ '_' :: another) ∨
        ∃ middle, first = other ++ '_' :: middle ∧ another = middle ++ '_' :: second := by
  constructor
  · intro same
    rcases List.append_eq_append_iff.mp same with ⟨reach, rfl, rest⟩ | ⟨reach, rfl, rest⟩
    · cases reach with
      | nil =>
        cases rest
        exact .inl ⟨(List.append_nil _).symm, rfl⟩
      | cons letter middle =>
        cases rest
        exact .inr (.inl ⟨middle, rfl, rfl⟩)
    · cases reach with
      | nil =>
        cases rest
        exact .inl ⟨List.append_nil _, rfl⟩
      | cons letter middle =>
        cases rest
        exact .inr (.inr ⟨middle, rfl, rfl⟩)
  · rintro (⟨rfl, rfl⟩ | ⟨middle, rfl, rfl⟩ | ⟨middle, rfl, rfl⟩)
    · rfl
    · rw [List.append_assoc, List.cons_append]
    · rw [List.append_assoc, List.cons_append]

theorem toList_underscore (first second : String) :
    (first ++ "_" ++ second).toList = first.toList ++ '_' :: second.toList := by
  rw [String.toList_append, String.toList_append, List.append_assoc]
  rfl

/-! ### Stored names -/

namespace Identifier

/-- A text without the two characters that a quoted name cannot hold. -/
def Quotable (text : String) : Prop :=
  '\x00' ∉ text.toList ∧ '"' ∉ text.toList

/-- Two such texts with an underscore between them are one, and not the empty text. -/
theorem Quotable.underscore {first second : String} (front : Quotable first)
    (back : Quotable second) : Quotable (first ++ "_" ++ second) ∧ first ++ "_" ++ second ≠ "" := by
  have lacks {mark : Char} (other : mark ≠ '_') (left : mark ∉ first.toList)
      (right : mark ∉ second.toList) : mark ∉ (first ++ "_" ++ second).toList := by
    simp only [toList_underscore, List.mem_append, List.mem_cons]
    tauto
  refine ⟨⟨lacks (by decide) front.1 back.1, lacks (by decide) front.2 back.2⟩, fun none => ?_⟩
  have letters := congrArg String.toList none
  rw [toList_underscore] at letters
  exact List.append_ne_nil_of_right_ne_nil _ (List.cons_ne_nil _ _) letters

/-- A text in quotes is read as one segment with this spelling. -/
theorem parse_inQuotes {text : String} (quotable : Quotable text) (present : text ≠ "") :
    parse (inQuotes text) = .ok ⟨[.quoted text]⟩ := by
  obtain ⟨null, quote⟩ := quotable
  refine parse_eq_ok_iff.mpr ⟨?_, .single ⟨present, quote⟩ rfl, List.not_mem_nil⟩
  rw [toList_inQuotes]
  simpa using null

theorem shorten_of_fits {limit : Nat} {text : String} (fits : text.utf8ByteSize ≤ limit) :
    shorten limit text = text :=
  if_pos fits

end Identifier

namespace Dialect

variable {dialect : Dialect}

/-- A stored name has no quote and no null character. -/
theorem quotable_stored {name kept : String} (stored : dialect.stored name = .ok kept) :
    Identifier.Quotable kept := by
  have found := mapError_eq_ok.mp stored
  unfold Dialect.storedName at found
  cases read : Identifier.parse name with
  | error fault =>
    rw [read] at found
    cases found
  | ok identifier =>
    rw [read] at found
    obtain ⟨_, lacks⟩ := Identifier.parse_lacks name identifier read
    cases last : identifier.parts.getLast? with
    | none =>
      simp [Identifier.storedName?, last] at found
    | some part =>
      obtain ⟨quote, null⟩ := lacks part (List.mem_of_getLast? last)
      cases own : dialect.stored? part with
      | none => simp [Identifier.storedName?, last, own] at found
      | some spelling =>
        have same : spelling = kept := by
          simpa [Identifier.storedName?, last, own] using found
        subst same
        exact ⟨null.stored (by decide) dialect _ own, quote.stored (by decide) dialect _ own⟩

/-- A name that fits is stored as it stands. -/
theorem storedExactly_of_fits {name : String} (quotable : Identifier.Quotable name)
    (present : name ≠ "") (fits : name.utf8ByteSize ≤ dialect.maxIdentifierLength) :
    dialect.storedExactly name = .ok name := by
  have kept : dialect.stored? (.quoted name) = some name :=
    congrArg some (Identifier.shorten_of_fits fits)
  unfold storedExactly Dialect.stored Dialect.storedName
  rw [Identifier.parse_inQuotes quotable present]
  simp [Identifier.storedName?, kept, Error.ofName, Except.mapError]

end Dialect

/-! ### Numbered columns -/

/-- A column under the names by which the database keeps its table and itself. -/
structure StoredColumn where
  table : String
  column : String
  deriving DecidableEq

namespace StoredColumn

/-- What the names of all objects that belong to the column start with. -/
def stem (place : StoredColumn) : String :=
  place.table ++ "_" ++ place.column

/-- Nothing keeps the objects of two columns apart: they are stored alike, or the name of one table
goes on behind the other's with an underscore and the start of the other's column. -/
def Clashes (place other : StoredColumn) : Prop :=
  place = other ∨
    (∃ middle, other.table = place.table ++ "_" ++ middle ∧
      place.column = middle ++ "_" ++ other.column) ∨
    ∃ middle, place.table = other.table ++ "_" ++ middle ∧
      other.column = middle ++ "_" ++ place.column

/-- A text is another with an underscore and a third behind it if its letters are. -/
theorem eq_underscore_iff {text first second : String} :
    text = first ++ "_" ++ second ↔ text.toList = first.toList ++ '_' :: second.toList := by
  rw [← String.toList_inj, toList_underscore]

theorem exists_letters_iff {property : List Char → Prop} :
    (∃ middle : String, property middle.toList) ↔ ∃ letters, property letters := by
  constructor
  · rintro ⟨middle, holds⟩
    exact ⟨_, holds⟩
  · rintro ⟨letters, holds⟩
    exact ⟨String.ofList letters, by rwa [String.toList_ofList]⟩

/-- Exactly the columns that clash have the same stem. -/
theorem stem_eq_iff {place other : StoredColumn} :
    place.stem = other.stem ↔ place.Clashes other := by
  obtain ⟨table, column⟩ := place
  obtain ⟨further, another⟩ := other
  unfold stem Clashes
  simp only [mk.injEq, eq_underscore_iff, toList_underscore, append_underscore_eq_iff,
    String.toList_inj]
  exact or_congr_right (or_congr exists_letters_iff.symm exists_letters_iff.symm)

end StoredColumn

/-- The columns that the database numbers, each with the declared name of its table. -/
def numberedColumns (tables : List Table) : List (String × String) :=
  tables.flatMap fun table => table.identityColumns.map fun column => (table.name, column.name)

/-- The stored names of a column. -/
def Dialect.storedColumn (dialect : Dialect) (table column : String) :
    Except Error StoredColumn := do
  let storedTable ← dialect.stored table
  let storedColumn ← dialect.stored column
  .ok ⟨storedTable, storedColumn⟩

namespace Dialect

variable {dialect : Dialect}

/-- What the names of sequences and of triggers end in has three plain letters in either case. -/
theorem casedWord_numbering {ending : String} (numbers : ending = "seq" ∨ ending = "trg") :
    (dialect.casedWord ending).utf8ByteSize = 3 ∧
      Identifier.Quotable (dialect.casedWord ending) := by
  unfold casedWord Identifier.Quotable
  rcases numbers with rfl | rfl <;> cases dialect.identifierCase <;> decide +kernel

/-- The name of the sequence or the trigger of a column is that of a text which can be quoted. -/
theorem columnObject_eq_storedExactly {table column ending : String} {place : StoredColumn}
    (numbers : ending = "seq" ∨ ending = "trg")
    (stored : dialect.storedColumn table column = .ok place) :
    let name := place.stem ++ "_" ++ dialect.casedWord ending
    dialect.columnObject table column ending = dialect.storedExactly name ∧
      Identifier.Quotable name ∧ name ≠ "" := by
  obtain ⟨storedTable, tableStored, rest⟩ := bind_eq_ok.mp stored
  obtain ⟨storedColumn, columnStored, same⟩ := bind_eq_ok.mp rest
  cases same
  refine ⟨?_, ((quotable_stored tableStored).underscore (quotable_stored columnStored)).1.underscore
    (dialect.casedWord_numbering numbers).2⟩
  unfold columnObject
  rw [tableStored, columnStored]
  rfl

/-- The name of the sequence or the trigger of a column, where it need not be shortened. -/
theorem columnObject_eq {table column ending : String} {place : StoredColumn}
    (numbers : ending = "seq" ∨ ending = "trg")
    (stored : dialect.storedColumn table column = .ok place)
    (fits : place.stem.utf8ByteSize + 4 ≤ dialect.maxIdentifierLength) :
    dialect.columnObject table column ending =
      .ok (place.stem ++ "_" ++ dialect.casedWord ending) := by
  obtain ⟨same, quotable, present⟩ := columnObject_eq_storedExactly numbers stored
  rw [same]
  refine storedExactly_of_fits quotable present ?_
  rw [String.utf8ByteSize_append, String.utf8ByteSize_append,
    (dialect.casedWord_numbering numbers).1]
  exact fits

/-- The objects of columns have different names just if no two of the columns clash. -/
theorem nodup_columnObjects_iff (places : List StoredColumn) (ending : String) :
    (places.map fun place => place.stem ++ "_" ++ dialect.casedWord ending).Nodup ↔
      places.Pairwise fun place other => ¬ place.Clashes other := by
  unfold List.Nodup
  rw [List.pairwise_map]
  refine List.Pairwise.iff fun place other => not_congr ?_
  rw [← StoredColumn.stem_eq_iff, String.append_left_inj, String.append_left_inj]

/-- All columns that the database numbers have their sequence and their trigger. The sequences have
different names exactly if no two of the columns clash, and so have the triggers. -/
theorem numbering_names_nodup_iff (dialect : Dialect) (tables : List Table)
    (places : List StoredColumn)
    (stored : (numberedColumns tables).mapM (fun column =>
      dialect.storedColumn column.1 column.2) = .ok places)
    (fits : ∀ place ∈ places, place.stem.utf8ByteSize + 4 ≤ dialect.maxIdentifierLength) :
    ∃ sequences triggers,
      (numberedColumns tables).mapM (fun column => dialect.sequenceName column.1 column.2) =
        .ok sequences ∧
      (numberedColumns tables).mapM (fun column => dialect.triggerName column.1 column.2) =
        .ok triggers ∧
      (sequences.Nodup ↔ places.Pairwise fun place other => ¬ place.Clashes other) ∧
      (triggers.Nodup ↔ places.Pairwise fun place other => ¬ place.Clashes other) := by
  have named {ending : String} (numbers : ending = "seq" ∨ ending = "trg") :
      (numberedColumns tables).mapM (fun column =>
        dialect.columnObject column.1 column.2 ending) =
        .ok (places.map fun place => place.stem ++ "_" ++ dialect.casedWord ending) := by
    obtain ⟨pairs, declared, kept, each⟩ := exists_pairs_of_forall₂ (mapM_eq_ok_iff.mp stored)
    rw [mapM_eq_ok_iff, ← declared, ← kept, List.map_map, List.forall₂_map_left_iff,
      List.forall₂_map_right_iff, List.forall₂_same]
    intro pair member
    exact columnObject_eq numbers (each pair member)
      (fits pair.2 (kept ▸ List.mem_map_of_mem member))
  exact ⟨_, _, named (.inl rfl), named (.inr rfl), nodup_columnObjects_iff places "seq",
    nodup_columnObjects_iff places "trg"⟩

/-- A table with a column that the database numbers. -/
def numberedTable (name column : String) : Table where
  name
  columns := [{ name := column, fieldType := .int64, identity := true }]

/-- Two tables whose objects have names of their own. -/
theorem numbering_names_nodup_iff_users_orders :
    ∃ sequences triggers,
      (numberedColumns [numberedTable "users" "id", numberedTable "users_old" "id"]).mapM
        (fun column => ({} : Dialect).sequenceName column.1 column.2) = .ok sequences ∧
      (numberedColumns [numberedTable "users" "id", numberedTable "users_old" "id"]).mapM
        (fun column => ({} : Dialect).triggerName column.1 column.2) = .ok triggers ∧
      sequences.Nodup ∧ triggers.Nodup := by
  have apart : [StoredColumn.mk "USERS" "ID", ⟨"USERS_OLD", "ID"⟩].Pairwise
      fun place other => ¬ place.Clashes other := by
    simp only [← StoredColumn.stem_eq_iff]
    decide
  obtain ⟨sequences, triggers, sequenced, triggered, first, second⟩ :=
    numbering_names_nodup_iff {} [numberedTable "users" "id", numberedTable "users_old" "id"]
      [⟨"USERS", "ID"⟩, ⟨"USERS_OLD", "ID"⟩] (by decide +kernel) (by decide +kernel)
  exact ⟨sequences, triggers, sequenced, triggered, first.mpr apart, second.mpr apart⟩

/-- **Two tables share a sequence.** Both declarations are accepted and the tables have different
names, but their numbered columns get the same sequence and the same trigger; to drop the one table
drops the sequence of the other. -/
theorem numbering_names_shared :
    let dialect : Dialect := {}
    let tables := [numberedTable "a_b" "c", numberedTable "a" "b_c"]
    dialect.check = .ok () ∧ tables.forM dialect.checkTable = .ok () ∧
      tables.mapM (fun table => dialect.stored table.name) = .ok ["A_B", "A"] ∧
      (numberedColumns tables).mapM (fun column => dialect.sequenceName column.1 column.2) =
        .ok ["A_B_C_SEQ", "A_B_C_SEQ"] ∧
      (numberedColumns tables).mapM (fun column => dialect.triggerName column.1 column.2) =
        .ok ["A_B_C_TRG", "A_B_C_TRG"] ∧
      (Definition.createSequence "a" "b_c").sql dialect =
        .ok "CREATE SEQUENCE \"A_B_C_SEQ\" START WITH 1 INCREMENT BY 1" ∧
      (Definition.dropSequence "a_b" "c").sql dialect = .ok "DROP SEQUENCE \"A_B_C_SEQ\"" := by
  decide +kernel

end Dialect

end OracleSql
