/-
This file follows a statement through its pieces without a look at its values. At each place of the
text it is known what may come next: a marker stands only where no identifier and no other marker
ends, a name in quotes is over only at a quote, and once a column is returned no value comes any
more. `Place` has these states and `Leads` says that pieces are allowed from a place on and where
they end.

Places are ordered by what they allow. What is allowed at a place is allowed at every freer place,
so pieces are put together by looking at their ends only.
-/

import OracleSql.Piece

namespace OracleSql

/-! ### Signs -/

/-- What a character or a piece is to the reader of markers. -/
inductive Sign where
  /-- A character that ends words, names and markers. -/
  | separator
  /-- A character that a marker's name could go on with. -/
  | word
  /-- The double quote. -/
  | quote
  /-- Any other character; it stands in quoted names only. -/
  | other
  | value
  | out
  /-- A value under a name of its own. -/
  | foreign
  deriving DecidableEq

/-- The characters that stand between words, names and markers. -/
def isSeparator (letter : Char) : Bool :=
  [' ', '(', ')', ',', '.', '=', '<', '>', '*'].contains letter

/-- The sign of a character. -/
def Sign.ofLetter (letter : Char) : Sign :=
  if isSeparator letter then separator
  else if letter = '"' then quote
  else if Marker.isNameChar letter then word
  else other

theorem Sign.ofLetter_cases (letter : Char) :
    ofLetter letter = separator ∨ ofLetter letter = quote ∨ ofLetter letter = word ∨
      ofLetter letter = other := by
  unfold ofLetter
  split
  · exact Or.inl rfl
  · split
    · exact Or.inr (Or.inl rfl)
    · split
      · exact Or.inr (Or.inr (Or.inl rfl))
      · exact Or.inr (Or.inr (Or.inr rfl))

theorem Sign.ofLetter_eq_separator (letter : Char) :
    ofLetter letter = separator ↔ isSeparator letter = true := by
  unfold ofLetter
  split
  · exact iff_of_true rfl ‹_›
  · refine iff_of_false ?_ ‹_›
    split
    · decide
    · split <;> decide

theorem Sign.ofLetter_eq_quote (letter : Char) : ofLetter letter = quote ↔ letter = '"' := by
  constructor
  · intro same
    unfold ofLetter at same
    split at same
    · cases same
    · split at same
      · assumption
      · split at same <;> cases same
  · rintro rfl
    decide

theorem Sign.isNameChar_of_word (letter : Char) (word : ofLetter letter = .word) :
    Marker.isNameChar letter = true := by
  unfold ofLetter at word
  split at word
  · cases word
  · split at word
    · cases word
    · split at word
      · assumption
      · cases word

/-- The signs of a piece. -/
def Piece.signs : Piece → List Sign
  | text sql => sql.toList.map Sign.ofLetter
  | value _ => [.value]
  | named _ _ => [.foreign]
  | out _ _ _ => [.out]

/-! ### Places -/

/-- Where a reader of a statement can stand. -/
inductive Place where
  /-- Right after the place of a returned column. -/
  | returned
  /-- Between places of returned columns. -/
  | listed
  /-- Right after a marker or a quoted name. -/
  | tight
  /-- Inside or right after a word. -/
  | word
  /-- Where a marker can stand. -/
  | free
  /-- Inside a quoted name. -/
  | quoted
  deriving DecidableEq

namespace Place

/-- The place after one more sign, if the sign is allowed. -/
def step : Place → Sign → Option Place
  | quoted, .quote => some tight
  | quoted, .separator => some quoted
  | quoted, .word => some quoted
  | quoted, .other => some quoted
  | free, .separator => some free
  | free, .word => some word
  | free, .quote => some quoted
  | free, .value => some tight
  | free, .out => some returned
  | word, .separator => some free
  | word, .word => some word
  | tight, .separator => some free
  | listed, .separator => some listed
  | listed, .out => some returned
  | returned, .separator => some listed
  | _, _ => none

/-- Whether all that is allowed at the first place is allowed at the second one. -/
def le : Place → Place → Bool
  | quoted, quoted => true
  | quoted, _ => false
  | _, quoted => false
  | returned, _ => true
  | _, free => true
  | tight, word => true
  | left, right => left = right

/-- The place after signs, if they are allowed. -/
def run (place : Place) (signs : List Sign) : Option Place :=
  signs.foldlM step place

theorem le_refl (place : Place) : place.le place = true := by
  cases place <;> rfl

theorem le_trans {left middle right : Place} (first : left.le middle = true)
    (second : middle.le right = true) : left.le right = true := by
  cases left <;> cases middle <;> cases first <;> cases right <;> cases second <;> rfl

/-- A sign leads from a freer place to a freer place. -/
theorem step_mono {left right final : Place} (freer : left.le right = true) (sign : Sign)
    (stepped : left.step sign = some final) :
    ∃ other, right.step sign = some other ∧ final.le other = true := by
  cases left <;> cases right <;> cases freer <;> cases sign <;> cases stepped <;>
    exact ⟨_, rfl, rfl⟩

theorem run_mono {left right final : Place} (freer : left.le right = true) (signs : List Sign)
    (ran : left.run signs = some final) :
    ∃ other, right.run signs = some other ∧ final.le other = true := by
  induction signs generalizing left right with
  | nil =>
    cases ran
    exact ⟨right, rfl, freer⟩
  | cons sign rest inductionHypothesis =>
    rw [run, List.foldlM_cons, Option.bind_eq_bind, Option.bind_eq_some_iff] at ran
    obtain ⟨next, stepped, ran⟩ := ran
    obtain ⟨other, steppedToo, freer⟩ := step_mono freer sign stepped
    obtain ⟨end', ranToo, freer⟩ := inductionHypothesis freer ran
    refine ⟨end', ?_, freer⟩
    rw [run, List.foldlM_cons, Option.bind_eq_bind, steppedToo]
    exact ranToo

/-- Once a column is returned, nothing but returned columns follows. -/
theorem run_late {place final : Place} (signs : List Sign) (ran : place.run signs = some final)
    (late : place = listed ∨ place = returned) : final = listed ∨ final = returned := by
  induction signs generalizing place with
  | nil =>
    cases ran
    exact late
  | cons sign rest inductionHypothesis =>
    rw [run, List.foldlM_cons, Option.bind_eq_bind, Option.bind_eq_some_iff] at ran
    obtain ⟨next, stepped, ran⟩ := ran
    refine inductionHypothesis ran ?_
    rcases late with rfl | rfl <;> cases sign <;> cases stepped
    · exact Or.inl rfl
    · exact Or.inr rfl
    · exact Or.inl rfl

theorem run_append (place : Place) (first second : List Sign) :
    place.run (first ++ second) = (place.run first).bind (run · second) := by
  rw [run, List.foldlM_append]
  rfl

end Place

/-! ### Pieces -/

/-- Pieces are allowed from a place on, and lead to the other place or a freer one. -/
def Leads (start : Place) (pieces : List Piece) (final : Place) : Prop :=
  (start.run (pieces.flatMap Piece.signs)).any final.le = true

instance (start final : Place) (pieces : List Piece) : Decidable (Leads start pieces final) :=
  inferInstanceAs (Decidable (_ = true))

namespace Leads

variable {start middle final : Place} {pieces further : List Piece}

theorem iff_run : Leads start pieces final ↔
    ∃ place, start.run (pieces.flatMap Piece.signs) = some place ∧ final.le place = true := by
  rw [Leads, Option.any_eq_true]

theorem mono {other weaker : Place} (leads : Leads start pieces final)
    (freer : start.le other = true) (tighter : weaker.le final = true) :
    Leads other pieces weaker := by
  obtain ⟨place, ran, bound⟩ := iff_run.mp leads
  obtain ⟨next, ranToo, more⟩ := Place.run_mono freer _ ran
  exact iff_run.mpr ⟨next, ranToo, Place.le_trans tighter (Place.le_trans bound more)⟩

theorem nil (tighter : final.le start = true) : Leads start [] final :=
  iff_run.mpr ⟨start, rfl, tighter⟩

theorem append (first : Leads start pieces middle) (second : Leads middle further final) :
    Leads start (pieces ++ further) final := by
  obtain ⟨place, ran, bound⟩ := iff_run.mp first
  obtain ⟨next, ranToo, more⟩ := iff_run.mp (second.mono bound (Place.le_refl final))
  refine iff_run.mpr ⟨next, ?_, more⟩
  rw [List.flatMap_append, Place.run_append, ran]
  exact ranToo

theorem cons {piece : Piece} (first : Leads start [piece] middle)
    (second : Leads middle further final) : Leads start (piece :: further) final :=
  first.append second

/-- A text is followed part by part. -/
theorem textAppend {left right : String} (first : Leads start [.text left] middle)
    (second : Leads middle [.text right] final) : Leads start [.text (left ++ right)] final := by
  have both := first.append second
  unfold Leads at both ⊢
  rw [List.flatMap_append, List.flatMap_singleton, List.flatMap_singleton] at both
  rw [List.flatMap_singleton, Piece.signs, String.toList_append, List.map_append]
  exact both

theorem enclosed {opening closing : String} {before after : Place}
    (first : Leads start [.text opening] before) (inner : Leads before pieces after)
    (last : Leads after [.text closing] final) :
    Leads start (Piece.enclosed opening closing pieces) final :=
  first.cons (inner.append last)

/-- Members that each lead from one place to another are joined by a text that leads back. -/
theorem join {separator : String} {members : List (List Piece)} (tighter : final.le start = true)
    (back : Leads final [.text separator] start)
    (each : ∀ member ∈ members, Leads start member final) :
    Leads start (Piece.join separator members) final := by
  match members with
  | [] => exact nil tighter
  | [member] => exact each member List.mem_cons_self
  | member :: next :: rest =>
    obtain ⟨first, others⟩ := List.forall_mem_cons.mp each
    exact first.append (back.cons (join tighter back others))

theorem flatten {members : List (List Piece)}
    (each : ∀ member ∈ members, Leads start member start) : Leads start members.flatten start := by
  induction members with
  | nil => exact nil (Place.le_refl start)
  | cons member rest inductionHypothesis =>
    obtain ⟨first, others⟩ := List.forall_mem_cons.mp each
    exact first.append (inductionHypothesis others)

end Leads

/-! ### Values of pieces -/

namespace Piece

/-- Whether the piece is a value. -/
def isValue : Piece → Bool
  | value _ => true
  | _ => false

/-- How many values there are among pieces. -/
def valueCount (pieces : List Piece) : Nat :=
  pieces.countP isValue

theorem valueCount_append (first second : List Piece) :
    valueCount (first ++ second) = valueCount first + valueCount second :=
  List.countP_append

theorem valueCount_text (sql : String) (pieces : List Piece) :
    valueCount (.text sql :: pieces) = valueCount pieces :=
  List.countP_cons_of_neg Bool.false_ne_true

theorem valueCount_join (separator : String) (members : List (List Piece)) :
    valueCount (join separator members) = valueCount members.flatten := by
  match members with
  | [] => rfl
  | [member] => rw [join, List.flatten_singleton]
  | member :: next :: rest =>
    have others := valueCount_join separator (next :: rest)
    rw [join_cons_cons, valueCount_append, valueCount_text, others, ← valueCount_append]
    rfl

theorem valueCount_join_eq_zero (separator : String) {members : List (List Piece)}
    (each : ∀ member ∈ members, valueCount member = 0) :
    valueCount (join separator members) = 0 := by
  rw [valueCount_join]
  induction members with
  | nil => rfl
  | cons member rest inductionHypothesis =>
    obtain ⟨first, others⟩ := List.forall_mem_cons.mp each
    rw [List.flatten_cons, valueCount_append, first, inductionHypothesis others]

end Piece

end OracleSql
