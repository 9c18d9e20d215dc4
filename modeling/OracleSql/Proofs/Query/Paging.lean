/-
This file shows that the two ways to write a page select the same rows. The query inside is the same
for both. Around it stand clauses that a server reads as a window, and the values bound in them are
the numbers of the page, also where these are bound as decimals because they are too great for a
signed integer. The window holds the rows after the skipped ones, as many as the limit says. Only
the way with ROWNUM needs the number of the last row, and it refuses a page whose last row has none.

The pages of one size cut the rows into parts. A page that would start past the numbers of 64 bits
starts at the greatest of them, where there is no row left.
-/

import OracleSql.Proofs.Condition.Predicate
import OracleSql.Proofs.Condition.Tree
import OracleSql.Proofs.Query.Parts
import OracleSql.Proofs.Query.Window

namespace OracleSql

/-! ### The query inside -/

/-- The dialect with its pages written in the style. -/
def Dialect.paged (dialect : Dialect) (style : PageStyle) : Dialect :=
  { dialect with pageStyle := style }

section

variable (dialect : Dialect) (style : PageStyle)

theorem Dialect.fill_paged (args : Args) (unused : List Value)
    (lexemes : List Marker.Lexeme) :
    (dialect.paged style).fill args unused lexemes = dialect.fill args unused lexemes :=
  fill_congr (dialect.paged style) dialect args args rfl rfl (fun _ _ => rfl) unused

theorem Dialect.fragment_paged (sql : String) (args : Args) :
    (dialect.paged style).fragment sql args = dialect.fragment sql args := by
  unfold fragment
  simp only [fill_paged]

namespace Condition

theorem partPieces_paged (wanted : Condition → Bool) (parts : List Condition)
    (each : ∀ part ∈ parts, part.pieces (dialect.paged style) = part.pieces dialect) :
    partPieces (dialect.paged style) wanted parts = partPieces dialect wanted parts := by
  induction parts with
  | nil => rfl
  | cons part rest inductionHypothesis =>
    obtain ⟨first, others⟩ := List.forall_mem_cons.mp each
    rw [partPieces, partPieces, first, inductionHypothesis others]

theorem pieces_paged (condition : Condition) :
    condition.pieces (dialect.paged style) = condition.pieces dialect := by
  induction condition with
  | all parts inductionHypothesis =>
    rw [pieces, pieces, partPieces_paged dialect style _ parts inductionHypothesis]
  | any parts inductionHypothesis =>
    rw [pieces, pieces, partPieces_paged dialect style _ parts inductionHypothesis]
  | negation inner inductionHypothesis => rw [pieces, pieces, inductionHypothesis]
  | template sql values => rw [pieces, pieces, dialect.fragment_paged]
  | fragment sql => rw [pieces, pieces, dialect.fragment_paged]
  | always | never => rw [pieces, pieces]
  | _ =>
    rw [pieces, pieces]
    rfl

end Condition

theorem Filter.clause_paged (keyword : String) (filter : Filter) :
    filter.clause (dialect.paged style) keyword = filter.clause dialect keyword := by
  unfold clause pieces
  rw [Condition.partPieces_paged dialect style _ _
    fun condition _ => condition.pieces_paged dialect style]

theorem SelectItem.pieces_paged :
    SelectItem.pieces (dialect.paged style) = SelectItem.pieces dialect := by
  funext item
  cases item with
  | column name => rfl
  | expression sql => exact dialect.fragment_paged style sql {}

theorem Join.pieces_paged : Join.pieces (dialect.paged style) = Join.pieces dialect := by
  funext join
  unfold pieces
  rw [join.on.pieces_paged]
  rfl

theorem SortKey.pieces_paged : SortKey.pieces (dialect.paged style) = SortKey.pieces dialect := by
  funext key
  cases key with
  | ascending column => rfl
  | descending column => rfl
  | expression sql => exact dialect.fragment_paged style sql {}

/-- The query of all rows is the same, whatever pages look like. -/
theorem Select.allPieces_paged (select : Select) :
    select.allPieces (dialect.paged style) = select.allPieces dialect := by
  have columns : select.columnPieces (dialect.paged style) = select.columnPieces dialect := by
    unfold columnPieces SelectItem.listPieces
    rw [SelectItem.pieces_paged]
  have body : select.bodyPieces (dialect.paged style) = select.bodyPieces dialect := by
    unfold bodyPieces listClause SelectItem.listPieces
    rw [Join.pieces_paged, SelectItem.pieces_paged, Filter.clause_paged, Filter.clause_paged]
    rfl
  have order : select.orderPieces (dialect.paged style) = select.orderPieces dialect := by
    unfold orderPieces
    rw [SortKey.pieces_paged]
  unfold allPieces
  rw [columns, body, order]

end

/-! ### The window of a page -/

/-- Pieces around a query are read as the window, and apart from the query between them: whatever
tokens this makes, they stay the same. -/
structure Window.Surrounds (window : Window) (before behind : List Piece) : Prop where
  read : ofTokens? (Piece.tokens before) (Piece.tokens behind) = some window
  apart : ∀ {inner : List Piece} {made : List Token},
    tokens? (inner.flatMap Piece.glyphs) = some made →
    tokens? ((before ++ inner ++ behind).flatMap Piece.glyphs) =
      some (Piece.tokens before ++ made ++ Piece.tokens behind)

/-- A text that ends between two tokens before a query, and one that starts with a separator behind
it, leave its tokens as they are. -/
theorem Window.Surrounds.ofSeparator {window : Window} {before others : List Piece}
    {first last : List Token} {sql : String} {letter : Char} {rest : List Glyph}
    (opened : Scanner.between.scan (before.flatMap Piece.glyphs) = some (first, .between))
    (closed : tokens? ((.text sql :: others).flatMap Piece.glyphs) = some last)
    (spelled : letters sql = .letter letter :: rest) (separates : letter ∈ Scanner.separators)
    (read : ofTokens? first last = some window) :
    window.Surrounds before (.text sql :: others) := by
  have front : Piece.tokens before = first := by
    rw [Piece.tokens, tokens?_of_scan opened, Option.getD_some]
  have back : Piece.tokens (.text sql :: others) = last := by
    rw [Piece.tokens, closed, Option.getD_some]
  refine ⟨by rw [front, back, read], fun made => ?_⟩
  rw [List.flatMap_append, List.flatMap_append, List.append_assoc, List.append_assoc, front, back]
  refine tokens?_append opened ?_
  obtain ⟨more, final, left, scanned, stopped, rfl⟩ := tokens?_eq_some.mp closed
  rw [List.flatMap_cons, Piece.glyphs, spelled, List.cons_append] at scanned ⊢
  exact tokens?_eq_some.mpr ⟨_, final, left, scan_separated made separates scanned, stopped,
    List.append_assoc _ _ _⟩

namespace Select

/-- The statement is that of the query of all rows, with pieces around it that a server reads as the
window. -/
def Cuts (dialect : Dialect) (select : Select) (window : Window) : Prop :=
  ∃ before inner behind, select.allPieces dialect = .ok inner ∧ window.Surrounds before behind ∧
    select.build dialect = .ok (select.statement dialect "select"
      (before ++ inner ++ behind ++ select.lock.toList.map fun mode => .text mode.sql))

/-- How many rows are skipped. -/
def skipped (select : Select) : Nat :=
  (select.offset.getD 0).toNat

/-- The rows that the page asks for: those after the skipped ones, as many as the limit says. -/
def wanted {α : Type} (select : Select) (all : List α) : List α :=
  let last := select.limit.elim all.length fun count =>
    min (select.skipped + count.toNat) all.length
  rowsBetween (select.skipped + 1) last all

theorem wanted_eq {α : Type} (select : Select) (all : List α) :
    select.wanted all = rowsBetween (select.skipped + 1)
      ((select.limit.map UInt64.toNat).elim all.length fun count =>
        min (select.skipped + count) all.length) all := by
  rw [wanted]
  cases select.limit <;> rfl

/-- The statement cuts the wanted rows out, whatever rows there are. -/
def CutsWanted (dialect : Dialect) (select : Select) : Prop :=
  ∃ window, select.Cuts dialect window ∧
    ∀ (α : Type) (all : List α), window.rows all = select.wanted all

/-- The last row of the page would have a number of more than 64 bits. -/
def PassesRange (select : Select) : Prop :=
  ∃ count, select.limit = some count ∧ UInt64.size ≤ select.skipped + count.toNat

/-- The query does not lock rows of a page. -/
def LocksNoPage (select : Select) : Prop :=
  select.isPaged = true → select.lock = none

section

variable {dialect : Dialect} {select : Select} {inner : List Piece}

theorem build_locked (paged : select.isPaged = true) (locked : select.lock ≠ none) :
    select.build dialect = .error (.statement .lockedPage {}) := by
  have held : select.lock.isSome = true := Option.isSome_iff_ne_none.mpr locked
  rw [build, pagePieces, paged, if_neg (by decide), if_pos held]
  rfl

theorem build_failed {failure : Error} (separate : select.LocksNoPage)
    (failed : select.allPieces dialect = .error failure) :
    select.build dialect = .error failure := by
  rw [build, pagePieces, failed]
  by_cases paged : select.isPaged = true
  · rw [paged, separate paged]
    rfl
  · rw [Bool.not_eq_true] at paged
    rw [paged]
    rfl

/-- A query without a page skips no rows and fetches all. -/
theorem cuts_whole (unpaged : select.isPaged = false) (all : select.allPieces dialect = .ok inner) :
    select.Cuts dialect (.skipping select.skipped (select.limit.map UInt64.toNat)) := by
  have none := unpaged
  rw [isPaged, Bool.or_eq_false_iff, Option.isSome_eq_false_iff, Option.isSome_eq_false_iff,
    Option.isNone_iff_eq_none, Option.isNone_iff_eq_none] at none
  refine ⟨[], inner, [], all, ⟨?_, fun made => ?_⟩, ?_⟩
  · rw [skipped, none.1, none.2]
    rfl
  · rw [List.append_nil, List.nil_append, made]
    exact congrArg some (List.append_nil _).symm
  · rw [build, pagePieces, unpaged, all, List.append_nil]
    rfl

/-- OFFSET and FETCH are read with the numbers of the page, which are zero and none by default. -/
theorem offsetFetch_surrounds (paged : select.isPaged = true) :
    (Window.skipping select.skipped (select.limit.map UInt64.toNat)).Surrounds []
      select.offsetFetchPieces := by
  rw [isPaged] at paged
  unfold offsetFetchPieces skipped
  cases offset : select.offset with
  | none =>
    cases limit : select.limit with
    | none =>
      rw [offset, limit] at paged
      cases paged
    | some fetched =>
      have closed : tokens? ([.text " FETCH NEXT ", countPiece fetched, .text " ROWS ONLY"].flatMap
          Piece.glyphs) = some [.word "FETCH".toList, .word "NEXT".toList,
            .marker (countPiece fetched), .word "ROWS".toList, .word "ONLY".toList] := rfl
      refine .ofSeparator rfl closed rfl (by decide) ?_
      show (Option.map Option.some (toValue fetched : Value).count?).map _ = _
      rw [Value.count?_toValue]
      rfl
  | some skipped =>
    cases select.limit with
    | none =>
      have closed : tokens? ([.text " OFFSET ", countPiece skipped, .text " ROWS"].flatMap
          Piece.glyphs) = some [.word "OFFSET".toList, .marker (countPiece skipped),
            .word "ROWS".toList] := rfl
      refine .ofSeparator rfl closed rfl (by decide) ?_
      show ((toValue skipped : Value).count?).bind _ = _
      rw [Value.count?_toValue]
      rfl
    | some fetched =>
      have closed : tokens? ([.text " OFFSET ", countPiece skipped, .text " ROWS",
          .text " FETCH NEXT ", countPiece fetched, .text " ROWS ONLY"].flatMap Piece.glyphs) =
            some [.word "OFFSET".toList, .marker (countPiece skipped), .word "ROWS".toList,
              .word "FETCH".toList, .word "NEXT".toList, .marker (countPiece fetched),
              .word "ROWS".toList, .word "ONLY".toList] := rfl
      refine .ofSeparator rfl closed rfl (by decide) ?_
      show ((toValue skipped : Value).count?).bind
        (fun skipped => (Option.map Option.some (toValue fetched : Value).count?).bind _) = _
      rw [Value.count?_toValue, Value.count?_toValue]
      rfl

/-- A page is cut out by clauses, whatever its numbers are. -/
theorem cuts_offsetFetch (style : dialect.pageStyle = .offsetFetch) (separate : select.LocksNoPage)
    (all : select.allPieces dialect = .ok inner) :
    select.Cuts dialect (.skipping select.skipped (select.limit.map UInt64.toNat)) := by
  by_cases paged : select.isPaged = true
  · refine ⟨[], inner, select.offsetFetchPieces, all, offsetFetch_surrounds paged, ?_⟩
    rw [build, pagePieces, paged, all, style, separate paged]
    rfl
  · exact cuts_whole (Bool.eq_false_of_not_eq_true paged) all

/-- The text before a query whose rows are numbered. -/
def numberingText : String := "SELECT * FROM (SELECT q__.*, ROWNUM rn__ FROM ("

/-- The pieces behind a query whose rows are numbered, up to the last one if there is one. -/
def numberingClauses (last : Option UInt64) (above : UInt64) : List Piece :=
  .text ") q__" :: ((last.elim [] fun count => [.text " WHERE ROWNUM <= ", countPiece count]) ++
    [.text ") WHERE rn__ > ", countPiece above])

/-- ROWNUM is read with the number of the last row, where the page has one. -/
theorem numbering_surrounds (last : Option UInt64) (above : UInt64) :
    (Window.numbering (last.map UInt64.toNat) above.toNat).Surrounds [.text numberingText]
      (numberingClauses last above) := by
  have opened : Scanner.between.scan ([.text numberingText].flatMap Piece.glyphs) =
      some (Window.numberingHead, .between) := rfl
  cases last with
  | none =>
    have closed : tokens? ((numberingClauses none above).flatMap Piece.glyphs) =
        some [.closing, .word "q__".toList, .closing, .word "WHERE".toList, .word "rn__".toList,
          .sign '>', .marker (countPiece above)] := rfl
    refine .ofSeparator opened closed rfl (by decide) ?_
    rw [Window.ofTokens?_numberingHead]
    show Option.map _ (toValue above : Value).count? = _
    rw [Value.count?_toValue]
    rfl
  | some last =>
    have closed : tokens? ((numberingClauses (some last) above).flatMap Piece.glyphs) =
        some [.closing, .word "q__".toList, .word "WHERE".toList, .word "ROWNUM".toList, .sign '<',
          .sign '=', .marker (countPiece last), .closing, .word "WHERE".toList,
          .word "rn__".toList, .sign '>', .marker (countPiece above)] := rfl
    refine .ofSeparator opened closed rfl (by decide) ?_
    rw [Window.ofTokens?_numberingHead]
    show (toValue last : Value).count?.bind
      (fun last => Option.map (Window.numbering (some last)) (toValue above : Value).count?) = _
    rw [Value.count?_toValue, Value.count?_toValue]
    rfl

/-- The last row of a page has a number, unless that takes more than 64 bits. -/
theorem exists_last (within : ¬ select.PassesRange) (inner : List Piece) :
    ∃ last : Option UInt64,
      last.map UInt64.toNat = (select.limit.map UInt64.toNat).map (select.skipped + ·) ∧
      select.rowNumberPieces inner =
        .ok ([.text numberingText] ++ inner ++ numberingClauses last (select.offset.getD 0)) := by
  unfold rowNumberPieces
  cases limit : select.limit with
  | none => exact ⟨none, rfl, rfl⟩
  | some count =>
    have fits : (select.offset.getD 0).toNat + count.toNat < UInt64.size :=
      Nat.lt_of_not_le fun passes => within ⟨count, limit, passes⟩
    have last : lastRow (select.offset.getD 0) count = .ok (select.offset.getD 0 + count) :=
      if_pos fits
    refine ⟨some (select.offset.getD 0 + count), ?_, ?_⟩
    · rw [Option.map_some, Option.map_some, Option.map_some, UInt64.toNat_add,
        Nat.mod_eq_of_lt fits]
      rfl
    · simp only [last]
      rfl

/-- A page is cut out by numbers if its last row has one. -/
theorem cuts_rowNumber (style : dialect.pageStyle = .rowNumber) (paged : select.isPaged = true)
    (unlocked : select.lock = none) (within : ¬ select.PassesRange)
    (all : select.allPieces dialect = .ok inner) :
    select.Cuts dialect (.numbering
      ((select.limit.map UInt64.toNat).map (select.skipped + ·)) select.skipped) := by
  obtain ⟨last, number, written⟩ := exists_last within inner
  refine ⟨[.text numberingText], inner, numberingClauses last (select.offset.getD 0), all, ?_, ?_⟩
  · rw [← number]
    exact numbering_surrounds last _
  · rw [build, pagePieces, paged, unlocked, all, style]
    show (select.rowNumberPieces inner >>= _) = _
    rw [written]
    rfl

theorem cutsWanted_offsetFetch (style : dialect.pageStyle = .offsetFetch)
    (separate : select.LocksNoPage) (all : select.allPieces dialect = .ok inner) :
    select.CutsWanted dialect := by
  refine ⟨_, cuts_offsetFetch style separate all, fun α rows => ?_⟩
  exact (Window.rows_skipping _ _ rows).trans (select.wanted_eq rows).symm

theorem cutsWanted_rowNumber (style : dialect.pageStyle = .rowNumber)
    (separate : select.LocksNoPage) (within : ¬ select.PassesRange)
    (all : select.allPieces dialect = .ok inner) : select.CutsWanted dialect := by
  by_cases paged : select.isPaged = true
  · refine ⟨_, cuts_rowNumber style paged (separate paged) within all, fun α rows => ?_⟩
    exact (Window.rows_numbering _ _ rows).trans (select.wanted_eq rows).symm
  · refine ⟨_, cuts_whole (Bool.eq_false_of_not_eq_true paged) all, fun α rows => ?_⟩
    exact (Window.rows_skipping _ _ rows).trans (select.wanted_eq rows).symm

/-- A page whose last row has no number is refused. -/
theorem build_passesRange (style : dialect.pageStyle = .rowNumber)
    (separate : select.LocksNoPage) (passes : select.PassesRange)
    (all : select.allPieces dialect = .ok inner) :
    select.build dialect = .error (.statement .pageRange {}) := by
  obtain ⟨count, limit, passes⟩ := passes
  have paged : select.isPaged = true := by rw [isPaged, limit]; rfl
  have unlocked := separate paged
  have past : lastRow (select.offset.getD 0) count = .error (.statement .pageRange {}) :=
    if_neg (Nat.not_lt.mpr passes)
  rw [build, pagePieces, paged, unlocked, all, if_neg (by decide), if_neg (by decide)]
  simp only [bind, Except.bind, style, rowNumberPieces, limit, past]
  rfl

end

/-! ### The pages of one size -/

theorem toNat_saturated (number : Nat) :
    (saturated number).toNat = min number (UInt64.size - 1) := by
  rw [saturated, UInt64.toNat_ofNat']
  exact Nat.mod_eq_of_lt (lt_of_le_of_lt (min_le_right _ _) (by decide))

/-- The window of a page, counted from one. -/
def pageWindow (number size : UInt64) : Window :=
  .skipping (min ((number.toNat - 1) * size.toNat) (UInt64.size - 1)) (some size.toNat)

theorem mem_rowsBetween_range' {first last total row : Nat} :
    row ∈ rowsBetween first last (List.range' 1 total) ↔
      1 ≤ row ∧ row ≤ total ∧ first ≤ row ∧ row ≤ last := by
  simp only [rowsBetween, List.mem_map, List.mem_filter, List.mem_zipIdx_iff_le_and_getElem?_sub,
    Bool.and_eq_true, decide_eq_true_eq, Prod.exists]
  constructor
  · rintro ⟨_, number, ⟨⟨counted, found⟩, reached, within⟩, rfl⟩
    obtain ⟨bound, same⟩ := List.getElem?_eq_some_iff.mp found
    rw [List.getElem_range'] at same
    rw [List.length_range'] at bound
    omega
  · rintro ⟨counted, bound, reached, within⟩
    refine ⟨row, row, ⟨⟨counted, List.getElem?_eq_some_iff.mpr ⟨?_, ?_⟩⟩, reached, within⟩, rfl⟩
    · rw [List.length_range']
      omega
    · rw [List.getElem_range']
      omega

theorem mem_pageWindow {number size : UInt64} {total row : Nat} :
    row ∈ (pageWindow number size).rows (List.range' 1 total) ↔
      min ((number.toNat - 1) * size.toNat) (UInt64.size - 1) < row ∧
        row ≤ min ((number.toNat - 1) * size.toNat) (UInt64.size - 1) + size.toNat ∧
          row ≤ total := by
  rw [pageWindow, Window.rows_skipping, mem_rowsBetween_range', Option.elim_some,
    List.length_range']
  omega

/-- A row is on one page at most. -/
theorem pages_disjoint {first second size : UInt64} {total : Nat} (few : total < UInt64.size)
    (before : first.toNat < second.toNat) (counted : 1 ≤ first) :
    List.Disjoint ((pageWindow first size).rows (List.range' 1 total))
      ((pageWindow second size).rows (List.range' 1 total)) := by
  intro row one other
  rw [mem_pageWindow] at one other
  have apart : first.toNat - 1 + 1 ≤ second.toNat - 1 := by
    have counted : 1 ≤ first.toNat := counted
    omega
  have next : (first.toNat - 1) * size.toNat + size.toNat ≤ (second.toNat - 1) * size.toNat := by
    rw [← Nat.succ_mul]
    exact Nat.mul_le_mul_right size.toNat apart
  -- A page that starts at the greatest number has no row, so the second one starts where it should.
  omega

/-- Every row is on some page. -/
theorem exists_page {size : UInt64} (some : 1 ≤ size) {total : Nat} (few : total < UInt64.size)
    {row : Nat} (member : row ∈ List.range' 1 total) :
    ∃ number : UInt64, 1 ≤ number ∧
      row ∈ (pageWindow number size).rows (List.range' 1 total) := by
  have inside := List.mem_range'_1.mp member
  have positive : 1 ≤ size.toNat := some
  have earlier := Nat.div_mul_le_self (row - 1) size.toNat
  have later := @Nat.lt_div_mul_add (row - 1) size.toNat positive
  have least := Nat.div_le_self (row - 1) size.toNat
  have greatest : UInt64.size = 2 ^ 64 := rfl
  have number : (UInt64.ofNat ((row - 1) / size.toNat + 1)).toNat =
      (row - 1) / size.toNat + 1 := by
    rw [UInt64.toNat_ofNat']
    exact Nat.mod_eq_of_lt (by omega)
  refine ⟨UInt64.ofNat ((row - 1) / size.toNat + 1), ?_, ?_⟩
  · show 1 ≤ (UInt64.ofNat ((row - 1) / size.toNat + 1)).toNat
    rw [number]
    exact Nat.le_add_left 1 _
  · rw [mem_pageWindow, number, Nat.add_sub_cancel]
    omega

/-- A page is cut out of the rows by its window. -/
theorem page_cuts {dialect : Dialect} {select : Select} {inner : List Piece}
    (style : dialect.pageStyle = .offsetFetch) (unlocked : select.lock = none)
    (all : select.allPieces dialect = .ok inner) (number : UInt64) {size : UInt64}
    (some : 1 ≤ size) :
    (select.page number size).Cuts dialect (pageWindow number size) := by
  have length : max size.toNat 1 = size.toNat := max_eq_left some
  have bound : size.toNat < UInt64.size := size.toNat_lt
  have skipped : (select.page number size).skipped =
      min ((number.toNat - 1) * size.toNat) (UInt64.size - 1) := by
    rw [Select.skipped, page, Option.getD_some, toNat_saturated, length]
  have limit : (select.page number size).limit.map UInt64.toNat = .some size.toNat := by
    rw [page, Option.map_some, toNat_saturated, length]
    congr 1
    omega
  rw [pageWindow, ← skipped, ← limit]
  exact cuts_offsetFetch style (fun _ => unlocked) all

/-! ### Pages in both styles -/

/-- In both styles a page is cut out of the same query, by a window that holds the wanted rows. It
is refused by numbers alone, and just if its last row has none of 64 bits. The pages of one size cut
the rows into parts. -/
theorem pages_alike (dialect : Dialect) (select : Select) :
    let clauses := dialect.paged .offsetFetch
    let numbers := dialect.paged .rowNumber
    let refusal : Error := .statement .pageRange {}
    select.allPieces numbers = select.allPieces clauses ∧ refusal.className = "Translation" ∧
    (select.isPaged = true → select.lock ≠ none →
      select.build clauses = .error (.statement .lockedPage {}) ∧
        select.build numbers = .error (.statement .lockedPage {})) ∧
    (select.LocksNoPage → ∀ failure, select.allPieces clauses = .error failure →
      select.build clauses = .error failure ∧ select.build numbers = .error failure) ∧
    (select.LocksNoPage → ∀ inner, select.allPieces clauses = .ok inner →
      select.CutsWanted clauses ∧
      (select.PassesRange → select.build numbers = .error refusal) ∧
      (¬ select.PassesRange → select.CutsWanted numbers)) ∧
    (select.lock = none → ∀ inner, select.allPieces clauses = .ok inner →
      ∀ size : UInt64, 1 ≤ size →
        (∀ number, (select.page number size).Cuts clauses (pageWindow number size)) ∧
        ∀ total < UInt64.size,
          (∀ first second, 1 ≤ first → 1 ≤ second → first ≠ second →
            List.Disjoint ((pageWindow first size).rows (List.range' 1 total))
              ((pageWindow second size).rows (List.range' 1 total))) ∧
          ∀ row ∈ List.range' 1 total, ∃ number, 1 ≤ number ∧
            row ∈ (pageWindow number size).rows (List.range' 1 total)) := by
  intro clauses numbers refusal
  have inside : select.allPieces numbers = select.allPieces clauses :=
    (allPieces_paged dialect _ select).trans (allPieces_paged dialect _ select).symm
  refine ⟨inside, rfl, ?_, ?_, ?_, ?_⟩
  · exact fun paged locked => ⟨build_locked paged locked, build_locked paged locked⟩
  · exact fun separate failure failed =>
      ⟨build_failed separate failed, build_failed separate (inside.trans failed)⟩
  · exact fun separate inner all => ⟨cutsWanted_offsetFetch rfl separate all,
      fun passes => build_passesRange rfl separate passes (inside.trans all),
      fun within => cutsWanted_rowNumber rfl separate within (inside.trans all)⟩
  · intro unlocked inner all size some
    refine ⟨fun number => page_cuts rfl unlocked all number some, fun total few => ⟨?_, ?_⟩⟩
    · intro first second counted alsoCounted apart
      have differs : first.toNat ≠ second.toNat := fun same => apart (UInt64.toNat_inj.mp same)
      rcases Nat.lt_or_gt_of_ne differs with before | after
      · exact pages_disjoint few before counted
      · exact (pages_disjoint few after alsoCounted).symm
    · exact fun row member => exists_page some few member

/-- A page past the rows of 64 bits is refused by numbers and cut out by clauses; the pages of three
rows hold the last of seven. -/
theorem pages_alike_past_range :
    let select : Select :=
      { source := "t", limit := some 9223372036854775808, offset := some 9223372036854775808 }
    select.build (({} : Dialect).paged .rowNumber) = .error (.statement .pageRange {}) ∧
    select.CutsWanted (({} : Dialect).paged .offsetFetch) ∧
    ({ select with limit := some 5 } : Select).CutsWanted (({} : Dialect).paged .rowNumber) ∧
    ∃ number, 1 ≤ number ∧ 7 ∈ (pageWindow number 3).rows (List.range' 1 7) := by
  intro select
  have unlocked : select.lock = none := rfl
  obtain ⟨inner, all⟩ : ∃ inner, select.allPieces (({} : Dialect).paged .offsetFetch) = .ok inner :=
    exists_of_isOk (by decide +kernel)
  obtain ⟨cuts, refused, _⟩ := (pages_alike {} select).2.2.2.2.1 (fun _ => rfl) inner all
  obtain ⟨_, _, numbered⟩ :=
    (pages_alike {} { select with limit := some 5 }).2.2.2.2.1 (fun _ => rfl) inner all
  refine ⟨refused ⟨_, rfl, by decide⟩, cuts, numbered fun ⟨count, limit, passes⟩ => ?_, ?_⟩
  · cases limit
    exact absurd passes (by decide)
  · obtain ⟨_, pages⟩ := (pages_alike {} select).2.2.2.2.2 unlocked inner all 3 (by decide)
    exact (pages 7 (by decide)).2 7 (by decide)

end Select

end OracleSql
