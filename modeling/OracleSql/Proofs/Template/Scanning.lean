/-
This file shows that the reader of templates agrees with the grammar. At every place the reader
takes the one construct that fits, and it fails where a construct is left open. So a template is
read just if it is a row of constructs to its end; its lexemes are those of the constructs, in
order, and put together they are the template again.
-/

import OracleSql.Proofs.Template.Grammar

namespace OracleSql.Marker

/-! ### Lengths -/

/-- A text without the quote has nothing that is written twice. -/
theorem Escaped.of_not_mem {quote : Char} {body : List Char} (free : quote ∉ body) :
    Escaped quote body := by
  induction body with
  | nil => exact .nil
  | cons letter rest inductionHypothesis =>
    rw [List.mem_cons, not_or] at free
    exact .letter (fun same => free.1 same.symm) (inductionHypothesis free.2)

theorem quotedLength_eq_none {quote : Char} {letters : List Char}
    (escaped : Escaped quote letters) :
    quotedLength quote letters = none := by
  induction escaped with
  | nil => rfl
  | @letter letter body differs more inductionHypothesis =>
    cases body with
    | nil => rw [quotedLength, if_neg differs]
    | cons next rest => rw [quotedLength, if_neg differs, inductionHypothesis]; rfl
  | doubled more inductionHypothesis =>
    rw [quotedLength, if_pos rfl, if_pos rfl, inductionHypothesis]
    rfl

theorem quotedLength_append {quote : Char} {body following : List Char}
    (escaped : Escaped quote body) (ahead : following.head? ≠ some quote) :
    quotedLength quote (body ++ quote :: following) = some (body.length + 1) := by
  induction escaped with
  | nil =>
    cases following with
    | nil => simp [quotedLength]
    | cons next rest =>
      have differs : next ≠ quote := fun same => ahead (congrArg some same)
      rw [List.nil_append, quotedLength, if_pos rfl, if_neg differs]
      rfl
  | @letter letter body differs more inductionHypothesis =>
    obtain ⟨next, rest, split⟩ : ∃ next rest, body ++ quote :: following = next :: rest :=
      List.exists_cons_of_ne_nil (by simp)
    rw [List.cons_append, split, quotedLength, if_neg differs, ← split, inductionHypothesis]
    rfl
  | doubled more inductionHypothesis =>
    rw [List.cons_append, List.cons_append, quotedLength, if_pos rfl, if_pos rfl,
      inductionHypothesis]
    rfl

theorem lineLength_eq_length {letters : List Char} (endless : '\n' ∉ letters) :
    lineLength letters = letters.length := by
  induction letters with
  | nil => rfl
  | cons letter rest inductionHypothesis =>
    rw [List.mem_cons, not_or] at endless
    rw [lineLength, if_neg fun same => endless.1 same.symm, inductionHypothesis endless.2]
    rfl

theorem lineLength_append {body : List Char} (following : List Char) (first : '\n' ∉ body) :
    lineLength (body ++ '\n' :: following) = body.length + 1 := by
  induction body with
  | nil => rfl
  | cons letter rest inductionHypothesis =>
    rw [List.mem_cons, not_or] at first
    rw [List.cons_append, lineLength, if_neg fun same => first.1 same.symm,
      inductionHypothesis first.2]
    rfl

theorem lengthThrough_eq_none {first second : Char} {letters : List Char}
    (nowhere : ¬ [first, second] <:+: letters) : lengthThrough first second letters = none := by
  match letters with
  | [] => rfl
  | [letter] => rfl
  | letter :: next :: rest =>
    have differs : ¬ (letter = first ∧ next = second) := by
      rintro ⟨rfl, rfl⟩
      exact nowhere ⟨[], rest, rfl⟩
    have later : ¬ [first, second] <:+: next :: rest :=
      fun inside => nowhere (List.infix_cons inside)
    rw [lengthThrough, if_neg differs, lengthThrough_eq_none later]
    rfl

theorem lengthThrough_append {first second : Char} {body : List Char} (following : List Char)
    (before : ¬ [first, second] <:+: body ++ [first]) :
    lengthThrough first second (body ++ first :: second :: following) = some (body.length + 2) := by
  induction body with
  | nil => rw [List.nil_append, lengthThrough, if_pos ⟨rfl, rfl⟩]; rfl
  | cons letter rest inductionHypothesis =>
    have others := inductionHypothesis fun inside => before (List.infix_cons inside)
    obtain ⟨next, more, split⟩ :
        ∃ next more, rest ++ first :: second :: following = next :: more :=
      List.exists_cons_of_ne_nil (by simp)
    -- the character after `letter` stands in `rest ++ [first]` already
    have differs : ¬ (letter = first ∧ next = second) := by
      rintro ⟨rfl, rfl⟩
      cases rest with
      | nil =>
        cases split
        exact before ⟨[], [], rfl⟩
      | cons other further =>
        cases split
        exact before ⟨[], further ++ [letter], rfl⟩
    rw [List.cons_append, split, lengthThrough, if_neg differs, ← split, others]
    rfl

theorem nameLength_append {name following : List Char} (whole : IsName name following) :
    nameLength (name ++ following) = name.length := by
  unfold nameLength
  rw [List.takeWhile_append_of_pos whole.1]
  cases following with
  | nil => simp
  | cons next further =>
    rw [List.takeWhile_cons_of_neg (by rw [whole.2 next rfl]; decide), List.append_nil]

/-! ### What stands before a place -/

/-- What the reader knows of the characters before a place. -/
def Before.after (preceding : List Char) : Before :=
  preceding.foldl Before.push {}

theorem Before.after_append (preceding more : List Char) :
    Before.after (preceding ++ more) = more.foldl Before.push (Before.after preceding) :=
  List.foldl_append

theorem Before.after_concat (front : List Char) (letter : Char) :
    Before.after (front ++ [letter]) = (Before.after front).push letter :=
  Before.after_append front [letter]

theorem Before.last_after (preceding : List Char) :
    (Before.after preceding).last = preceding.getLast? := by
  rcases List.eq_nil_or_concat preceding with rfl | ⟨front, letter, rfl⟩
  · rfl
  · rw [List.concat_eq_append, after_concat, List.getLast?_concat]
    rfl

theorem Before.endsIdentifier_after (preceding : List Char) :
    (Before.after preceding).endsIdentifier = false ↔ Unattached preceding := by
  rw [endsIdentifier, last_after, Unattached]
  cases preceding.getLast? <;> simp

theorem Before.allowsNamed_after (preceding : List Char) :
    (Before.after preceding).allowsNamed = true ↔ AdmitsNamed preceding := by
  rw [allowsNamed, AdmitsNamed, ← endsIdentifier_after, last_after, Bool.not_eq_true',
    Bool.or_eq_false_iff, beq_eq_false_iff_ne]

theorem Before.allowsNative_after (preceding : List Char) :
    (Before.after preceding).allowsNative = true ↔ AdmitsNative preceding := by
  rw [allowsNative, AdmitsNative, ← endsIdentifier_after, last_after, Bool.not_eq_true',
    Bool.or_eq_false_iff, beq_eq_false_iff_ne]

theorem Before.allowsAlternative_after (preceding : List Char) :
    (Before.after preceding).allowsAlternative = true ↔ AdmitsAlternative preceding := by
  rw [allowsAlternative, AdmitsAlternative, Bool.or_eq_true, Bool.not_eq_true',
    endsIdentifier_after]
  refine or_congr_right ?_
  rcases List.eq_nil_or_concat preceding with rfl | ⟨front, letter, rfl⟩
  · simp [after]
  · have earlier : ((after (front ++ [letter])).earlier.any isIdentifierChar) = false ↔
        Unattached front := by
      rw [after_concat, ← endsIdentifier_after]
      rfl
    rw [List.concat_eq_append, Bool.and_eq_true, Bool.not_eq_true', earlier, last_after,
      List.getLast?_concat, Option.any_some, Bool.or_eq_true, decide_eq_true_eq, decide_eq_true_eq]
    constructor
    · rintro ⟨national, unattached⟩
      exact ⟨front, letter, rfl, national, unattached⟩
    · rintro ⟨_, _, same, national, unattached⟩
      obtain ⟨rfl, last⟩ := List.append_inj' same rfl
      cases last
      exact ⟨national, unattached⟩

/-! ### One construct -/

variable {preceding following : List Char}

/-- Where nothing longer begins, the reader takes one character. -/
theorem extent_eq_text {letter : Char} (single : ¬ Opens preceding (letter :: following)) :
    extent (Before.after preceding) letter following = .ok (.text, 0) := by
  unfold extent
  dsimp only
  rw [if_neg, if_neg, if_neg, if_neg, if_neg, if_neg, if_neg, if_neg]
  · rintro ⟨rfl, starts, allowed⟩
    obtain ⟨first, member, starts⟩ := (Option.any_eq_true _ _).mp starts
    obtain ⟨more, rfl⟩ := List.head?_eq_some_iff.mp member
    exact single (.native more starts ((Before.allowsNative_after preceding).mp allowed))
  · rintro ⟨rfl, starts, allowed⟩
    obtain ⟨first, member, starts⟩ := (Option.any_eq_true _ _).mp starts
    obtain ⟨more, rfl⟩ := List.head?_eq_some_iff.mp member
    exact single (.named more starts ((Before.allowsNamed_after preceding).mp allowed))
  · rintro rfl
    exact single (.positional following)
  · rintro ⟨starts, quote, allowed⟩
    obtain ⟨more, rfl⟩ := List.head?_eq_some_iff.mp quote
    exact single (.alternative more starts ((Before.allowsAlternative_after preceding).mp allowed))
  · rintro ⟨rfl, star⟩
    obtain ⟨more, rfl⟩ := List.head?_eq_some_iff.mp star
    exact single (.blockComment more)
  · rintro ⟨rfl, dash⟩
    obtain ⟨more, rfl⟩ := List.head?_eq_some_iff.mp dash
    exact single (.lineComment more)
  · rintro rfl
    exact single (.identifier following)
  · rintro rfl
    exact single (.literal following)

/-- The reader takes the construct that fits. -/
theorem Construct.Fits.extent_eq {construct : Construct} {letter : Char} {more : List Char}
    (fits : construct.Fits preceding following) (written : construct.written = letter :: more) :
    extent (Before.after preceding) letter (more ++ following) =
      .ok (construct.kind, more.length) := by
  cases construct with
  | literal body =>
    cases written
    simp [extent, kind, quotedLength_append fits.1 fits.2]
  | identifier body =>
    cases written
    simp [extent, kind, quotedLength_append fits.1 fits.2]
  | alternative quoting opening body =>
    cases written
    obtain ⟨starts, admits, before⟩ := fits
    have length : alternativeLength
        (opening :: (body ++ closingMate opening :: '\'' :: following)) =
          some (body.length + 3) := by
      rw [alternativeLength, lengthThrough_append following before]
      rfl
    rw [← Before.allowsAlternative_after] at admits
    rcases starts with rfl | rfl <;> simp [extent, kind, admits, length]
  | lineComment body ended =>
    obtain ⟨first, last⟩ := fits
    cases ended with
    | true =>
      cases written
      simp [extent, kind, lineLength, lineLength_append following first]
    | false =>
      cases written
      simp [extent, kind, lineLength, last rfl, lineLength_eq_length first]
  | blockComment body =>
    cases written
    simp [extent, kind, lengthThrough_append following fits]
  | positional =>
    cases written
    simp [extent, kind]
  | named name =>
    cases written
    obtain ⟨⟨first, rest, rfl, starts⟩, whole, admits⟩ := fits
    rw [← Before.allowsNamed_after] at admits
    simp [extent, kind, starts, admits, ← nameLength_append whole]
  | native name =>
    cases written
    obtain ⟨some, whole, admits⟩ := fits
    obtain ⟨first, rest, rfl⟩ := List.exists_cons_of_ne_nil some
    have starts : isNameChar first = true := whole.1 first List.mem_cons_self
    rw [← Before.allowsNative_after] at admits
    simp [extent, kind, starts, admits, ← nameLength_append whole]
  | other letter =>
    cases written
    exact extent_eq_text fits

theorem LeftOpen.exists_cons {letters : List Char} {opened : Unterminated}
    (leftOpen : LeftOpen preceding letters opened) : ∃ letter rest, letters = letter :: rest := by
  cases opened with
  | alternativeLiteral =>
    obtain ⟨letter, body, rfl, _⟩ := leftOpen
    exact ⟨_, _, rfl⟩
  | _ =>
    obtain ⟨body, rfl, _⟩ := leftOpen
    exact ⟨_, _, rfl⟩

/-- The reader fails where a construct is left open. -/
theorem LeftOpen.extent_eq {letter : Char} {rest : List Char} {opened : Unterminated}
    (leftOpen : LeftOpen preceding (letter :: rest) opened) :
    extent (Before.after preceding) letter rest = .error opened := by
  cases opened with
  | stringLiteral =>
    obtain ⟨body, ⟨⟩, escaped⟩ := leftOpen
    simp [extent, quotedLength_eq_none escaped]
  | quotedIdentifier =>
    obtain ⟨body, ⟨⟩, escaped⟩ := leftOpen
    simp [extent, quotedLength_eq_none escaped]
  | alternativeLiteral =>
    obtain ⟨quoting, body, ⟨⟩, starts, admits, nowhere⟩ := leftOpen
    have length : alternativeLength body = none := by
      cases body with
      | nil => rfl
      | cons opening more =>
        rw [alternativeLength, lengthThrough_eq_none (nowhere opening more rfl)]
        rfl
    rw [← Before.allowsAlternative_after] at admits
    rcases starts with rfl | rfl <;> simp [extent, admits, length]
  | blockComment =>
    obtain ⟨body, ⟨⟩, nowhere⟩ := leftOpen
    simp [extent, lengthThrough_eq_none nowhere]

/-! ### Rows of constructs -/

/-- The reader goes over a construct that fits. -/
theorem lexemesFrom_construct {construct : Construct} (fits : construct.Fits preceding following) :
    lexemesFrom (Before.after preceding) (construct.written ++ following) =
      (lexemesFrom (Before.after (preceding ++ construct.written)) following).map
        (construct.lexeme :: ·) := by
  obtain ⟨letter, more, written, lexeme⟩ := construct.written_eq_cons
  rw [written, List.cons_append, lexemesFrom, fits.extent_eq written]
  dsimp only
  rw [List.take_left, List.drop_left, lexeme, Before.after_append]
  rfl

/-- The reader goes over a row of constructs. -/
theorem Reads.lexemesFrom_eq {constructs : List Construct}
    (reads : Reads preceding constructs following) :
    lexemesFrom (Before.after preceding) (constructs.flatMap Construct.written ++ following) =
      (lexemesFrom (Before.after (preceding ++ constructs.flatMap Construct.written))
        following).map (constructs.map Construct.lexeme ++ ·) := by
  induction constructs generalizing preceding with
  | nil =>
    rw [List.flatMap_nil, List.nil_append, List.append_nil]
    cases lexemesFrom (Before.after preceding) following <;> rfl
  | cons construct more inductionHypothesis =>
    rw [List.flatMap_cons, List.append_assoc, lexemesFrom_construct reads.1,
      inductionHypothesis reads.2, List.append_assoc]
    cases lexemesFrom _ following <;> rfl

/-- Every template is a row of constructs, to its end or to one that is left open. -/
theorem exists_reads (preceding letters : List Char) :
    ∃ constructs following, letters = constructs.flatMap Construct.written ++ following ∧
      Reads preceding constructs following ∧
      (following = [] ∨ ∃ opened,
        LeftOpen (preceding ++ constructs.flatMap Construct.written) following opened) := by
  match letters with
  | [] => exact ⟨[], [], rfl, trivial, Or.inl rfl⟩
  | letter :: rest =>
    rcases exists_fits preceding letter rest with ⟨construct, further, split, fits⟩ | leftOpen
    · have shorter : further.length < (letter :: rest).length := by
        obtain ⟨first, more, written, _⟩ := construct.written_eq_cons
        rw [split, written, List.length_append, List.length_cons]
        omega
      obtain ⟨constructs, following, rfl, reads, ends⟩ :=
        exists_reads (preceding ++ construct.written) further
      refine ⟨construct :: constructs, following, ?_, ⟨fits, reads⟩, ?_⟩
      · rw [split, List.flatMap_cons, List.append_assoc]
      · rwa [List.flatMap_cons, ← List.append_assoc]
    · exact ⟨[], letter :: rest, rfl, trivial, Or.inr (by rwa [List.flatMap_nil, List.append_nil])⟩
  termination_by letters.length
  decreasing_by exact shorter

/-! ### Templates -/

variable {template : String} {constructs : List Construct} {rest : List Char}

theorem lexemes_of_reads (written : constructs.flatMap Construct.written = template.toList)
    (reads : Reads [] constructs []) :
    lexemes template = .ok (constructs.map Construct.lexeme) := by
  have read := reads.lexemesFrom_eq
  rw [List.append_nil, written] at read
  rw [lexemes, ← List.append_nil (constructs.map _)]
  rw [lexemesFrom.eq_1] at read
  exact read

theorem lexemes_of_leftOpen {opened : Unterminated}
    (written : constructs.flatMap Construct.written ++ rest = template.toList)
    (reads : Reads [] constructs rest)
    (leftOpen : LeftOpen (constructs.flatMap Construct.written) rest opened) :
    lexemes template = .error opened := by
  have read := reads.lexemesFrom_eq
  have fails : lexemesFrom (Before.after ([] ++ constructs.flatMap Construct.written)) rest =
      .error opened := by
    obtain ⟨letter, more, rfl⟩ := leftOpen.exists_cons
    rw [List.nil_append, lexemesFrom, leftOpen.extent_eq]
  rw [written, fails] at read
  exact read

/-- Where the lexemes of a template can be told apart, they come from its constructs. -/
theorem exists_reads_of_ok {found : List Lexeme} (read : lexemes template = .ok found) :
    ∃ constructs, constructs.flatMap Construct.written = template.toList ∧
      Reads [] constructs [] ∧ constructs.map Construct.lexeme = found := by
  obtain ⟨constructs, rest, written, reads, rfl | ⟨opened, leftOpen⟩⟩ :=
    exists_reads [] template.toList
  · rw [List.append_nil] at written
    refine ⟨constructs, written.symm, reads, ?_⟩
    exact Except.ok.inj ((lexemes_of_reads written.symm reads).symm.trans read)
  · cases (lexemes_of_leftOpen written.symm reads leftOpen).symm.trans read

theorem exists_leftOpen_of_error {opened : Unterminated}
    (failed : lexemes template = .error opened) :
    ∃ constructs rest, constructs.flatMap Construct.written ++ rest = template.toList ∧
      Reads [] constructs rest ∧ LeftOpen (constructs.flatMap Construct.written) rest opened := by
  obtain ⟨constructs, rest, written, reads, rfl | ⟨other, leftOpen⟩⟩ :=
    exists_reads [] template.toList
  · rw [List.append_nil] at written
    cases (lexemes_of_reads written.symm reads).symm.trans failed
  · cases (lexemes_of_leftOpen written.symm reads leftOpen).symm.trans failed
    exact ⟨constructs, rest, written.symm, reads, leftOpen⟩

/-- The lexemes of a template put together are the template. -/
theorem flatMap_written_of_ok {found : List Lexeme} (read : lexemes template = .ok found) :
    found.flatMap Lexeme.written = template.toList := by
  obtain ⟨constructs, written, _, rfl⟩ := exists_reads_of_ok read
  rw [List.flatMap_map, ← written]
  exact congrArg (constructs.flatMap ·) (funext Construct.lexeme_written)

/-- **The reader follows the grammar**: a template has these lexemes just if it is a row of
constructs with these lexemes, each fitting where it stands; the reader fails just where, after such
a row, a literal, a quoted identifier or a block comment is left open. The lexemes put together are
the template, and each of them begins at a whole character of it. -/
theorem lexemes_follow_grammar (template : String) :
    (∀ found, lexemes template = .ok found ↔
      ∃ constructs, constructs.flatMap Construct.written = template.toList ∧
        Reads [] constructs [] ∧ constructs.map Construct.lexeme = found) ∧
    (∀ opened, lexemes template = .error opened ↔
      ∃ constructs rest, constructs.flatMap Construct.written ++ rest = template.toList ∧
        Reads [] constructs rest ∧ LeftOpen (constructs.flatMap Construct.written) rest opened) ∧
    ∀ front back, lexemes template = .ok (front ++ back) →
      String.ofList ((front ++ back).flatMap Lexeme.written) = template ∧
      (String.ofList (front.flatMap Lexeme.written)).rawEndPos.IsValid template := by
  refine ⟨fun found => ⟨exists_reads_of_ok, ?_⟩, fun opened => ⟨exists_leftOpen_of_error, ?_⟩,
    fun front back read => ?_⟩
  · rintro ⟨constructs, written, reads, rfl⟩
    exact lexemes_of_reads written reads
  · rintro ⟨constructs, rest, written, reads, leftOpen⟩
    exact lexemes_of_leftOpen written reads leftOpen
  · have whole : String.ofList ((front ++ back).flatMap Lexeme.written) = template := by
      rw [flatMap_written_of_ok read, String.ofList_toList]
    refine ⟨whole, String.Pos.Raw.isValid_iff_exists_append.mpr
      ⟨String.ofList (front.flatMap Lexeme.written), String.ofList (back.flatMap Lexeme.written),
        ?_, rfl⟩⟩
    rw [← String.ofList_append, ← List.flatMap_append, whole]

/-! ### Plain text -/

/-- A row of constructs goes on with another row. -/
theorem Reads.append {more : List Construct}
    (reads : Reads preceding constructs (more.flatMap Construct.written ++ following))
    (others : Reads (preceding ++ constructs.flatMap Construct.written) more following) :
    Reads preceding (constructs ++ more) following := by
  induction constructs generalizing preceding with
  | nil => simpa using others
  | cons construct remaining inductionHypothesis =>
    refine ⟨?_, inductionHypothesis reads.2 (by simpa using others)⟩
    show construct.Fits preceding ((remaining ++ more).flatMap Construct.written ++ following)
    rw [List.flatMap_append, List.append_assoc]
    exact reads.1

/-- The character begins nothing longer than itself, whatever stands around it. -/
def isPlain (letter : Char) : Bool :=
  letter ∉ ['\'', '"', 'q', 'Q', '-', '/', '?', '@', ':']

theorem not_opens_of_isPlain {letter : Char} (plain : isPlain letter = true) (more : List Char) :
    ¬ Opens preceding (letter :: more) := by
  intro opens
  rcases opens with _ | _ | ⟨_, rfl | rfl⟩ | _ | _ | _ | _ | _ <;> revert plain <;> decide

/-- Plain characters stand for themselves. -/
theorem reads_plain {letters : List Char} (plain : letters.all isPlain = true) :
    Reads preceding (letters.map Construct.other) following := by
  induction letters generalizing preceding with
  | nil => trivial
  | cons letter more inductionHypothesis =>
    rw [List.all_cons, Bool.and_eq_true] at plain
    exact ⟨not_opens_of_isPlain plain.1 _, inductionHypothesis plain.2⟩

theorem flatMap_written_other (letters : List Char) :
    (letters.map Construct.other).flatMap Construct.written = letters := by
  rw [List.flatMap_map]
  exact List.flatMap_singleton' letters

theorem filterMap_nativeName_other (letters : List Char) :
    (letters.map Construct.other).filterMap (Lexeme.nativeName? ∘ Construct.lexeme) = [] := by
  simp [List.filterMap_eq_nil_iff, Construct.lexeme, Lexeme.nativeName?]

/-- Plain text before a `?` is read letter by letter. -/
theorem lexemes_plain_positional {text : String} (plain : text.toList.all isPlain = true) :
    lexemes (text ++ "?") =
      .ok (text.toList.map (fun letter => Lexeme.text [letter]) ++ [Lexeme.positional]) := by
  have reads : Reads [] (text.toList.map Construct.other ++ [Construct.positional]) [] :=
    (reads_plain plain).append ⟨trivial, trivial⟩
  rw [lexemes_of_reads ?_ reads]
  · rw [List.map_append, List.map_map]
    rfl
  · rw [List.flatMap_append, flatMap_written_other, String.toList_append]
    rfl

/-- A native marker between plain texts is found. -/
theorem nativeNames_plain {front name back : String} (plain : front.toList.all isPlain = true)
    (plainToo : back.toList.all isPlain = true) (named : name.toList ≠ [])
    (whole : IsName name.toList back.toList) (admits : AdmitsNative front.toList) :
    nativeNames (front ++ ":" ++ name ++ back) = .ok [name] := by
  have reads : Reads [] (front.toList.map .other ++
      (.native name.toList :: back.toList.map .other)) [] := by
    refine (reads_plain plain).append ⟨⟨named, ?_, ?_⟩, reads_plain plainToo⟩
    · rwa [flatMap_written_other, List.append_nil]
    · rwa [flatMap_written_other]
  rw [nativeNames, lexemes_of_reads ?_ reads]
  · show Except.ok (List.filterMap _ _) = _
    rw [List.filterMap_map, List.filterMap_append, List.filterMap_cons,
      filterMap_nativeName_other, filterMap_nativeName_other]
    simp [Construct.lexeme, Lexeme.nativeName?]
  · simp [flatMap_written_other, Construct.written]

end OracleSql.Marker
