/-
This file reads the statement of a template back. Native markers stand in the places of the portable
ones there, and the text between them is as it was; but what a character means depends on what
stands before it, and a name goes as far as it can. So a statement has the lexemes that were written
just if no marker of its template runs into the text around it: `Marker.Spaced` says where this is
so, looking at the template alone. Then the markers of the statement are those that were made for
it, in order, and the check of markers against values accepts it.
-/

import OracleSql.Proofs.Styles.Templates
import OracleSql.Proofs.Markers.Assembled

namespace OracleSql

namespace Marker

/-! ### Native markers in place of portable ones -/

/-- The lexemes with native markers of the names, in order, in place of the portable markers. -/
def withNames : List Lexeme → List String → List Lexeme
  | [], _ => []
  | lexeme :: rest, [] => lexeme :: rest
  | lexeme :: rest, name :: names =>
    if lexeme.isPortable then .native name.toList :: withNames rest names
    else lexeme :: withNames rest (name :: names)

variable {lexeme : Lexeme} {lexemes : List Lexeme} {name : String} {names : List String}

theorem withNames_nil (lexemes : List Lexeme) : withNames lexemes [] = lexemes := by
  cases lexemes <;> rfl

theorem withNames_marker (portable : lexeme.isPortable = true) :
    withNames (lexeme :: lexemes) (name :: names) =
      .native name.toList :: withNames lexemes names :=
  if_pos portable

theorem withNames_text (text : lexeme.isPortable = false) :
    withNames (lexeme :: lexemes) names = lexeme :: withNames lexemes names := by
  cases names with
  | nil => rw [withNames, withNames_nil]
  | cons name names => rw [withNames, if_neg (by rw [text]; decide)]

/-- As many names as there are portable markers: one for the first of them and the others for the
rest. -/
theorem exists_cons_of_portable (portable : lexeme.isPortable = true)
    (enough : names.length = (lexeme :: lexemes).countP Lexeme.isPortable) :
    ∃ name others, names = name :: others ∧ others.length = lexemes.countP Lexeme.isPortable := by
  rw [List.countP_cons_of_pos portable] at enough
  obtain ⟨name, others, rfl⟩ := List.exists_cons_of_length_eq_add_one enough
  exact ⟨name, others, rfl, Nat.succ.inj enough⟩

theorem length_of_text (text : lexeme.isPortable = false)
    (enough : names.length = (lexeme :: lexemes).countP Lexeme.isPortable) :
    names.length = lexemes.countP Lexeme.isPortable := by
  rwa [List.countP_cons_of_neg (by rw [text]; decide)] at enough

/-- The outline of a template is written out with native markers. -/
theorem written_slots (enough : names.length = lexemes.countP Lexeme.isPortable) :
    Outline.written (lexemes.map Lexeme.slot) names =
      String.ofList ((withNames lexemes names).flatMap Lexeme.written) := by
  induction lexemes generalizing names with
  | nil => rfl
  | cons lexeme rest inductionHypothesis =>
    cases portable : lexeme.isPortable with
    | true =>
      obtain ⟨name, others, rfl, fewer⟩ := exists_cons_of_portable portable enough
      rw [withNames_marker portable, List.map_cons, Lexeme.slot, if_pos portable, Outline.written,
        inductionHypothesis fewer, List.flatMap_cons, String.ofList_append]
      exact congrArg (· ++ _) (String.toList_inj.mp (by simp [Lexeme.written]))
    | false =>
      rw [withNames_text portable, List.map_cons, Lexeme.slot, if_neg (by rw [portable]; decide),
        Outline.written, inductionHypothesis (length_of_text portable enough), List.flatMap_cons,
        String.ofList_append]

/-- The markers that were put in are the native ones then. -/
theorem filterMap_withNames (plain : hasNative lexemes = false)
    (enough : names.length = lexemes.countP Lexeme.isPortable) :
    (withNames lexemes names).filterMap Lexeme.nativeName? = names := by
  induction lexemes generalizing names with
  | nil => exact (List.length_eq_zero_iff.mp enough).symm
  | cons lexeme rest inductionHypothesis =>
    obtain ⟨notNative, others⟩ := Bool.or_eq_false_iff.mp plain
    cases portable : lexeme.isPortable with
    | true =>
      obtain ⟨name, further, rfl, fewer⟩ := exists_cons_of_portable portable enough
      rw [withNames_marker portable, List.filterMap_cons, inductionHypothesis others fewer]
      exact congrArg (· :: further) String.ofList_toList
    | false =>
      rw [withNames_text portable, List.filterMap_cons_none (Option.isSome_eq_false_iff.mp notNative
        |> Option.isNone_iff_eq_none.mp),
        inductionHypothesis others (length_of_text portable enough)]

/-! ### Markers that stand apart -/

/-- The name of a marker right before these lexemes ends where they begin, and no other marker
begins there. -/
def EndsName (lexemes : List Lexeme) : Prop :=
  ∀ next ∈ lexemes.head?, next.isPortable = false ∧
    ∀ letter ∈ next.written.head?, isNameChar letter = false

/-- No portable marker of the lexemes runs into the text around it when it is replaced: before it
stands no identifier, colon or other marker, and behind it no letter, digit or underscore. -/
def Spaced : (preceding : List Char) → List Lexeme → Prop
  | _, [] => True
  | preceding, lexeme :: rest =>
    (lexeme.isPortable = true → AdmitsNative preceding ∧ EndsName rest) ∧
      Spaced (preceding ++ lexeme.written) rest

instance (preceding : List Char) : Decidable (AdmitsNative preceding) :=
  decidable_of_iff _ (Before.allowsNative_after preceding)

instance (lexemes : List Lexeme) : Decidable (EndsName lexemes) :=
  match lexemes with
  | [] => isTrue fun _ none => nomatch none
  | next :: rest => decidable_of_iff
      (next.isPortable = false ∧ next.written.head?.all (fun letter => !isNameChar letter) = true)
      (by simp [EndsName, Option.all_eq_true])

instance Spaced.decide : (preceding : List Char) → (lexemes : List Lexeme) →
    Decidable (Spaced preceding lexemes)
  | _, [] => isTrue trivial
  | preceding, lexeme :: rest =>
    have := Spaced.decide (preceding ++ lexeme.written) rest
    inferInstanceAs (Decidable (_ ∧ _))

/-! ### Places that read alike -/

/-- The lexemes can be read after the other characters as they were after the preceding ones: these
end alike, or the other ones end with a name that ends there. -/
inductive Alike (preceding other : List Char) (lexemes : List Lexeme) : Prop
  | same (last : preceding.getLast? = other.getLast?)
      (alternative : AdmitsAlternative preceding ↔ AdmitsAlternative other)
  | behind (attached : ¬ Unattached other) (ends : EndsName lexemes)

variable {preceding other following letters : List Char} {construct : Construct}
  {constructs : List Construct}

theorem unattached_congr (last : preceding.getLast? = other.getLast?) :
    Unattached preceding ↔ Unattached other := by
  unfold Unattached
  rw [last]

theorem getLast?_append_congr (some : letters ≠ []) :
    (preceding ++ letters).getLast? = (other ++ letters).getLast? := by
  obtain ⟨front, letter, rfl⟩ := List.eq_nil_or_concat letters |>.resolve_left some
  rw [List.concat_eq_append, ← List.append_assoc, ← List.append_assoc, List.getLast?_concat,
    List.getLast?_concat]

theorem admitsAlternative_concat (front : List Char) (letter : Char) :
    AdmitsAlternative (front ++ [letter]) ↔
      isIdentifierChar letter = false ∨ (letter = 'n' ∨ letter = 'N') ∧ Unattached front := by
  have last : Unattached (front ++ [letter]) ↔ isIdentifierChar letter = false := by
    simp [Unattached]
  rw [AdmitsAlternative, last]
  refine or_congr_right ⟨?_, ?_⟩
  · rintro ⟨_, _, same, national, free⟩
    obtain ⟨rfl, single⟩ := List.append_inj' same rfl
    cases single
    exact ⟨national, free⟩
  · rintro ⟨national, free⟩
    exact ⟨front, letter, rfl, national, free⟩

/-- After one more construct that is text in both, everything reads alike. -/
theorem Alike.append (alike : Alike preceding other (construct.lexeme :: lexemes))
    (further : List Lexeme) :
    Alike (preceding ++ construct.written) (other ++ construct.written) further := by
  obtain ⟨first, more, written, _⟩ := construct.written_eq_cons
  have some : construct.written ≠ [] := by simp [written]
  refine .same (getLast?_append_congr some) ?_
  obtain ⟨front, letter, split⟩ := List.eq_nil_or_concat construct.written |>.resolve_left some
  rw [List.concat_eq_append] at split
  rw [split, ← List.append_assoc, ← List.append_assoc, admitsAlternative_concat,
    admitsAlternative_concat]
  rcases List.eq_nil_or_concat front with rfl | ⟨earlier, last, rfl⟩
  · rw [List.append_nil, List.append_nil]
    cases alike with
    | same last alternative => rw [unattached_congr last]
    | behind attached ends =>
      -- the one letter is behind a name, so it is not that of a national literal
      have stops := (ends _ rfl).2 letter (by rw [construct.lexeme_written, split]; rfl)
      have differs : ¬ (letter = 'n' ∨ letter = 'N') := by
        rintro (rfl | rfl) <;> cases stops
      simp only [differs, false_and]
  · have inside : Unattached (preceding ++ (earlier ++ [last])) ↔
        Unattached (other ++ (earlier ++ [last])) :=
      unattached_congr (getLast?_append_congr (by simp))
    rw [List.concat_eq_append, inside]

/-- Where the letters begin a construct, they begin one in the template too: ahead is what was ahead
there, or a marker that was put in. -/
theorem Opens.alike {letter : Char} {later : List Char} (opens : Opens other (letter :: later))
    (text : construct = .other letter)
    (alike : Alike preceding other (construct.lexeme :: lexemes))
    (ahead : ∀ next ∈ later.head?, next ∈ following.head? ∨ next = ':') :
    Opens preceding (letter :: following) := by
  subst text
  have next (letter : Char) (differs : letter ≠ ':') (head : letter ∈ later.head?) :
      ∃ rest, following = letter :: rest :=
    List.head?_eq_some_iff.mp ((ahead letter head).resolve_right differs)
  cases opens with
  | literal => exact .literal following
  | identifier => exact .identifier following
  | positional => exact .positional following
  | lineComment =>
    obtain ⟨rest, rfl⟩ := next '-' (by decide) rfl
    exact .lineComment rest
  | blockComment =>
    obtain ⟨rest, rfl⟩ := next '*' (by decide) rfl
    exact .blockComment rest
  | alternative rest starts admits =>
    obtain ⟨rest, rfl⟩ := next '\'' (by decide) rfl
    refine .alternative rest starts ?_
    cases alike with
    | same last alternative => exact alternative.mpr admits
    | behind attached ends =>
      have stops := (ends _ rfl).2 letter rfl
      rcases starts with rfl | rfl <;> cases stops
  | named rest starts admits =>
    obtain ⟨rest, rfl⟩ := next _ (by rintro rfl; cases starts) rfl
    cases alike with
    | same last alternative =>
      exact .named rest starts ⟨(unattached_congr last).mpr admits.1, last ▸ admits.2⟩
    | behind attached ends => exact absurd admits.1 attached
  | native rest starts admits =>
    obtain ⟨rest, rfl⟩ := next _ (by rintro rfl; cases starts) rfl
    cases alike with
    | same last alternative =>
      exact .native rest starts ⟨(unattached_congr last).mpr admits.1, last ▸ admits.2⟩
    | behind attached ends => exact absurd admits.1 attached

/-- A construct that is no marker fits again. -/
theorem Construct.Fits.alike {later : List Char} (fits : construct.Fits preceding following)
    (text : construct.lexeme.isPortable = false) (notNative : construct.lexeme.nativeName? = none)
    (alike : Alike preceding other (construct.lexeme :: lexemes))
    (ahead : ∀ next ∈ later.head?, next ∈ following.head? ∨ next = ':')
    (last : following = [] → later = []) : construct.Fits other later := by
  cases construct with
  | literal body =>
    exact ⟨fits.1, fun head => (ahead _ head).elim fits.2 (by decide)⟩
  | identifier body =>
    exact ⟨fits.1, fun head => (ahead _ head).elim fits.2 (by decide)⟩
  | alternative letter opening body =>
    obtain ⟨starts, admits, inside⟩ := fits
    refine ⟨starts, ?_, inside⟩
    cases alike with
    | same _ alternative => exact alternative.mp admits
    | behind attached ends =>
      have stops := (ends _ rfl).2 letter rfl
      rcases starts with rfl | rfl <;> cases stops
  | lineComment body ended => exact ⟨fits.1, fun endless => last (fits.2 endless)⟩
  | blockComment body => exact fits
  | positional => cases text
  | named name => cases text
  | native name => cases notNative
  | other letter => exact fun opens => fits (opens.alike rfl alike ahead)

/-! ### Reading what is put in -/

theorem flatMap_lexeme_written (constructs : List Construct) :
    (constructs.map Construct.lexeme).flatMap Lexeme.written =
      constructs.flatMap Construct.written := by
  rw [List.flatMap_map]
  exact congrArg (constructs.flatMap ·) (funext Construct.lexeme_written)

/-- With names put in, the text begins as it did, or with a marker. -/
theorem head?_withNames (constructs : List Construct) (names : List String) :
    ∀ letter ∈ ((withNames (constructs.map Construct.lexeme) names).flatMap Lexeme.written).head?,
      letter ∈ (constructs.flatMap Construct.written).head? ∨ letter = ':' := by
  intro letter head
  rw [← flatMap_lexeme_written]
  cases constructs with
  | nil => exact Or.inl head
  | cons construct rest =>
    obtain ⟨first, more, written, _⟩ := construct.written_eq_cons
    rw [List.map_cons] at head ⊢
    cases portable : construct.lexeme.isPortable with
    | true =>
      cases names with
      | nil => exact Or.inl (by rwa [withNames_nil] at head)
      | cons name names =>
        rw [withNames_marker portable] at head
        exact Or.inr (Option.some.inj head).symm
    | false =>
      rw [withNames_text portable, List.flatMap_cons, construct.lexeme_written, written] at head
      rw [List.flatMap_cons, construct.lexeme_written, written]
      exact Or.inl head

/-- No identifier character is missing at the end of a name. -/
theorem not_unattached_append (preceding : List Char) (named : MarkerStyle.IsName name) :
    ¬ Unattached (preceding ++ ':' :: name.toList) := by
  obtain ⟨front, letter, split⟩ := List.eq_nil_or_concat name.toList |>.resolve_left named.1
  rw [List.concat_eq_append] at split
  intro free
  have ended : (preceding ++ ':' :: name.toList).getLast? = some letter := by
    rw [split, ← List.cons_append, ← List.append_assoc, List.getLast?_concat]
  have last := free letter ended
  have inside := named.2 letter (by rw [split]; simp)
  simp only [isNameChar, Bool.or_eq_true, decide_eq_true_eq] at inside
  simp only [isIdentifierChar, Bool.or_eq_false_iff, decide_eq_false_iff_not] at last
  rcases inside with alphanumeric | underscore
  · rw [alphanumeric] at last
    exact absurd last.1.1.1.1 (by decide)
  · exact last.1.1.1.2 underscore

/-- Where the markers stand apart, the constructs can be read again with names put in. -/
theorem Reads.withNames (reads : Reads preceding constructs [])
    (plain : hasNative (constructs.map Construct.lexeme) = false)
    (spaced : Spaced preceding (constructs.map Construct.lexeme))
    (alike : Alike preceding other (constructs.map Construct.lexeme))
    (named : ∀ name ∈ names, MarkerStyle.IsName name)
    (enough : names.length = (constructs.map Construct.lexeme).countP Lexeme.isPortable) :
    ∃ others, Reads other others [] ∧
      others.map Construct.lexeme = Marker.withNames (constructs.map Construct.lexeme) names := by
  induction constructs generalizing preceding other names with
  | nil => exact ⟨[], trivial, rfl⟩
  | cons construct rest inductionHypothesis =>
    obtain ⟨fits, further⟩ := reads
    obtain ⟨apart, others⟩ := spaced
    obtain ⟨notNative, plain⟩ := Bool.or_eq_false_iff.mp plain
    rw [construct.lexeme_written] at others
    rw [List.map_cons] at enough ⊢
    cases portable : construct.lexeme.isPortable with
    | true =>
      obtain ⟨name, names, rfl, fewer⟩ := exists_cons_of_portable portable enough
      obtain ⟨isName, named⟩ := List.forall_mem_cons.mp named
      obtain ⟨admits, ends⟩ := apart portable
      obtain ⟨found, readsToo, same⟩ := inductionHypothesis further plain others
        (.behind (not_unattached_append other isName) ends) named fewer
      refine ⟨.native name.toList :: found, ⟨⟨isName.1, ⟨isName.2, fun letter head => ?_⟩, ?_⟩,
        readsToo⟩, ?_⟩
      · rw [List.append_nil, ← flatMap_lexeme_written, same] at head
        rcases head?_withNames rest names letter head with ahead | rfl
        · cases rest with
          | nil => cases ahead
          | cons next rest =>
            obtain ⟨first, more, written, _⟩ := next.written_eq_cons
            refine (ends _ rfl).2 letter ?_
            rw [List.flatMap_cons, written] at ahead
            rwa [next.lexeme_written, written]
        · rfl
      · cases alike with
        | same last alternative =>
          exact ⟨(unattached_congr last).mp admits.1, last ▸ admits.2⟩
        | behind attached stops => cases portable.symm.trans (stops _ rfl).1
      · rw [withNames_marker portable, ← same]
        rfl
    | false =>
      obtain ⟨found, readsToo, same⟩ := inductionHypothesis further plain others (alike.append _)
        named (length_of_text portable enough)
      refine ⟨construct :: found, ⟨fits.alike portable
        (Option.isNone_iff_eq_none.mp (Option.isSome_eq_false_iff.mp notNative)) alike ?_ ?_,
        readsToo⟩, ?_⟩
      · rw [List.append_nil, List.append_nil, ← flatMap_lexeme_written found, same]
        exact head?_withNames rest names
      · intro none
        cases rest with
        | nil =>
          rw [List.map_eq_nil_iff.mp same]
          rfl
        | cons next rest =>
          obtain ⟨first, more, written, _⟩ := next.written_eq_cons
          simp [written] at none
      · rw [withNames_text portable, ← same]
        rfl

theorem eq_native_of_lexeme {name : List Char} (native : construct.lexeme = .native name) :
    construct = .native name := by
  cases construct with
  | native other =>
    cases native
    rfl
  | _ => cases native

/-- Where the constructs can be read again with names put in, the markers stand apart. -/
theorem Reads.spaced {others : List Construct} (reads : Reads other others [])
    (same : others.map Construct.lexeme = Marker.withNames (constructs.map Construct.lexeme) names)
    (edge : preceding.getLast? = other.getLast? ∨ ¬ Unattached other)
    (named : ∀ name ∈ names, MarkerStyle.IsName name)
    (enough : names.length = (constructs.map Construct.lexeme).countP Lexeme.isPortable) :
    Spaced preceding (constructs.map Construct.lexeme) := by
  induction constructs generalizing preceding other names others with
  | nil => trivial
  | cons construct rest inductionHypothesis =>
    rw [List.map_cons] at same enough ⊢
    cases portable : construct.lexeme.isPortable with
    | true =>
      obtain ⟨name, names, rfl, fewer⟩ := exists_cons_of_portable portable enough
      obtain ⟨isName, named⟩ := List.forall_mem_cons.mp named
      rw [withNames_marker portable] at same
      obtain ⟨marker, others, rfl, isMarker, remaining⟩ := List.map_eq_cons_iff.mp same
      obtain rfl := eq_native_of_lexeme isMarker
      obtain ⟨⟨_, ⟨_, whole⟩, admits⟩, further⟩ := reads
      have attached := not_unattached_append other isName
      refine ⟨fun _ => ⟨?_, fun next head => ?_⟩,
        inductionHypothesis further remaining (Or.inr attached) named fewer⟩
      · have last := edge.resolve_right (not_not_intro admits.1)
        exact ⟨(unattached_congr last).mpr admits.1, last ▸ admits.2⟩
      · obtain ⟨following, split⟩ := List.head?_eq_some_iff.mp head
        rw [split] at remaining fewer
        cases nextPortable : next.isPortable with
        | true =>
          -- the next marker would stand right behind this one
          obtain ⟨second, names, rfl, _⟩ := exists_cons_of_portable nextPortable fewer
          rw [withNames_marker nextPortable] at remaining
          obtain ⟨behind, others, rfl, isBehind, _⟩ := List.map_eq_cons_iff.mp remaining
          obtain rfl := eq_native_of_lexeme isBehind
          exact absurd further.1.2.2.1 attached
        | false =>
          rw [withNames_text nextPortable] at remaining
          obtain ⟨text, others, rfl, rfl, _⟩ := List.map_eq_cons_iff.mp remaining
          refine ⟨rfl, fun letter first => whole letter ?_⟩
          obtain ⟨start, more, written, _⟩ := text.written_eq_cons
          rw [text.lexeme_written, written] at first
          rw [List.flatMap_cons, written]
          exact first
    | false =>
      rw [withNames_text portable] at same
      obtain ⟨text, others, rfl, sameText, remaining⟩ := List.map_eq_cons_iff.mp same
      have written : text.written = construct.written := by
        rw [← text.lexeme_written, sameText, construct.lexeme_written]
      refine ⟨fun also => absurd (portable.symm.trans also) Bool.false_ne_true, ?_⟩
      rw [construct.lexeme_written]
      refine inductionHypothesis reads.2 remaining (Or.inl ?_) named
        (length_of_text portable enough)
      rw [written]
      obtain ⟨start, more, split, _⟩ := construct.written_eq_cons
      exact getLast?_append_congr (by simp [split])

/-- A template with names put in for its markers has the lexemes that this makes just if its markers
stand apart. -/
theorem lexemes_withNames_iff {template : String} (read : Marker.lexemes template = .ok lexemes)
    (plain : hasNative lexemes = false) (named : ∀ name ∈ names, MarkerStyle.IsName name)
    (enough : names.length = lexemes.countP Lexeme.isPortable) :
    Marker.lexemes (Outline.written (lexemes.map Lexeme.slot) names) =
      .ok (withNames lexemes names) ↔ Spaced [] lexemes := by
  obtain ⟨constructs, _, reads, rfl⟩ := exists_reads_of_ok read
  rw [written_slots enough]
  constructor
  · intro again
    obtain ⟨others, _, readsToo, same⟩ := exists_reads_of_ok again
    exact readsToo.spaced same (Or.inl rfl) named enough
  · intro spaced
    obtain ⟨others, readsToo, same⟩ := reads.withNames plain spaced (.same rfl Iff.rfl) named enough
    rw [← same, flatMap_lexeme_written]
    exact lexemes_of_reads String.toList_ofList.symm readsToo

/-- Each construct of a row fits somewhere. -/
theorem Reads.exists_fits (reads : Reads preceding constructs following)
    (member : construct ∈ constructs) : ∃ before behind, construct.Fits before behind := by
  induction constructs generalizing preceding with
  | nil => cases member
  | cons first rest inductionHypothesis =>
    rcases List.mem_cons.mp member with rfl | later
    · exact ⟨_, _, reads.1⟩
    · exact inductionHypothesis reads.2 later

end Marker

/-! ### Names of filled in markers -/

namespace Assembly

variable {style : MarkerStyle} {assembly : Assembly} {pieces : List Piece}

/-- All markers have names that a reader takes whole if those of the caller do. -/
theorem isName_of_mem_names
    (given : ∀ name value, .named name value ∈ pieces → MarkerStyle.IsName name)
    (bound : ∀ pair ∈ assembly.named, MarkerStyle.IsName pair.1) :
    ∀ name ∈ assembly.names style pieces, MarkerStyle.IsName name := by
  induction pieces generalizing assembly with
  | nil => exact fun name member => absurd member List.not_mem_nil
  | cons piece rest inductionHypothesis =>
    have others := fun name value member => given name value (List.mem_cons_of_mem piece member)
    cases piece with
    | text sql => exact inductionHypothesis others bound
    | out column columnType rows =>
      rw [names_marker rfl]
      refine List.forall_mem_cons.mpr ⟨?_, inductionHypothesis others ?_⟩
      · cases style with
        | numbered => exact MarkerStyle.isName_toString _
        | named => exact MarkerStyle.isName_append "ret" _ (by decide)
      · cases style <;> exact bound
    | value value =>
      rw [names_marker rfl]
      have own : MarkerStyle.IsName (assembly.nextName style (.value value)) := by
        cases style with
        | numbered => exact MarkerStyle.isName_toString _
        | named => exact MarkerStyle.isName_append "p" _ (by decide)
      refine List.forall_mem_cons.mpr ⟨own, inductionHypothesis others ?_⟩
      cases style with
      | numbered => exact bound
      | named => exact List.forall_mem_cons.mpr ⟨own, bound⟩
    | named name value =>
      have own := given name value List.mem_cons_self
      rw [names_marker rfl]
      refine List.forall_mem_cons.mpr ⟨?_, inductionHypothesis others ?_⟩
      · cases style with
        | numbered => exact MarkerStyle.isName_toString _
        | named =>
          rw [nextName]
          cases found : assembly.named.find? (Text.sameFolded ·.1 name) with
          | none => exact own
          | some pair => exact bound pair (List.mem_of_find?_eq_some found)
      · cases style with
        | numbered => exact bound
        | named =>
          rw [add, addNamed]
          cases assembly.named.find? (Text.sameFolded ·.1 name) with
          | none => exact List.forall_mem_cons.mpr ⟨own, bound⟩
          | some pair => exact bound

/-- The bound names are those of the markers of values. -/
theorem mem_named_foldl (plain : ∀ piece ∈ pieces, piece.isOut = false) (name : String) :
    name ∈ (pieces.foldl (Assembly.add .named) assembly).named.map Prod.fst ↔
      name ∈ assembly.named.map Prod.fst ∨ name ∈ assembly.names .named pieces := by
  induction pieces generalizing assembly with
  | nil => simp [names]
  | cons piece rest inductionHypothesis =>
    obtain ⟨notOut, others⟩ := List.forall_mem_cons.mp plain
    rw [List.foldl_cons, inductionHypothesis others]
    cases piece with
    | text sql => rfl
    | out column columnType rows => cases notOut
    | value value =>
      rw [names_marker rfl]
      simp only [add, addGenerated, nextName, marked, List.map_cons, List.mem_cons]
      rw [or_comm (a := name = _), or_assoc]
    | named spelled value =>
      rw [names_marker rfl]
      simp only [add, addNamed, nextName]
      cases found : assembly.named.find? (Text.sameFolded ·.1 spelled) with
      | none =>
        simp only [Option.elim_none, marked, List.map_cons, List.mem_cons]
        rw [or_comm (a := name = _), or_assoc]
      | some pair =>
        -- the spelling is bound already
        have member : pair.1 ∈ assembly.named.map Prod.fst :=
          List.mem_map_of_mem (List.mem_of_find?_eq_some found)
        simp only [Option.elim_some, marked, List.mem_cons]
        constructor
        · exact Or.imp_right Or.inr
        · rintro (bound | rfl | later)
          · exact Or.inl bound
          · exact Or.inl member
          · exact Or.inr later

end Assembly

/-! ### Statements of templates -/

theorem Statement.sameMembers_of_iff {left right : List String}
    (same : ∀ name, name ∈ left ↔ name ∈ right) :
    sameMembers (distinctFolded left) (distinctFolded right) = true := by
  have folded (name : String) : name ∈ distinctFolded left ↔ name ∈ distinctFolded right := by
    simp only [distinctFolded, List.mem_eraseDups, List.mem_map, same]
  rw [sameMembers, Bool.and_eq_true, List.all_eq_true, List.all_eq_true]
  exact ⟨fun name member => List.contains_iff_mem.mpr ((folded name).mp member),
    fun name member => List.contains_iff_mem.mpr ((folded name).mpr member)⟩

namespace Dialect

variable {dialect : Dialect} {template : String} {args : Args} {unused : List Value}
  {lexemes : List Marker.Lexeme} {pieces : List Piece}

theorem Fills.isOut_eq_false (fills : dialect.Fills args unused lexemes pieces) :
    ∀ piece ∈ pieces, piece.isOut = false := by
  intro piece member
  have none := fills.outBind?_eq_none "" piece member
  cases piece with
  | out column columnType rows => cases none
  | _ => rfl

/-- The names of a template are taken whole by its reader. -/
theorem Fills.isName_of_mem (fills : dialect.Fills args unused lexemes pieces)
    (read : Marker.lexemes template = .ok lexemes) {name : String} {value : Value}
    (member : .named name value ∈ pieces) : MarkerStyle.IsName name := by
  obtain ⟨letters, given, marker, rfl, _⟩ := fills.exists_of_mem member
  obtain ⟨constructs, _, reads, rfl⟩ := Marker.exists_reads_of_ok read
  obtain ⟨construct, inside, same⟩ := List.mem_map.mp marker
  obtain ⟨preceding, following, fits⟩ := reads.exists_fits inside
  cases construct with
  | named letters =>
    cases same
    obtain ⟨⟨first, more, rfl, _⟩, ⟨whole, _⟩, _⟩ := fits
    rw [MarkerStyle.IsName, String.toList_ofList]
    exact ⟨List.cons_ne_nil first more, whole⟩
  | _ => cases same

/-- What is filled in has a name for each portable marker of the template. -/
theorem Fills.length_names (fills : dialect.Fills args unused lexemes pieces) :
    (({} : Assembly).names dialect.markerStyle pieces).length =
      lexemes.countP Marker.Lexeme.isPortable := by
  rw [Assembly.length_names, ← List.countP_eq_length_filter, fills.countP_isMarker]

theorem Fills.sql_assemble (fills : dialect.Fills args unused lexemes pieces) (shape : Shape) :
    (dialect.assemble pieces shape).sql = Outline.written (lexemes.map Marker.Lexeme.slot)
      (({} : Assembly).names dialect.markerStyle pieces) := by
  rw [← fills.map_slot]
  exact (Assembly.sql_foldl dialect.markerStyle pieces {}).trans String.empty_append

theorem Fills.outs_assemble (fills : dialect.Fills args unused lexemes pieces) :
    (dialect.assemble pieces .rows).outs = [] := by
  rw [dialect.outs_assemble (Or.inl rfl), Assembly.outs_foldl, List.nil_append,
    List.filterMap_eq_nil_iff]
  intro pair member
  exact fills.outBind?_eq_none _ _ (List.mem_of_mem_filter (List.of_mem_zip member).1)

/-- The values that are bound go with the names of the markers. -/
theorem Fills.valueFault_assemble (fills : dialect.Fills args unused lexemes pieces) :
    (dialect.assemble pieces .rows).valueFault?
      (({} : Assembly).names dialect.markerStyle pieces) = none := by
  have counted := fills.length_names
  unfold Statement.valueFault?
  rw [fills.outs_assemble]
  unfold assemble Assembly.binds
  cases style : dialect.markerStyle with
  | numbered =>
    rw [style] at counted
    dsimp only
    rw [Assembly.positional_foldl, List.append_nil, List.reverse_reverse, fills.length_values,
      counted, List.length_nil, Nat.add_zero, Statement.countFault?, if_pos rfl]
  | named =>
    dsimp only
    rw [List.map_reverse, List.map_nil, List.append_nil, Statement.sameMembers_of_iff, if_pos rfl]
    intro name
    rw [List.mem_reverse, Assembly.mem_named_foldl fills.isOut_eq_false]
    simp only [List.map_nil, List.not_mem_nil, false_or]

/-- A statement whose markers are read back as they were made is accepted. -/
theorem Fills.check_assemble (fills : dialect.Fills args unused lexemes pieces)
    (read : Marker.nativeNames (dialect.assemble pieces .rows).sql =
      .ok (({} : Assembly).names dialect.markerStyle pieces)) :
    (dialect.assemble pieces .rows).check = .ok () := by
  have built : (dialect.assemble pieces .rows).operation ≠ Statement.definitionOperation :=
    show "raw" ≠ "ddl" by decide
  have found : (dialect.assemble pieces .rows).fault? = none := by
    unfold Statement.fault?
    rw [if_neg built, read]
    dsimp only
    rw [fills.valueFault_assemble, Statement.outFault?, fills.outs_assemble]
    rfl
  rw [Statement.check, found]

/-- **The statement of a template is read back as it was written** where its markers stand apart: a
statement has the lexemes of the template with native markers in place of the portable ones, just if
no marker runs into the text around it. Then its markers are those that were made for it, in order,
which count up where they are numbered, and they go with its values. -/
theorem translate_readBack (dialect : Dialect) (template : String) (args : Args)
    (portable : ∀ lexemes, Marker.lexemes template = .ok lexemes → hasNative lexemes = false)
    {statement : Statement} (translated : dialect.translate template args = .ok statement) :
    ∃ lexemes pieces names, Marker.lexemes template = .ok lexemes ∧
      dialect.fill args args.positional lexemes = .ok pieces ∧
      names = ({} : Assembly).names dialect.markerStyle pieces ∧
      statement.sql = Outline.written (lexemes.map Marker.Lexeme.slot) names ∧
      names.length = lexemes.countP Marker.Lexeme.isPortable ∧
      (dialect.markerStyle = .numbered →
        names = (List.range' 1 (lexemes.countP Marker.Lexeme.isPortable)).map toString) ∧
      (Marker.lexemes statement.sql = .ok (Marker.withNames lexemes names) ↔
        Marker.Spaced [] lexemes) ∧
      (Marker.Spaced [] lexemes →
        Marker.nativeNames statement.sql = .ok names ∧ statement.check = .ok ()) := by
  obtain ⟨lexemes, pieces, read, filled, rfl⟩ := (translate_eq_ok_iff portable).mp translated
  have fills := (fill_eq_ok_iff.mp filled).1
  have plain := portable lexemes read
  have sql := fills.sql_assemble .rows
  have counted := fills.length_names
  have whole : ∀ name ∈ ({} : Assembly).names dialect.markerStyle pieces,
      MarkerStyle.IsName name :=
    Assembly.isName_of_mem_names (fun _ _ member => fills.isName_of_mem read member)
      fun _ member => absurd member List.not_mem_nil
  have spaced := Marker.lexemes_withNames_iff read plain whole counted
  refine ⟨lexemes, pieces, _, read, filled, rfl, sql, counted, fun numbered => ?_,
    sql ▸ spaced, fun apart => ?_⟩
  · rw [numbered, Assembly.names_numbered, fills.countP_isMarker]
  · have names : Marker.nativeNames (dialect.assemble pieces .rows).sql =
        .ok (({} : Assembly).names dialect.markerStyle pieces) := by
      rw [Marker.nativeNames, sql, spaced.mpr apart]
      exact congrArg Except.ok (Marker.filterMap_withNames plain counted)
    exact ⟨names, fills.check_assemble names⟩

/-- Markers of one name in two spellings, one of them at the end, and none that touches a word. -/
theorem translate_readBack_repeated_name :
    let dialect : Dialect := { markerStyle := .named }
    let args : Args := { positional := [.int 7], named := [("v", .text "x")] }
    ∃ statement, dialect.translate "SELECT '?', @v||? FROM t WHERE a=@V" args = .ok statement ∧
      Marker.nativeNames statement.sql = .ok ["v", "p1", "v"] ∧ statement.check = .ok () := by
  intro dialect args
  have read : (Marker.lexemes "SELECT '?', @v||? FROM t WHERE a=@V").map
      (fun lexemes => (hasNative lexemes, decide (Marker.Spaced [] lexemes))) =
        .ok (false, true) := by
    decide +kernel
  obtain ⟨lexemes, found, parts⟩ := map_eq_ok.mp read
  simp only [Prod.mk.injEq, decide_eq_true_eq] at parts
  have portable : ∀ others, Marker.lexemes "SELECT '?', @v||? FROM t WHERE a=@V" = .ok others →
      hasNative others = false := by
    intro others also
    cases found.symm.trans also
    exact parts.1
  have translated : dialect.translate "SELECT '?', @v||? FROM t WHERE a=@V" args =
      .ok { sql := "SELECT '?', :v||:p1 FROM t WHERE a=:v"
            binds := .named [("v", .text "x"), ("p1", .int 7)]
            shape := .rows } := by
    decide +kernel
  obtain ⟨others, _, names, again, _, _, _, _, _, _, apart⟩ :=
    translate_readBack dialect _ args portable translated
  cases found.symm.trans again
  exact ⟨_, translated, by decide +kernel, (apart parts.2).2⟩

/-- A marker that touches the word behind it is read with a longer name than it was written with,
and its value is missed. -/
theorem translate_touching_word :
    let dialect : Dialect := { markerStyle := .named }
    let args : Args := { positional := [.int 1, .int 2] }
    ∃ statement, dialect.translate "SELECT * FROM t WHERE a=?AND b=?" args = .ok statement ∧
      statement.sql = "SELECT * FROM t WHERE a=:p1AND b=:p2" ∧
      Marker.nativeNames statement.sql = .ok ["p1AND", "p2"] ∧ statement.check ≠ .ok () := by
  intro dialect args
  have translated : dialect.translate "SELECT * FROM t WHERE a=?AND b=?" args =
      .ok { sql := "SELECT * FROM t WHERE a=:p1AND b=:p2"
            binds := .named [("p1", .int 1), ("p2", .int 2)]
            shape := .rows } := by
    decide +kernel
  exact ⟨_, translated, rfl, by decide +kernel, by decide +kernel⟩

end Dialect

end OracleSql
