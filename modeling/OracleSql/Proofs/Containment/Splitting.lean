/-
This file splits the text of a statement into what the callers wrote and the rest. What callers
wrote stands in double-quoted segments that hold neither a quote nor the null character. The rest is
made of the fixed words of the builders, of separators, of markers, and of the number of seconds
that a query waits for a lock. `Splits` says that a text is such a row of parts. A part does not say
what a segment holds, so two texts with the same parts differ in nothing but their segments.

Words do not touch each other: a word is over where no further letter of a word follows. That makes
the parts of a text unique, and it is what has to be looked at where two texts are put together.
-/

import OracleSql.Proofs.Markers.Assembled

namespace OracleSql

/-! ### Parts -/

/-- A part of the text of a statement. -/
inductive TextPart where
  /-- A double-quoted segment, whatever it holds. -/
  | segment
  /-- A fixed word of the builders. -/
  | word (letters : String)
  /-- A blank, a bracket or another separator. -/
  | separator (letter : Char)
  /-- A marker with its colon. -/
  | marker (name : String)
  /-- The word WAIT with the number of seconds. -/
  | wait (seconds : Nat)
  deriving DecidableEq

/-- The words that the builders write by themselves. -/
def fixedWords : List String :=
  ["SELECT", "DISTINCT", "COUNT", "FROM", "INNER", "LEFT", "RIGHT", "FULL", "OUTER", "JOIN", "ON",
    "WHERE", "GROUP", "BY", "HAVING", "ORDER", "ASC", "DESC", "OFFSET", "FETCH", "NEXT", "ROWS",
    "ONLY", "ROWNUM", "FOR", "UPDATE", "NOWAIT", "SKIP", "LOCKED", "AND", "OR", "NOT", "LIKE", "IN",
    "IS", "NULL", "BETWEEN", "UPPER", "INSERT", "INTO", "VALUES", "DUAL", "UNION", "ALL", "SET",
    "DELETE", "RETURNING", "MERGE", "USING", "WHEN", "MATCHED", "THEN", "t", "s", "c__", "q__",
    "rn__", "0", "1"]

/-- The names of the markers of a style. -/
def MarkerStyle.HasName : MarkerStyle → String → Prop
  | numbered, name => ∃ number : Nat, name = toString number
  | named, name => ∃ number : Nat, name = "p" ++ toString number ∨ name = "ret" ++ toString number

/-- Whether a text starts with a letter of a word. -/
def startsWord (text : List Char) : Bool :=
  text.head?.any Marker.isNameChar

/-- The text is the parts in a row, and no two words of it touch. -/
inductive Splits (style : MarkerStyle) : List TextPart → List Char → Prop
  | nil : Splits style [] []
  | segment {parts : List TextPart} {rest : List Char} (content : List Char)
      (noQuote : '"' ∉ content) (noNull : '\x00' ∉ content) (others : Splits style parts rest) :
      Splits style (.segment :: parts) ('"' :: (content ++ '"' :: rest))
  | word {parts : List TextPart} {rest : List Char} {letters : String}
      (listed : letters ∈ fixedWords) (apart : startsWord rest = false)
      (others : Splits style parts rest) :
      Splits style (.word letters :: parts) (letters.toList ++ rest)
  | separator {parts : List TextPart} {rest : List Char} {letter : Char}
      (listed : isSeparator letter = true) (others : Splits style parts rest) :
      Splits style (.separator letter :: parts) (letter :: rest)
  | marker {parts : List TextPart} {rest : List Char} {name : String} (named : style.HasName name)
      (apart : startsWord rest = false) (others : Splits style parts rest) :
      Splits style (.marker name :: parts) (':' :: (name.toList ++ rest))
  | wait {parts : List TextPart} {rest : List Char} (seconds : Nat)
      (apart : startsWord rest = false) (others : Splits style parts rest) :
      Splits style (.wait seconds :: parts)
        ("WAIT".toList ++ ' ' :: ((toString seconds).toList ++ rest))

/-- The texts differ in nothing but what their quoted segments hold. -/
def SameRest (style : MarkerStyle) (first second : String) : Prop :=
  ∃ parts, Splits style parts first.toList ∧ Splits style parts second.toList

/-! ### Words -/

theorem fixedWords_isName {letters : String} (listed : letters ∈ fixedWords) :
    MarkerStyle.IsName letters := by
  have each : ∀ word ∈ fixedWords,
      word.toList ≠ [] ∧ word.toList.all Marker.isNameChar = true := by decide +kernel
  obtain ⟨some, plain⟩ := each letters listed
  exact ⟨some, List.all_eq_true.mp plain⟩

theorem MarkerStyle.HasName.isName {style : MarkerStyle} {name : String}
    (named : style.HasName name) : IsName name := by
  cases style with
  | numbered =>
    obtain ⟨number, rfl⟩ := named
    exact isName_toString number
  | named =>
    obtain ⟨number, rfl | rfl⟩ := named
    · exact isName_append "p" number (by decide)
    · exact isName_append "ret" number (by decide)

/-- Two words that are followed by the same text, and touch no further word, are the same. -/
theorem append_word_inj {one other rest more : List Char}
    (plain : ∀ letter ∈ one, Marker.isNameChar letter = true)
    (plainToo : ∀ letter ∈ other, Marker.isNameChar letter = true)
    (apart : startsWord rest = false) (apartToo : startsWord more = false)
    (same : one ++ rest = other ++ more) : one = other ∧ rest = more := by
  rcases List.append_eq_append_iff.mp same with ⟨beyond, rfl, rfl⟩ | ⟨beyond, rfl, rfl⟩
  · cases beyond with
    | nil => exact ⟨(List.append_nil one).symm, rfl⟩
    | cons letter tail =>
      have word := plainToo letter (List.mem_append_right one List.mem_cons_self)
      exact absurd (word.symm.trans apart) (by decide)
  · cases beyond with
    | nil => exact ⟨List.append_nil other, rfl⟩
    | cons letter tail =>
      have word := plain letter (List.mem_append_right other List.mem_cons_self)
      exact absurd (word.symm.trans apartToo) (by decide)

/-- What stands before the first quote is the same in the same texts. -/
theorem append_quote_inj {one other rest more : List Char} (free : '"' ∉ one)
    (freeToo : '"' ∉ other)
    (same : one ++ '"' :: rest = other ++ '"' :: more) : one = other ∧ rest = more := by
  rcases List.append_eq_append_iff.mp same with ⟨beyond, rfl, first⟩ | ⟨beyond, rfl, first⟩
  · cases beyond with
    | nil => exact ⟨(List.append_nil one).symm, (List.cons.inj first).2⟩
    | cons letter tail =>
      rw [← (List.cons.inj first).1] at freeToo
      exact absurd (List.mem_append_right one List.mem_cons_self) freeToo
  · cases beyond with
    | nil => exact ⟨List.append_nil other, (List.cons.inj first).2.symm⟩
    | cons letter tail =>
      rw [← (List.cons.inj first).1] at free
      exact absurd (List.mem_append_right other List.mem_cons_self) free

/-- A number is known from its digits. -/
theorem toString_nat_inj {number other : Nat} (same : toString number = toString other) :
    number = other := by
  have digits := congrArg String.toList same
  have toDigits (number : Nat) : (toString number).toList = Nat.toDigits 10 number :=
    Nat.toList_repr
  rw [toDigits, toDigits] at digits
  rw [← Nat.ofDigitChars_ten_toDigits (n := number), digits, Nat.ofDigitChars_ten_toDigits]

/-! ### One split -/

/-- The sign of the character that a part starts with. -/
def TextPart.opening : TextPart → Sign
  | segment => .quote
  | word _ => .word
  | separator _ => .separator
  | marker _ => .other
  | wait _ => .word

theorem Sign.ofLetter_of_isNameChar {letter : Char} (plain : Marker.isNameChar letter = true) :
    ofLetter letter = .word := by
  have separator : isSeparator letter = false := by
    rw [Bool.eq_false_iff]
    intro listed
    have each : [' ', '(', ')', ',', '.', '=', '<', '>', '*'].all
        (fun sign => !Marker.isNameChar sign) = true := by decide
    have none := List.all_eq_true.mp each letter (List.contains_iff_mem.mp listed)
    rw [plain] at none
    cases none
  have quote : letter ≠ '"' := by
    rintro rfl
    cases plain
  rw [ofLetter, if_neg (by rw [separator]; decide), if_neg quote, if_pos plain]

/-- The first part is told by the first character. -/
theorem Splits.opening_eq {style : MarkerStyle} {parts : List TextPart} {text : List Char}
    (splits : Splits style parts text) :
    parts.head?.map TextPart.opening = text.head?.map Sign.ofLetter := by
  have ofWord {word : List Char} (some : word ≠ [])
      (plain : ∀ letter ∈ word, Marker.isNameChar letter = true) (rest : List Char) :
      Option.some Sign.word = (word ++ rest).head?.map Sign.ofLetter := by
    cases word with
    | nil => exact absurd rfl some
    | cons letter tail =>
      exact congrArg Option.some
        (Sign.ofLetter_of_isNameChar (plain letter List.mem_cons_self)).symm
  cases splits with
  | nil => rfl
  | segment content noQuote noNull others => rfl
  | word listed apart others =>
    obtain ⟨some, plain⟩ := fixedWords_isName listed
    exact ofWord some plain _
  | separator listed others =>
    exact congrArg Option.some ((Sign.ofLetter_eq_separator _).mpr listed).symm
  | marker named apart others => rfl
  | wait seconds apart others => rfl

/-- A text splits into parts in one way. -/
theorem Splits.unique {style : MarkerStyle} {parts others : List TextPart} {text : List Char}
    (splits : Splits style parts text) (splitsToo : Splits style others text) : parts = others := by
  have waits : ∀ letter ∈ "WAIT".toList, Marker.isNameChar letter = true :=
    List.all_eq_true.mp (by decide)
  have unlisted {letters : String} (listed : letters ∈ fixedWords) : letters ≠ "WAIT" := by
    have each : ∀ word ∈ fixedWords, word ≠ "WAIT" := by decide +kernel
    exact each letters listed
  induction splits generalizing others with
  | nil =>
    have heads := splitsToo.opening_eq
    cases others with
    | nil => rfl
    | cons part rest => cases heads
  | segment content noQuote noNull further inductionHypothesis =>
    have heads := splitsToo.opening_eq.trans
      (Splits.segment content noQuote noNull further).opening_eq.symm
    generalize same : '"' :: (content ++ '"' :: _) = text at splitsToo
    cases splitsToo with
    | segment another noQuoteToo _ tail =>
      obtain ⟨_, rfl⟩ := append_quote_inj noQuote noQuoteToo (List.cons.inj same).2
      rw [inductionHypothesis tail]
    | _ => cases heads
  | @word parts rest letters listed apart further inductionHypothesis =>
    have heads := splitsToo.opening_eq.trans (Splits.word listed apart further).opening_eq.symm
    have plain := (fixedWords_isName listed).2
    generalize same : letters.toList ++ rest = text at splitsToo
    cases splitsToo with
    | word listedToo apartToo tail =>
      obtain ⟨letterSame, rfl⟩ := append_word_inj plain (fixedWords_isName listedToo).2 apart
        apartToo same
      rw [inductionHypothesis tail, String.toList_inj.mp letterSame]
    | wait seconds _ _ =>
      have letterSame := (append_word_inj plain waits apart rfl same).1
      exact absurd (String.toList_inj.mp letterSame) (unlisted listed)
    | _ => cases heads
  | separator listed further inductionHypothesis =>
    have heads := splitsToo.opening_eq.trans (Splits.separator listed further).opening_eq.symm
    generalize same : _ :: _ = text at splitsToo
    cases splitsToo with
    | separator _ tail =>
      obtain ⟨rfl, rfl⟩ := List.cons.inj same
      rw [inductionHypothesis tail]
    | _ => cases heads
  | marker named apart further inductionHypothesis =>
    have heads := splitsToo.opening_eq.trans (Splits.marker named apart further).opening_eq.symm
    generalize same : ':' :: _ = text at splitsToo
    cases splitsToo with
    | marker namedToo apartToo tail =>
      obtain ⟨nameSame, rfl⟩ := append_word_inj named.isName.2 namedToo.isName.2 apart apartToo
        (List.cons.inj same).2
      rw [inductionHypothesis tail, String.toList_inj.mp nameSame]
    | _ => cases heads
  | @wait parts rest seconds apart further inductionHypothesis =>
    have heads := splitsToo.opening_eq.trans (Splits.wait seconds apart further).opening_eq.symm
    have digits (number : Nat) : ∀ letter ∈ (toString number).toList,
        Marker.isNameChar letter = true := (MarkerStyle.isName_toString number).2
    generalize same : "WAIT".toList ++ ' ' :: ((toString seconds).toList ++ rest) = text
      at splitsToo
    cases splitsToo with
    | word listedToo apartToo tail =>
      have letterSame := (append_word_inj waits (fixedWords_isName listedToo).2 rfl apartToo same).1
      exact absurd (String.toList_inj.mp letterSame).symm (unlisted listedToo)
    | wait number apartToo tail =>
      have after := (List.cons.inj (List.append_cancel_left same)).2
      obtain ⟨numberSame, rfl⟩ := append_word_inj (digits seconds) (digits number) apart apartToo
        after
      rw [inductionHypothesis tail, toString_nat_inj (String.toList_inj.mp numberSame)]
    | _ => cases heads

/-! ### Texts that are put together -/

/-- What stands before a place of a text. -/
inductive Edge where
  /-- No word ends right here. -/
  | free
  /-- A word may end right here. -/
  | word
  deriving DecidableEq

namespace Edge

/-- The edge behind a character. -/
def ofLetter (letter : Char) : Edge :=
  if Marker.isNameChar letter then word else free

/-- The edge behind a text. -/
def after (before : Edge) (text : List Char) : Edge :=
  text.foldl (fun _ letter => ofLetter letter) before

theorem after_append (before : Edge) (text more : List Char) :
    before.after (text ++ more) = (before.after text).after more :=
  List.foldl_append

theorem after_cons (before : Edge) (letter : Char) (rest : List Char) :
    before.after (letter :: rest) = (ofLetter letter).after rest := rfl

/-- No text makes a word end behind it only because none ends before it. -/
theorem after_word (before : Edge) {text : List Char} (ends : before.after text = word) :
    word.after text = word := by
  cases text with
  | nil => rfl
  | cons letter rest => exact ends

theorem ofLetter_of_isSeparator {letter : Char} (listed : isSeparator letter = true) :
    ofLetter letter = free := by
  rw [ofLetter, if_neg]
  intro plain
  have signs := (Sign.ofLetter_eq_separator letter).mpr listed
  rw [Sign.ofLetter_of_isNameChar plain] at signs
  cases signs

/-- Behind a word a word ends. -/
theorem after_of_isName (before : Edge) {word : List Char} (some : word ≠ [])
    (plain : ∀ letter ∈ word, Marker.isNameChar letter = true) : before.after word = .word := by
  rw [← List.dropLast_concat_getLast some, after_append, after_cons, ofLetter,
    if_pos (plain _ (List.getLast_mem some))]
  rfl

end Edge

/-- Texts that split, and no words of which touch where they meet, split together. -/
theorem Splits.append {style : MarkerStyle} {parts others : List TextPart} {text more : List Char}
    (splits : Splits style parts text) (splitsToo : Splits style others more)
    (apart : Edge.free.after text = .word → startsWord more = false) :
    Splits style (parts ++ others) (text ++ more) := by
  have behind {word rest : List Char} (named : word ≠ [] ∧ ∀ letter ∈ word,
      Marker.isNameChar letter = true) (alone : startsWord rest = false)
      (apart : (Edge.free.after word).after rest = .word → startsWord more = false) :
      startsWord (rest ++ more) = false := by
    cases rest with
    | nil => exact apart (Edge.after_of_isName .free named.1 named.2)
    | cons letter tail => exact alone
  induction splits with
  | nil => exact splitsToo
  | segment content noQuote noNull _ inductionHypothesis =>
    rw [List.cons_append, List.cons_append, List.append_assoc, List.cons_append]
    refine .segment content noQuote noNull (inductionHypothesis fun ends => apart ?_)
    rw [Edge.after_cons, Edge.after_append]
    exact ends
  | word listed alone _ inductionHypothesis =>
    rw [List.cons_append, List.append_assoc]
    rw [Edge.after_append] at apart
    have named := fixedWords_isName listed
    refine .word listed (behind named alone apart) (inductionHypothesis fun ends => apart ?_)
    rw [Edge.after_of_isName _ named.1 named.2]
    exact Edge.after_word _ ends
  | separator listed _ inductionHypothesis =>
    refine .separator listed (inductionHypothesis fun ends => apart ?_)
    rw [Edge.after_cons, Edge.ofLetter_of_isSeparator listed]
    exact ends
  | marker named alone _ inductionHypothesis =>
    rw [List.cons_append, List.cons_append, List.append_assoc]
    rw [Edge.after_cons, Edge.after_append] at apart
    have name := named.isName
    refine .marker named (behind name alone apart) (inductionHypothesis fun ends => apart ?_)
    rw [Edge.after_of_isName _ name.1 name.2]
    exact Edge.after_word _ ends
  | wait seconds alone _ inductionHypothesis =>
    rw [List.cons_append, List.append_assoc, List.cons_append, List.append_assoc]
    rw [Edge.after_append, Edge.after_cons, Edge.after_append] at apart
    have digits := MarkerStyle.isName_toString seconds
    refine .wait seconds (behind digits alone apart) (inductionHypothesis fun ends => apart ?_)
    rw [Edge.after_of_isName _ digits.1 digits.2]
    exact Edge.after_word _ ends

/-- The text splits into the parts; it can stand where the first edge is, and the second edge is
behind it. -/
structure Fits (style : MarkerStyle) (before : Edge) (text : List Char) (parts : List TextPart)
    (after : Edge) : Prop where
  splits : Splits style parts text
  opens : before = .word → startsWord text = false
  closes : before.after text = .word → after = .word

namespace Fits

variable {style : MarkerStyle} {before middle after : Edge} {text more : List Char}
  {parts others : List TextPart}

theorem nil : Fits style before [] [] before :=
  ⟨.nil, fun _ => rfl, id⟩

/-- Where no word ends before, and a word may end behind, every text that splits can stand. -/
theorem between (splits : Splits style parts text) : Fits style .free text parts .word :=
  ⟨splits, fun impossible => Edge.noConfusion impossible, fun _ => rfl⟩

theorem append (first : Fits style before text parts middle)
    (second : Fits style middle more others after) :
    Fits style before (text ++ more) (parts ++ others) after := by
  refine ⟨first.splits.append second.splits fun ends => ?_, fun ends => ?_, fun ends => ?_⟩
  · refine second.opens (first.closes ?_)
    cases before with
    | free => exact ends
    | word => exact Edge.after_word .free ends
  · cases text with
    | nil => exact second.opens (first.closes ends)
    | cons letter rest => exact first.opens ends
  · rw [Edge.after_append] at ends
    refine second.closes ?_
    cases reached : before.after text with
    | free =>
      rw [reached] at ends
      cases middle with
      | free => exact ends
      | word => exact Edge.after_word .free ends
    | word =>
      rw [first.closes reached]
      rwa [reached] at ends

end Fits

/-! ### Fixed texts -/

/-- Whether a text of words and separators, of which the start of a word is read already, has none
but fixed words. -/
def readsFixed (word : List Char) : List Char → Bool
  | [] => word.isEmpty || fixedWords.contains (String.ofList word)
  | letter :: rest =>
    if Marker.isNameChar letter then readsFixed (word ++ [letter]) rest
    else (word.isEmpty || fixedWords.contains (String.ofList word)) &&
      isSeparator letter && readsFixed [] rest

theorem splits_of_readsFixed (style : MarkerStyle) {word text : List Char}
    (fixed : readsFixed word text = true) : ∃ parts, Splits style parts (word ++ text) := by
  -- What is read of a word is put before a rest that starts no word.
  have finished {word rest : List Char} {parts : List TextPart}
      (listed : (word.isEmpty || fixedWords.contains (String.ofList word)) = true)
      (apart : startsWord rest = false) (others : Splits style parts rest) :
      ∃ parts, Splits style parts (word ++ rest) := by
    rw [Bool.or_eq_true, List.isEmpty_iff, List.contains_iff_mem] at listed
    rcases listed with rfl | listed
    · exact ⟨parts, others⟩
    · have splits := Splits.word listed apart others
      rw [String.toList_ofList] at splits
      exact ⟨_, splits⟩
  induction text generalizing word with
  | nil => exact finished fixed rfl .nil
  | cons letter rest inductionHypothesis =>
    rw [readsFixed] at fixed
    split at fixed
    · have splits := inductionHypothesis fixed
      rwa [List.append_assoc] at splits
    · next other =>
      rw [Bool.and_eq_true, Bool.and_eq_true] at fixed
      obtain ⟨⟨listed, sign⟩, fixed⟩ := fixed
      obtain ⟨parts, splits⟩ := inductionHypothesis fixed
      exact finished listed (Bool.eq_false_iff.mpr other) (.separator sign splits)

/-- A text that the builders write, between two edges. -/
structure Fixed (before : Edge) (text : String) (after : Edge) : Prop where
  reads : readsFixed [] text.toList = true
  opens : before = .word → startsWord text.toList = false
  closes : before.after text.toList = .word → after = .word

instance (before after : Edge) (text : String) : Decidable (Fixed before text after) :=
  decidable_of_iff (readsFixed [] text.toList = true ∧
      (before = .word → startsWord text.toList = false) ∧
      (before.after text.toList = .word → after = .word))
    ⟨fun ⟨reads, opens, closes⟩ => ⟨reads, opens, closes⟩,
      fun ⟨reads, opens, closes⟩ => ⟨reads, opens, closes⟩⟩

namespace Fixed

theorem comma : Fixed .word ", " .free := by decide

theorem conjunction : Fixed .word " AND " .free := by decide

theorem bracket : Fixed .word ")" .word := by decide

theorem blank : Fixed .word " " .free := by decide

end Fixed

/-! ### Two texts -/

/-- Two texts that split into the same parts can stand between the same edges. -/
def ParallelText (style : MarkerStyle) (before : Edge) (first second : String) (after : Edge) :
    Prop :=
  ∃ parts, Fits style before first.toList parts after ∧ Fits style before second.toList parts after

namespace ParallelText

variable {style : MarkerStyle} {before middle after : Edge} {first second further another : String}

theorem fixed {text : String} (fixed : Fixed before text after) :
    ParallelText style before text text after := by
  obtain ⟨parts, splits⟩ := splits_of_readsFixed style fixed.reads
  have fits : Fits style before text.toList parts after := ⟨splits, fixed.opens, fixed.closes⟩
  exact ⟨parts, fits, fits⟩

theorem append (left : ParallelText style before first second middle)
    (right : ParallelText style middle further another after) :
    ParallelText style before (first ++ further) (second ++ another) after := by
  obtain ⟨parts, fits, fitsToo⟩ := left
  obtain ⟨others, rest, restToo⟩ := right
  refine ⟨parts ++ others, ?_, ?_⟩
  · rw [String.toList_append]
    exact fits.append rest
  · rw [String.toList_append]
    exact fitsToo.append restToo

end ParallelText

end OracleSql
