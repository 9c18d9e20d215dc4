/-
This file holds facts about characters in a row: how far a run of them goes, what stands on either
side of a character, and what is left of a text when the blanks at its ends are taken off.
-/

import Mathlib.Data.List.DropRight
import Mathlib.Data.List.TakeWhile
import OracleSql.Text.Blank

namespace OracleSql.Text

/-! ### Runs -/

/-- A run goes up to the first character that does not belong to it. -/
theorem takeWhile_append_of_stop {keep : Char → Bool} {name rest : List Char}
    (kept : ∀ letter ∈ name, keep letter = true) (stop : ∀ mark ∈ rest.head?, keep mark = false) :
    (name ++ rest).takeWhile keep = name ∧ (name ++ rest).dropWhile keep = rest := by
  rw [List.takeWhile_append_of_pos kept, List.dropWhile_append_of_pos kept]
  cases rest with
  | nil => exact ⟨List.append_nil name, rfl⟩
  | cons mark others =>
    have ends := stop mark rfl
    rw [List.takeWhile_cons_of_neg (by simp [ends]), List.dropWhile_cons_of_neg (by simp [ends])]
    exact ⟨List.append_nil name, rfl⟩

/-- Letters are a run and a rest that does not go on with it. -/
theorem exists_run (keep : Char → Bool) (letters : List Char) :
    ∃ run rest, letters = run ++ rest ∧ (∀ letter ∈ run, keep letter = true) ∧
      ∀ mark ∈ rest.head?, keep mark = false := by
  refine ⟨letters.takeWhile keep, letters.dropWhile keep,
    List.takeWhile_append_dropWhile.symm, fun letter => List.mem_takeWhile_imp,
    fun mark first => ?_⟩
  have stopped := List.head?_dropWhile_not keep letters
  rw [Option.mem_def.mp first] at stopped
  exact stopped

/-- What belongs to a run still belongs to it if more is written behind. -/
theorem mem_takeWhile_append {keep : Char → Bool} {front : List Char} {letter : Char}
    (member : letter ∈ front.takeWhile keep) (rest : List Char) :
    letter ∈ (front ++ rest).takeWhile keep := by
  rw [List.takeWhile_append]
  split
  · exact List.mem_append_left _ ((List.takeWhile_prefix keep).subset member)
  · exact member

/-! ### What stands somewhere -/

/-- What starts a text and does not hold a character starts what stands in front of it. -/
theorem exists_eq_append_of_notMem {front rest before behind : List Char} {letter : Char}
    (other : letter ∉ front) (same : front ++ rest = before ++ letter :: behind) :
    ∃ more, before = front ++ more := by
  rcases List.append_eq_append_iff.mp same with ⟨more, split, -⟩ | ⟨more, rfl, split⟩
  · exact ⟨more, split⟩
  · cases more with
    | nil => exact ⟨[], by simp⟩
    | cons head tail =>
      obtain ⟨rfl, -⟩ := List.cons.inj split
      simp at other

/-- Letters stand on one side of a character that is not among them, if they stand anywhere. -/
theorem infix_append_cons_iff {sought front back : List Char} {letter : Char}
    (other : letter ∉ sought) :
    sought <:+: front ++ letter :: back ↔ sought <:+: front ∨ sought <:+: back := by
  constructor
  · rintro ⟨before, after, split⟩
    rw [List.append_assoc] at split
    rcases List.append_eq_append_iff.mp split with ⟨middle, rfl, inside⟩ | ⟨middle, rfl, later⟩
    · rcases List.append_eq_append_iff.mp inside with ⟨rest, rfl, -⟩ | ⟨rest, rfl, same⟩
      · exact .inl ⟨before, rest, List.append_assoc _ _ _⟩
      · cases rest with
        | nil => exact .inl ⟨before, [], by simp⟩
        | cons head tail =>
          obtain ⟨rfl, -⟩ := List.cons.inj same
          simp at other
    · cases middle with
      | nil =>
        cases sought with
        | nil => exact .inl List.nil_infix
        | cons head tail =>
          obtain ⟨rfl, -⟩ := List.cons.inj later
          simp at other
      | cons head rest =>
        obtain ⟨-, rfl⟩ := List.cons.inj later
        exact .inr ⟨rest, after, List.append_assoc _ _ _⟩
  · rintro (first | second)
    · exact first.trans (List.prefix_append _ _).isInfix
    · exact second.trans ⟨front ++ [letter], [], by simp⟩

/-- A character in front that is not among the letters makes no difference. -/
theorem infix_cons_iff_right {sought back : List Char} {letter : Char} (written : sought ≠ [])
    (other : letter ∉ sought) : sought <:+: letter :: back ↔ sought <:+: back := by
  rw [← List.nil_append (letter :: back), infix_append_cons_iff other, List.infix_nil,
    or_iff_right written]

/-- Characters in front that are not among the letters make no difference. -/
theorem infix_append_iff_right {sought front back : List Char} (written : sought ≠ [])
    (others : ∀ letter ∈ front, letter ∉ sought) :
    sought <:+: front ++ back ↔ sought <:+: back := by
  induction front with
  | nil => exact Iff.rfl
  | cons letter rest inductionHypothesis =>
    obtain ⟨first, others⟩ := List.forall_mem_cons.mp others
    rw [List.cons_append, infix_cons_iff_right written first, inductionHypothesis others]

/-! ### Trimming -/

/-- Characters are dropped at the end of a text only behind the last one that stays. -/
theorem reverse_dropWhile_reverse_append {drop : Char → Bool} {front : List Char}
    (rest : List Char) (last : ∀ letter ∈ front.getLast?, drop letter = false) :
    ((front ++ rest).reverse.dropWhile drop).reverse =
      front ++ (rest.reverse.dropWhile drop).reverse := by
  have stays : front.reverse.dropWhile drop = front.reverse := by
    rw [← List.head?_reverse] at last
    cases letters : front.reverse with
    | nil => rfl
    | cons letter others =>
      rw [List.dropWhile_cons_of_neg]
      simp [last letter (by simp [letters])]
  rw [List.reverse_append, List.dropWhile_append]
  split
  next dropped =>
    rw [stays, List.isEmpty_iff.mp dropped, List.reverse_nil, List.reverse_reverse,
      List.append_nil]
  next => rw [List.reverse_append, List.reverse_reverse]

/-- Blanks are taken off a text only behind its last character that is none. -/
theorem trimEnd_append {front : List Char} (rest : List Char)
    (last : ∀ letter ∈ front.getLast?, isBlank letter = false) :
    trimEnd (front ++ rest) = front ++ trimEnd rest :=
  reverse_dropWhile_reverse_append rest last

/-- A text that starts and ends with a character that is no blank is trimmed behind it only. -/
theorem trim_append {front : List Char} (rest : List Char) (written : front ≠ [])
    (head : ∀ letter ∈ front.head?, isBlank letter = false)
    (last : ∀ letter ∈ front.getLast?, isBlank letter = false) :
    trim (String.ofList (front ++ rest)) = String.ofList (front ++ trimEnd rest) := by
  obtain ⟨letter, others, rfl⟩ := List.exists_cons_of_ne_nil written
  have starts : ((letter :: others) ++ rest).dropWhile isBlank = (letter :: others) ++ rest := by
    rw [List.cons_append, List.dropWhile_cons_of_neg]
    simp [head letter rfl]
  rw [trim, String.toList_ofList, starts, trimEnd_append rest last]

/-- A text without blanks at either end is not trimmed. -/
theorem trim_eq_self {text : String} (head : ∀ letter ∈ text.toList.head?, isBlank letter = false)
    (last : ∀ letter ∈ text.toList.getLast?, isBlank letter = false) : trim text = text := by
  by_cases written : text.toList = []
  · rw [String.toList_eq_nil_iff.mp written]
    rfl
  · have trimmed := trim_append [] written head last
    rw [List.append_nil, String.ofList_toList] at trimmed
    rw [trimmed]
    simp [trimEnd]

/-- A text that is not trimmed does not start with a blank. -/
theorem head_of_trim_eq_self {text : String} (trimmed : trim text = text) :
    ∀ letter ∈ text.toList.head?, isBlank letter = false := by
  have same : trimEnd (text.toList.dropWhile isBlank) = text.toList := by
    rw [← String.toList_ofList (l := trimEnd _)]
    exact congrArg String.toList trimmed
  have shorter : (trimEnd (text.toList.dropWhile isBlank)).length ≤
      (text.toList.dropWhile isBlank).length := by
    unfold trimEnd
    rw [List.length_reverse]
    exact (List.dropWhile_sublist _).length_le.trans_eq List.length_reverse
  rw [same] at shorter
  have whole := (List.dropWhile_sublist isBlank (l := text.toList)).eq_of_length_le shorter
  intro letter first
  have stopped := List.head?_dropWhile_not isBlank text.toList
  rw [whole, Option.mem_def.mp first] at stopped
  exact stopped

end OracleSql.Text
