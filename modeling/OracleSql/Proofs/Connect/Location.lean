/-
This file follows a location from its text to its parts. The controls and blanks at the ends of a
text do not matter, nor do tabs and line ends in it. A scheme goes up to the first colon, and where
it names no kind of scheme of the web, a host stands behind two slashes only. So a list of entries
is taken for a location with a host just if its first key already begins like one.

Credentials in front of a host change the user and the password of a location and nothing else.
What is written there is kept as it is written: a user and a password that were percent-encoded stay
so.
-/

import OracleSql.Connect.Target
import OracleSql.Proofs.Runs

namespace OracleSql

namespace Url

/-! ### Ends of a text -/

/-- Whether a character is dropped at the ends of a text. -/
def isEdge (letter : Char) : Bool :=
  letter.toNat ≤ 0x20

/-- Letters without those that are dropped at their end, and without tabs and line ends. -/
def cleanedEnd (letters : List Char) : List Char :=
  (letters.reverse.dropWhile isEdge).reverse.filter fun letter => letter ∉ ['\t', '\n', '\r']

theorem cleaned_eq (text : String) : cleaned text = cleanedEnd (text.toList.dropWhile isEdge) := rfl

/-- Letters that are kept, the last of them no edge, stay in front of what is cleaned. -/
theorem cleanedEnd_append {front : List Char} (rest : List Char)
    (kept : ∀ letter ∈ front, letter ∉ ['\t', '\n', '\r'])
    (last : ∀ letter ∈ front.getLast?, isEdge letter = false) :
    cleanedEnd (front ++ rest) = front ++ cleanedEnd rest := by
  have whole : front.filter (fun letter => letter ∉ ['\t', '\n', '\r']) = front :=
    List.filter_eq_self.mpr fun letter member => decide_eq_true (kept letter member)
  rw [cleanedEnd, Text.reverse_dropWhile_reverse_append rest last, List.filter_append, whole]
  rfl

/-! ### Schemes -/

/-- A scheme is what stands in front of the first colon. -/
theorem readScheme_eq_some_iff {letters rest : List Char} {scheme : String} :
    readScheme letters = some (scheme, rest) ↔
      ∃ name, letters = name ++ ':' :: rest ∧ (∀ letter ∈ name, isSchemeChar letter = true) ∧
        name.head?.any Char.isAlpha = true ∧ scheme = Text.foldLower (String.ofList name) := by
  constructor
  · intro read
    obtain ⟨name, behind, rfl, kept, stop⟩ := Text.exists_run isSchemeChar letters
    obtain ⟨taken, left⟩ := Text.takeWhile_append_of_stop kept stop
    unfold readScheme at read
    simp only [taken, left] at read
    split at read
    next others =>
      split at read
      next starts =>
        obtain ⟨rfl, rfl⟩ := Prod.mk.inj (Option.some.inj read)
        exact ⟨name, rfl, kept, starts, rfl⟩
      next => cases read
    next => cases read
  · rintro ⟨name, rfl, kept, starts, rfl⟩
    have stop : ∀ mark ∈ (':' :: rest).head?, isSchemeChar mark = false := by
      rintro mark ⟨⟩
      decide
    obtain ⟨taken, left⟩ := Text.takeWhile_append_of_stop kept stop
    unfold readScheme
    simp only [taken, left, starts, if_true]

/-! ### Authorities -/

/-- The characters of the host, those of the port if a colon stands behind it, and what is left. -/
def splitHost (letters : List Char) : List Char × Option (List Char) × List Char :=
  let (host, rest) := letters.splitAt (hostLength false letters)
  let written := rest.takeWhile (· != '\\')
  (host, if written.isEmpty then none else some (written.drop 1), rest.drop written.length)

/-- The host and the port behind a user and a password. -/
def readHost (kind : SchemeKind) (login : String × Option String) (host : List Char)
    (port : Option (List Char)) : Option (Option String × Option Nat) :=
  if kind = .free then readFreeHost host port (!login.1.isEmpty || login.2.isSome)
  else readMachine host port

/-- The user with the password, the host and the port of an authority are read on their own. -/
theorem readAuthority_eq (kind : SchemeKind) (scheme : String) (letters : List Char)
    (isLast : Bool) :
    readAuthority kind scheme letters isLast =
      let (before, after) := splitUser letters
      if before = some [] ∧ after.isEmpty ∧ !isLast then none
      else
        let login := credentials (before.getD [])
        let (host, port, left) := splitHost after
        (readHost kind login host port).map fun (host, number) =>
          ({ scheme, user := login.1, password := login.2, host, port := number }, left) := by
  unfold readAuthority
  simp only [bind]
  split
  · rfl
  · rw [Option.map_eq_bind]
    cases kind <;> rfl

theorem scheme_of_readAuthority {kind : SchemeKind} {scheme : String} {letters left : List Char}
    {isLast : Bool} {url : Url}
    (read : readAuthority kind scheme letters isLast = some (url, left)) : url.scheme = scheme := by
  rw [readAuthority_eq] at read
  simp only at read
  split at read
  · cases read
  · obtain ⟨found, -, same⟩ := Option.map_eq_some_iff.mp read
    cases same
    rfl

/-- The location of a file holds the scheme alone. -/
theorem eq_of_readFile? {scheme : String} {letters : List Char} {url : Url}
    (read : readFile? scheme letters = some url) : url = { scheme } := by
  unfold readFile? at read
  simp only at read
  split at read
  · split at read
    · split at read
      · exact (Option.some.inj read).symm
      · cases read
    · exact (Option.some.inj read).symm
  · exact (Option.some.inj read).symm

/-- A location has the scheme that its text starts with; unless it is one of the web or a file, a
host stands behind two slashes only. -/
theorem exists_scheme_of_parse? {text : String} {url : Url} (parsed : parse? text = some url) :
    ∃ letters, readScheme (cleaned text) = some (url.scheme, letters) ∧
      (SchemeKind.of url.scheme = .free → url.host ≠ none →
        ∃ rest, letters = '/' :: '/' :: rest) := by
  unfold parse? at parsed
  obtain ⟨⟨scheme, letters⟩, read, parsed⟩ := Option.bind_eq_some_iff.mp parsed
  refine ⟨letters, ?_⟩
  simp only at parsed
  split at parsed
  next =>
    rw [eq_of_readFile? parsed]
    exact ⟨read, fun _ present => absurd rfl present⟩
  next =>
    split at parsed
    next =>
      cases parsed
      exact ⟨read, fun _ present => absurd rfl present⟩
    next rest slashes =>
      obtain ⟨⟨inner, left⟩, authority, same⟩ := Option.bind_eq_some_iff.mp parsed
      cases same
      have kept : inner.scheme = scheme := scheme_of_readAuthority authority
      refine ⟨by rw [read, ← kept]; rfl, fun free _ => ?_⟩
      have kind : SchemeKind.of scheme = .free := kept ▸ free
      rw [kind] at slashes
      unfold afterSlashes? at slashes
      simp only at slashes
      split at slashes
      next rest => exact ⟨rest, rfl⟩
      next => cases slashes

/-! ### Credentials -/

/-- What stands in front of a host goes up to the last `@`. -/
theorem splitUser_append {written host : List Char} (here : '@' ∉ host) :
    splitUser (written ++ '@' :: host) = (some written, host) := by
  have split : (written ++ '@' :: host).reverse = host.reverse ++ '@' :: written.reverse := by
    simp
  have kept : ∀ letter ∈ host.reverse, (letter != '@') = true := fun letter member =>
    bne_iff_ne.mpr fun same => here (same ▸ List.mem_reverse.mp member)
  have stop : ∀ mark ∈ ('@' :: written.reverse).head?, (mark != '@') = false := by
    rintro mark ⟨⟩
    rfl
  obtain ⟨taken, -⟩ := Text.takeWhile_append_of_stop kept stop
  have before : (written ++ '@' :: host).length - host.length - 1 = written.length := by
    rw [List.length_append, List.length_cons]
    omega
  rw [splitUser, if_pos (by simp)]
  simp only [split, taken, List.reverse_reverse, before, List.take_left']

theorem splitUser_of_notMem {host : List Char} (here : '@' ∉ host) :
    splitUser host = (none, host) := by
  rw [splitUser, if_neg (by simpa using here)]

/-- A host that is there is read in the same way behind all credentials. -/
theorem readHost_free {login : String × Option String} {letters : List Char}
    {port : Option (List Char)} {host : String} {number : Option Nat}
    (read : readHost .free login letters port = some (some host, number))
    (other : String × Option String) :
    readHost .free other letters port = some (some host, number) := by
  rw [readHost, if_pos rfl, readFreeHost] at read
  rw [readHost, if_pos rfl, readFreeHost]
  split at read
  next =>
    split at read
    · cases read
    · cases (Prod.mk.inj (Option.some.inj read)).1
  next written => rw [if_neg written, read]

/-- Credentials in front of a host that is there change nothing but the user and the password. -/
theorem readAuthority_login {scheme : String} {written host left : List Char} {isLast : Bool}
    {url : Url} (named : written ≠ []) (here : '@' ∉ host)
    (read : readAuthority .free scheme host isLast = some (url, left)) (present : url.host ≠ none) :
    readAuthority .free scheme (written ++ '@' :: host) isLast =
      some ({ url with user := (credentials written).1, password := (credentials written).2 },
        left) := by
  rw [readAuthority_eq, splitUser_of_notMem here] at read
  rw [readAuthority_eq, splitUser_append here]
  simp only [Option.getD_none, Option.getD_some, Option.some.injEq, reduceCtorEq, named,
    false_and, if_false] at read ⊢
  obtain ⟨⟨name, number⟩, found, same⟩ := Option.map_eq_some_iff.mp read
  cases same
  obtain ⟨machine, rfl⟩ := Option.ne_none_iff_exists'.mp present
  rw [readHost_free found]
  rfl

/-! ### Behind two slashes -/

/-- Whether a character is dropped nowhere in a text: it is neither a blank nor an edge. -/
def isSolid (letter : Char) : Bool :=
  !Text.isBlank letter && !isEdge letter

/-- The characters of the authority that letters start with. -/
def authority (letters : List Char) : List Char :=
  letters.takeWhile fun letter => !endsAuthority .free letter

/-- The parts of a location behind its scheme and two slashes. -/
def readBehind? (scheme : String) (letters : List Char) : Option Url :=
  let others := letters.drop (authority letters).length
  (readAuthority .free scheme (authority letters) others.isEmpty).map fun (url, left) =>
    url.withRest (left ++ others)

/-- Letters of the authority of a text that is trimmed and cleaned belong to its authority
before. -/
theorem mem_authority_of_cleanedEnd {letters : List Char} {letter : Char}
    (member : letter ∈ authority (cleanedEnd (Text.trimEnd letters))) :
    letter ∈ authority letters := by
  have kept : letter ∈ authority ((Text.trimEnd letters).rdropWhile isEdge) := by
    rw [authority, cleanedEnd, List.takeWhile_filter] at member
    have same :
        (fun letter => !decide (letter ∉ ['\t', '\n', '\r']) || !endsAuthority .free letter) =
          fun letter => !endsAuthority .free letter := by
      funext letter
      by_cases dropped : letter ∈ ['\t', '\n', '\r']
      · have goesOn : ∀ letter ∈ ['\t', '\n', '\r'], endsAuthority .free letter = false :=
        List.forall_iff_forall_mem.mp (by decide)
        simp [goesOn letter dropped]
      · simp [dropped]
    rw [same] at member
    exact List.mem_of_mem_filter member
  obtain ⟨edges, whole⟩ := List.rdropWhile_prefix isEdge (Text.trimEnd letters)
  obtain ⟨blanks, all⟩ := List.rdropWhile_prefix Text.isBlank letters
  have trimmed : letter ∈ authority (Text.trimEnd letters) := by
    rw [← whole]
    exact Text.mem_takeWhile_append kept edges
  rw [← all]
  exact Text.mem_takeWhile_append trimmed blanks

/-- Credentials in front of a host that is there change nothing but the user and the password. -/
theorem readBehind?_login {scheme : String} {login letters : List Char} {url : Url}
    (written : login ≠ []) (inside : ∀ letter ∈ login, endsAuthority .free letter = false)
    (here : '@' ∉ authority letters) (read : readBehind? scheme letters = some url)
    (present : url.host ≠ none) :
    readBehind? scheme (login ++ '@' :: letters) =
      some { url with user := (credentials login).1, password := (credentials login).2 } := by
  have front : authority (login ++ '@' :: letters) = login ++ '@' :: authority letters := by
    rw [authority, List.takeWhile_append_of_pos fun letter member => by simp [inside letter member],
      List.takeWhile_cons_of_pos (by decide)]
    rfl
  have behind : (login ++ '@' :: letters).drop (login ++ '@' :: authority letters).length =
      letters.drop (authority letters).length := by
    rw [List.length_append, List.drop_length_add_append]
    rfl
  obtain ⟨⟨found, left⟩, parts, same⟩ := Option.map_eq_some_iff.mp read
  cases same
  rw [readBehind?]
  simp only [front, behind]
  rw [readAuthority_login written here parts present]
  rfl

/-- Tabs and line ends are edges. -/
theorem notMem_of_isSolid {letter : Char} (solid : isSolid letter = true) :
    letter ∉ ['\t', '\n', '\r'] := by
  have edges : ∀ dropped ∈ ['\t', '\n', '\r'], isSolid dropped = false :=
    List.forall_iff_forall_mem.mp (by decide)
  exact fun member => Bool.false_ne_true ((edges letter member).symm.trans solid)

/-- What is kept of a text starts with its first characters, if they are dropped nowhere. -/
theorem cleaned_append {front : List Char} (rest : List Char) (written : front ≠ [])
    (solid : ∀ letter ∈ front, isSolid letter = true) :
    cleaned (String.ofList (front ++ rest)) = front ++ cleanedEnd rest := by
  have inner : ∀ letter ∈ front, isEdge letter = false := fun letter member => by
    have stays := solid letter member
    rw [isSolid, Bool.and_eq_true] at stays
    exact (Bool.not_eq_true' _).mp stays.2
  have starts : (front ++ rest).dropWhile isEdge = front ++ rest := by
    obtain ⟨letter, others, rfl⟩ := List.exists_cons_of_ne_nil written
    rw [List.cons_append, List.dropWhile_cons_of_neg]
    simp [inner letter List.mem_cons_self]
  rw [cleaned_eq, String.toList_ofList, starts,
    cleanedEnd_append _ (fun letter member => notMem_of_isSolid (solid letter member))
      fun letter ends => inner letter (List.mem_of_getLast? ends)]

theorem trim_solid_append {front : List Char} (rest : List Char) (written : front ≠ [])
    (solid : ∀ letter ∈ front, isSolid letter = true) :
    Text.trim (String.ofList (front ++ rest)) = String.ofList (front ++ Text.trimEnd rest) := by
  have inner : ∀ letter ∈ front, Text.isBlank letter = false := fun letter member => by
    have stays := solid letter member
    rw [isSolid, Bool.and_eq_true] at stays
    exact (Bool.not_eq_true' _).mp stays.1
  exact Text.trim_append rest written
    (fun letter first => inner letter (List.mem_of_mem_head? first))
    fun letter ends => inner letter (List.mem_of_getLast? ends)

end Url

namespace ConnectTarget

open Url

/-- What stands between a scheme and what it opens. -/
def mark : List Char := [':', '/', '/']

/-- A text is meant as a location if the mark stands in it. -/
theorem looksLikeUrl_iff (letters : List Char) :
    looksLikeUrl letters = true ↔ mark <:+: letters := by
  fun_induction looksLikeUrl letters with
  | case1 rest => exact iff_of_true rfl ⟨[], rest, rfl⟩
  | case2 letter rest other inductionHypothesis =>
    rw [inductionHypothesis, List.infix_cons_iff, or_iff_right]
    rintro ⟨behind, same⟩
    obtain ⟨colon, slashes⟩ := List.cons.inj same
    exact other behind colon.symm slashes.symm
  | case3 => exact iff_of_false (by simp) (by decide)

/-- A text with the mark is read as a location. -/
theorem parse_of_marked {text inner : String} (trimmed : Text.trim text = inner)
    (marked : mark <:+: inner.toList) :
    parse text = (parse? inner).elim (.error .url) ofUrl := by
  have written : inner.isEmpty = false := by
    rw [String.isEmpty_eq_false_iff]
    rintro rfl
    exact absurd marked (by decide)
  unfold parse
  simp only [trimmed]
  rw [if_neg (by simp [written]), if_pos ((looksLikeUrl_iff _).mpr marked)]
  cases parse? inner <;> rfl

/-- Any other text is read as a list of entries. -/
theorem parse_of_unmarked {text inner : String} (trimmed : Text.trim text = inner)
    (written : inner ≠ "") (unmarked : ¬ mark <:+: inner.toList) :
    parse text = (KeyValue.entries inner).map (·.foldl withEntry {}) := by
  unfold parse
  simp only [trimmed]
  rw [if_neg (by simpa using written), if_neg (mt (looksLikeUrl_iff _).mp unmarked)]

/-- The scheme of a database is a name, and of the kind whose hosts stand behind two slashes. -/
theorem readScheme_of_mem {scheme : String} (known : scheme ∈ schemes) (rest : List Char) :
    readScheme (scheme.toList ++ ':' :: rest) = some (scheme, rest) := by
  have named : ∀ scheme ∈ schemes, scheme.toList.all isSchemeChar = true ∧
      scheme.toList.head?.any Char.isAlpha = true ∧
      scheme = Text.foldLower (String.ofList scheme.toList) := by decide
  obtain ⟨letters, opens, folded⟩ := named scheme known
  exact readScheme_eq_some_iff.mpr
    ⟨scheme.toList, rfl, List.all_eq_true.mp letters, opens, folded⟩

theorem kind_of_mem : ∀ scheme ∈ schemes, SchemeKind.of scheme = .free := by
  decide

/-- What is read of a text that is kept as a location of a database. -/
theorem parse?_of_cleaned {scheme text : String} {rest : List Char} (known : scheme ∈ schemes)
    (kept : cleaned text = scheme.toList ++ mark ++ rest) :
    parse? text = readBehind? scheme rest := by
  have split : scheme.toList ++ mark ++ rest = scheme.toList ++ ':' :: '/' :: '/' :: rest :=
    List.append_assoc _ _ _
  unfold parse?
  rw [kept, split, readScheme_of_mem known]
  simp only [Option.bind_eq_bind, Option.bind_some, kind_of_mem scheme known, afterSlashes?]
  rw [readBehind?, Option.map_eq_bind]
  rfl

/-- What is read of a location of a database. -/
theorem parse_located {scheme : String} (known : scheme ∈ schemes) (front rest : List Char)
    (solid : ∀ letter ∈ front, isSolid letter = true) :
    parse (String.ofList (scheme.toList ++ mark ++ front ++ rest)) =
      (readBehind? scheme (front ++ cleanedEnd (Text.trimEnd rest))).elim (.error .url) ofUrl := by
  have opened : ∀ scheme ∈ schemes, (scheme.toList ++ mark).all isSolid = true := by decide
  have whole : ∀ letter ∈ scheme.toList ++ mark ++ front, isSolid letter = true :=
    List.forall_mem_append.mpr ⟨List.all_eq_true.mp (opened scheme known), solid⟩
  have written : scheme.toList ++ mark ++ front ≠ [] := by simp [mark]
  have kept := cleaned_append (Text.trimEnd rest) written whole
  have marked : mark <:+:
      (String.ofList (scheme.toList ++ mark ++ front ++ Text.trimEnd rest)).toList := by
    rw [String.toList_ofList, List.append_assoc]
    exact ⟨_, _, rfl⟩
  rw [parse_of_marked (trim_solid_append rest written whole) marked,
    parse?_of_cleaned known (kept.trans (List.append_assoc _ _ _))]

/-- The target of a location has its host, and the settings of its query. -/
theorem ofUrl_eq_ok_iff {url : Url} {target : ConnectTarget} :
    ofUrl url = .ok target ↔
      url.scheme ∈ schemes ∧ ∃ host, url.host = some host ∧
        target = url.queryPairs.foldl withOption
          { user := url.user
            password := url.password
            target := targetText host (url.port.getD defaultPort) url.path } := by
  unfold ofUrl
  split
  next known =>
    rw [List.contains_iff_mem] at known
    cases url.host with
    | none => simp
    | some host => simp [known, eq_comm]
  next foreign =>
    rw [List.contains_iff_mem] at foreign
    simp [foreign]

/-- Credentials of a location become those of its target. -/
theorem ofUrl_login {url : Url} {bare : ConnectTarget} (read : ofUrl url = .ok bare)
    (user : String) (password : Option String) :
    ofUrl { url with user, password } = .ok { bare with user, password } := by
  obtain ⟨known, host, present, rfl⟩ := ofUrl_eq_ok_iff.mp read
  refine ofUrl_eq_ok_iff.mpr ⟨known, host, present, ?_⟩
  refine (List.foldl_hom (fun target : ConnectTarget => { target with user, password })
    fun target entry => ?_).symm
  unfold withOption
  split <;> rfl

/-- Credentials in a location of a database change nothing but the user and the password. -/
theorem parse_login {scheme : String} (known : scheme ∈ schemes) {login rest : List Char}
    (written : login ≠ []) (solid : ∀ letter ∈ login, isSolid letter = true)
    (inside : ∀ letter ∈ login, endsAuthority .free letter = false)
    (here : '@' ∉ authority rest) {bare : ConnectTarget}
    (read : parse (String.ofList (scheme.toList ++ mark ++ rest)) = .ok bare) :
    parse (String.ofList (scheme.toList ++ mark ++ (login ++ '@' :: rest))) =
      .ok { bare with user := (credentials login).1, password := (credentials login).2 } := by
  have direct := parse_located known [] rest (List.forall_mem_nil _)
  rw [List.append_nil, read, List.nil_append] at direct
  have behind := parse_located known (login ++ ['@']) rest
    (List.forall_mem_append.mpr ⟨solid, List.forall_mem_singleton.mpr (by decide)⟩)
  cases found : readBehind? scheme (cleanedEnd (Text.trimEnd rest)) with
  | none =>
    rw [found] at direct
    cases direct
  | some url =>
    rw [found] at direct
    obtain ⟨-, host, present, -⟩ := ofUrl_eq_ok_iff.mp direct.symm
    have further := readBehind?_login written inside
      (fun member => here (mem_authority_of_cleanedEnd member)) found (by simp [present])
    rw [List.append_assoc, List.append_assoc login, List.append_assoc login,
      List.singleton_append, List.singleton_append, further] at behind
    rw [behind, ← ofUrl_login direct.symm]
    rfl

end ConnectTarget

end OracleSql
