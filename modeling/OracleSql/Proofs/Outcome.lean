/-
This file holds what can be said of an outcome that may be an error, without looking at how it came
about. Where a result came out, every part gave one. `Ensures` says that a result, if there is one,
has a property, and `FailsWith` says it of an error; `Agree` says that two results, if there are
both, are related; `Matched` says that two outcomes are both results, which are related, or both
the same error. Each follows the way outcomes are put together: a bound outcome from its parts, a
list of outcomes from its members. A statement about a builder is proved along the builder by these
rules, and cases that do not matter never show up.
-/

import Mathlib.Data.List.Forall2

namespace OracleSql

variable {ε α β γ δ : Type}

/-! ### Lists -/

/-- Two lists have the same images if their members have. -/
theorem map_eq_map_iff {image : α → γ} {other : β → γ} (items : List α) (others : List β) :
    items.map image = others.map other ↔
      List.Forall₂ (fun left right => image left = other right) items others := by
  rw [← List.forall₂_eq_eq_eq, List.forall₂_map_left_iff, List.forall₂_map_right_iff]

/-- Members that are related stay so when they are numbered. -/
theorem forall₂_zipIdx {relation : α → β → Prop} {items : List α} {others : List β}
    (related : List.Forall₂ relation items others) (start : Nat) :
    List.Forall₂ (fun left right => relation left.1 right.1 ∧ left.2 = right.2)
      (items.zipIdx start) (others.zipIdx start) := by
  induction related generalizing start with
  | nil => exact .nil
  | cons head _ inductionHypothesis => exact .cons ⟨head, rfl⟩ (inductionHypothesis (start + 1))

/-- Lists of one length meet related members of related lists. -/
theorem forall₂_zip {relation : γ → δ → Prop} {items : List α} {others : List β}
    (same : items.length = others.length) {third : List γ} {fourth : List δ}
    (related : List.Forall₂ relation third fourth) :
    List.Forall₂ (fun left right => relation left.2 right.2) (items.zip third)
      (others.zip fourth) := by
  induction related generalizing items others with
  | nil =>
    rw [List.zip_nil_right, List.zip_nil_right]
    exact .nil
  | cons head _ inductionHypothesis =>
    cases items with
    | nil =>
      cases List.eq_nil_of_length_eq_zero same.symm
      exact .nil
    | cons item rest =>
      obtain ⟨other, further, rfl⟩ := List.exists_cons_of_length_eq_add_one same.symm
      exact .cons head (inductionHypothesis (Nat.succ.inj same))

/-- A list of one member is related to a list of one. -/
theorem forall₂_single {relation : α → β → Prop} {items : List α} {others : List β}
    (related : List.Forall₂ relation items others) (single : items.length = 1) :
    ∃ item other, items = [item] ∧ others = [other] ∧ relation item other := by
  obtain ⟨item, rfl⟩ := List.length_eq_one_iff.mp single
  obtain ⟨other, rest, head, tail, rfl⟩ := List.forall₂_cons_left_iff.mp related
  cases tail
  exact ⟨item, other, rfl, rfl, head⟩

/-- Related lists are empty together. -/
theorem forall₂_isEmpty {relation : α → β → Prop} {items : List α} {others : List β}
    (related : List.Forall₂ relation items others) : items.isEmpty = others.isEmpty := by
  cases related <;> rfl

/-- Lists whose members are related through something have a list of it between them. -/
theorem forall₂_middle {relation : α → β → Prop} {further : β → γ → Prop} {items : List α}
    {others : List γ}
    (related : List.Forall₂ (fun left right => ∃ middle, relation left middle ∧
      further middle right) items others) :
    ∃ middles, List.Forall₂ relation items middles ∧ List.Forall₂ further middles others := by
  induction related with
  | nil => exact ⟨[], .nil, .nil⟩
  | cons head _ inductionHypothesis =>
    obtain ⟨middle, left, right⟩ := head
    obtain ⟨middles, lefts, rights⟩ := inductionHypothesis
    exact ⟨middle :: middles, .cons left lefts, .cons right rights⟩

/-- Related lists are the two sides of one list of related pairs. -/
theorem exists_pairs_of_forall₂ {relation : α → β → Prop} {items : List α} {others : List β}
    (related : List.Forall₂ relation items others) :
    ∃ pairs : List (α × β), pairs.map Prod.fst = items ∧ pairs.map Prod.snd = others ∧
      ∀ pair ∈ pairs, relation pair.1 pair.2 := by
  induction related with
  | nil => exact ⟨[], rfl, rfl, fun pair member => absurd member List.not_mem_nil⟩
  | cons head _ inductionHypothesis =>
    obtain ⟨pairs, rfl, rfl, each⟩ := inductionHypothesis
    exact ⟨(_, _) :: pairs, rfl, rfl, List.forall_mem_cons.mpr ⟨head, each⟩⟩

/-- A member of the first of two related lists has a partner in the second. -/
theorem exists_of_forall₂ {relation : α → β → Prop} {items : List α} {others : List β}
    (related : List.Forall₂ relation items others) {item : α} (member : item ∈ items) :
    ∃ other ∈ others, relation item other := by
  obtain ⟨pairs, rfl, rfl, each⟩ := exists_pairs_of_forall₂ related
  obtain ⟨pair, inside, rfl⟩ := List.mem_map.mp member
  exact ⟨pair.2, List.mem_map_of_mem inside, each pair inside⟩

/-- Where all members of a list differ, their partners do. -/
theorem pairwise_of_forall₂ {relation : α → β → Prop} {differ : α → α → Prop}
    {further : β → β → Prop} {items : List α} {others : List β}
    (related : List.Forall₂ relation items others) (apart : items.Pairwise differ)
    (implies : ∀ {first second one other}, differ first second → relation first one →
      relation second other → further one other) : others.Pairwise further := by
  induction related with
  | nil => exact .nil
  | cons first rest inductionHypothesis =>
    obtain ⟨differs, apart⟩ := List.pairwise_cons.mp apart
    refine .cons (fun other member => ?_) (inductionHypothesis apart)
    obtain ⟨item, listed, second⟩ := exists_of_forall₂ rest.flip member
    exact implies (differs item listed) first second

/-! ### Results -/

/-- A bound outcome has a result only where both of its parts have one. -/
theorem bind_eq_ok {outcome : Except ε α} {next : α → Except ε β} {result : β} :
    outcome >>= next = .ok result ↔ ∃ first, outcome = .ok first ∧ next first = .ok result := by
  cases outcome with
  | error failure =>
    constructor
    · intro impossible
      cases impossible
    · rintro ⟨_, impossible, _⟩
      cases impossible
  | ok first =>
    constructor
    · intro same
      exact ⟨first, rfl, same⟩
    · rintro ⟨other, same, built⟩
      cases same
      exact built

/-- A guarded outcome has a result only where the guard lets it pass. -/
theorem guarded_eq_ok {refused : Prop} [Decidable refused] {failure : ε} {outcome : Except ε α}
    {result : α} :
    (if refused then .error failure else outcome) = .ok result ↔
      ¬refused ∧ outcome = .ok result := by
  split
  next refusal =>
    exact ⟨(fun impossible => nomatch impossible), fun parts => absurd refusal parts.1⟩
  next passes => exact ⟨fun same => ⟨passes, same⟩, fun parts => parts.2⟩

/-- A mapped outcome has a result only where the outcome has one. -/
theorem map_eq_ok {outcome : Except ε α} {change : α → β} {result : β} :
    outcome.map change = .ok result ↔ ∃ first, outcome = .ok first ∧ change first = result := by
  cases outcome with
  | error failure => simp [Except.map]
  | ok first => simp [Except.map]

theorem mapError_eq_ok {outcome : Except ε α} {change : ε → γ} {result : α} :
    outcome.mapError change = .ok result ↔ outcome = .ok result := by
  cases outcome with
  | error failure => simp [Except.mapError]
  | ok first => simp [Except.mapError]

theorem mapError_eq_error {outcome : Except ε α} {change : ε → γ} {failure : γ} :
    outcome.mapError change = .error failure ↔
      ∃ inner, outcome = .error inner ∧ change inner = failure := by
  cases outcome with
  | error inner => simp [Except.mapError]
  | ok first => simp [Except.mapError]

/-- An outcome that is no error has a result. -/
theorem exists_of_isOk {outcome : Except ε α} (good : outcome.isOk = true) :
    ∃ result, outcome = .ok result := by
  cases outcome with
  | error failure => cases good
  | ok result => exact ⟨result, rfl⟩

/-- A list of outcomes has a list of results where each of them has its result. -/
theorem mapM_eq_ok_iff {items : List α} {step : α → Except ε β} {results : List β} :
    items.mapM step = .ok results ↔
      List.Forall₂ (fun item result => step item = .ok result) items results := by
  induction items generalizing results with
  | nil =>
    rw [List.mapM_nil, List.forall₂_nil_left_iff]
    exact ⟨fun same => (Except.ok.inj same).symm, fun same => congrArg Except.ok same.symm⟩
  | cons item rest inductionHypothesis =>
    rw [List.mapM_cons, bind_eq_ok, List.forall₂_cons_left_iff]
    constructor
    · rintro ⟨result, first, others⟩
      obtain ⟨further, each, same⟩ := bind_eq_ok.mp others
      exact ⟨result, further, first, inductionHypothesis.mp each, (Except.ok.inj same).symm⟩
    · rintro ⟨result, further, first, each, rfl⟩
      exact ⟨result, first, bind_eq_ok.mpr ⟨further, inductionHypothesis.mpr each, rfl⟩⟩

/-- A check of a list accepts it just if it accepts each member. -/
theorem forM_eq_ok_iff {items : List α} {check : α → Except ε Unit} :
    items.forM check = .ok () ↔ ∀ item ∈ items, check item = .ok () := by
  induction items with
  | nil => exact ⟨fun _ _ member => absurd member List.not_mem_nil, fun _ => rfl⟩
  | cons item rest inductionHypothesis =>
    rw [List.forall_mem_cons, ← inductionHypothesis]
    show (check item >>= fun _ => rest.forM check) = .ok () ↔ _
    rw [bind_eq_ok]
    exact ⟨fun ⟨_, first, others⟩ => ⟨first, others⟩, fun ⟨first, others⟩ => ⟨(), first, others⟩⟩

/-- Steps that have the same outcomes for all members have the same outcome for the list. -/
theorem mapM_congr {items : List α} {step other : α → Except ε β}
    (same : ∀ item ∈ items, step item = other item) : items.mapM step = items.mapM other := by
  induction items with
  | nil => rfl
  | cons item rest inductionHypothesis =>
    obtain ⟨first, others⟩ := List.forall_mem_cons.mp same
    rw [List.mapM_cons, List.mapM_cons, first, inductionHypothesis others]

/-- Outcomes that each have a result have a list of them. -/
theorem exists_mapM_eq_ok {items : List α} {step : α → Except ε β}
    (each : ∀ item ∈ items, ∃ result, step item = .ok result) :
    ∃ results, items.mapM step = .ok results := by
  induction items with
  | nil => exact ⟨[], rfl⟩
  | cons item rest inductionHypothesis =>
    obtain ⟨first, others⟩ := List.forall_mem_cons.mp each
    obtain ⟨result, built⟩ := first
    obtain ⟨results, more⟩ := inductionHypothesis others
    exact ⟨result :: results, mapM_eq_ok_iff.mpr (.cons built (mapM_eq_ok_iff.mp more))⟩

/-! ### One outcome -/

/-- A result of the outcome, if there is one, has the property. -/
def Ensures (property : α → Prop) (outcome : Except ε α) : Prop :=
  ∀ result, outcome = .ok result → property result

namespace Ensures

theorem ok {property : α → Prop} {result : α} (holds : property result) :
    Ensures property (.ok result : Except ε α) := by
  intro other same
  cases same
  exact holds

theorem error {property : α → Prop} (failure : ε) :
    Ensures property (.error failure : Except ε α) := by
  intro other same
  cases same

theorem anything (outcome : Except ε α) : Ensures (fun _ => True) outcome :=
  fun _ _ => trivial

theorem mono {property weaker : α → Prop} {outcome : Except ε α}
    (ensures : Ensures property outcome) (implies : ∀ result, property result → weaker result) :
    Ensures weaker outcome :=
  fun result same => implies result (ensures result same)

theorem and {property further : α → Prop} {outcome : Except ε α}
    (first : Ensures property outcome) (second : Ensures further outcome) :
    Ensures (fun result => property result ∧ further result) outcome :=
  fun result same => ⟨first result same, second result same⟩

theorem bind {property : α → Prop} {further : β → Prop} {outcome : Except ε α}
    {next : α → Except ε β} (first : Ensures property outcome)
    (second : ∀ result, property result → Ensures further (next result)) :
    Ensures further (outcome >>= next) := by
  cases outcome with
  | error failure => exact error failure
  | ok result => exact second result (first result rfl)

theorem map {property : α → Prop} {further : β → Prop} {outcome : Except ε α} {change : α → β}
    (first : Ensures property outcome)
    (second : ∀ result, property result → further (change result)) :
    Ensures further (outcome.map change) := by
  cases outcome with
  | error failure => exact error failure
  | ok result => exact ok (second result (first result rfl))

theorem mapError {property : α → Prop} {outcome : Except ε α} (change : ε → γ)
    (first : Ensures property outcome) : Ensures property (outcome.mapError change) := by
  cases outcome with
  | error failure => exact error _
  | ok result => exact ok (first result rfl)

/-- As many results come out of a list of outcomes as there are members. -/
theorem mapM_length (items : List α) (step : α → Except ε β) :
    Ensures (fun results => results.length = items.length) (items.mapM step) := by
  induction items with
  | nil => exact ok rfl
  | cons item rest inductionHypothesis =>
    rw [List.mapM_cons]
    refine bind (anything (step item)) fun result _ => ?_
    refine bind inductionHypothesis fun results same => ?_
    exact ok (congrArg Nat.succ same)

/-- The results of a list of outcomes have the property that each of them ensures. -/
theorem mapM {property : β → Prop} {items : List α} {step : α → Except ε β}
    (each : ∀ item ∈ items, Ensures property (step item)) :
    Ensures (fun results => ∀ result ∈ results, property result) (items.mapM step) := by
  induction items with
  | nil => exact ok (by simp)
  | cons item rest inductionHypothesis =>
    rw [List.mapM_cons]
    refine bind (each item List.mem_cons_self) fun result first => ?_
    refine bind (inductionHypothesis fun other member =>
      each other (List.mem_cons_of_mem _ member)) fun results others => ?_
    refine ok fun other member => ?_
    rcases List.mem_cons.mp member with rfl | member
    · exact first
    · exact others other member

end Ensures

/-- The error of the outcome, if there is one, has the property. -/
def FailsWith (property : ε → Prop) (outcome : Except ε α) : Prop :=
  ∀ failure, outcome = .error failure → property failure

namespace FailsWith

theorem ok {property : ε → Prop} (result : α) : FailsWith property (.ok result : Except ε α) := by
  intro failure impossible
  cases impossible

theorem error {property : ε → Prop} {failure : ε} (holds : property failure) :
    FailsWith property (.error failure : Except ε α) := by
  intro other same
  cases same
  exact holds

theorem bind {property : ε → Prop} {outcome : Except ε α} {next : α → Except ε β}
    (first : FailsWith property outcome) (second : ∀ result, FailsWith property (next result)) :
    FailsWith property (outcome >>= next) := by
  cases outcome with
  | error failure => exact error (first failure rfl)
  | ok result => exact second result

theorem map {property : ε → Prop} {outcome : Except ε α} (change : α → β)
    (first : FailsWith property outcome) : FailsWith property (outcome.map change) := by
  cases outcome with
  | error failure => exact error (first failure rfl)
  | ok result => exact ok _

theorem mapError {property : γ → Prop} (change : ε → γ) (outcome : Except ε α)
    (each : ∀ failure, property (change failure)) :
    FailsWith property (outcome.mapError change) := by
  cases outcome with
  | error failure => exact error (each failure)
  | ok result => exact ok result

/-- A list of outcomes fails as one of its members does. -/
theorem mapM {property : ε → Prop} {items : List α} {step : α → Except ε β}
    (each : ∀ item ∈ items, FailsWith property (step item)) :
    FailsWith property (items.mapM step) := by
  induction items with
  | nil => exact ok []
  | cons item rest inductionHypothesis =>
    obtain ⟨first, others⟩ := List.forall_mem_cons.mp each
    rw [List.mapM_cons]
    exact bind first fun _ => bind (inductionHypothesis others) fun _ => ok _

end FailsWith

/-! ### Two outcomes -/

/-- The results of two outcomes, if there are both, are related. -/
def Agree (relation : α → β → Prop) (first : Except ε α) (second : Except ε β) : Prop :=
  ∀ left right, first = .ok left → second = .ok right → relation left right

namespace Agree

theorem ok {relation : α → β → Prop} {left : α} {right : β} (related : relation left right) :
    Agree relation (.ok left : Except ε α) (.ok right) := by
  intro other another same also
  cases same
  cases also
  exact related

theorem errorLeft {relation : α → β → Prop} (failure : ε) (second : Except ε β) :
    Agree relation (.error failure : Except ε α) second := by
  intro left right same
  cases same

theorem errorRight {relation : α → β → Prop} (first : Except ε α) (failure : ε) :
    Agree relation first (.error failure : Except ε β) := by
  intro left right _ same
  cases same

theorem anything (first : Except ε α) (second : Except ε β) :
    Agree (fun _ _ => True) first second :=
  fun _ _ _ _ => trivial

theorem self {relation : α → α → Prop} (outcome : Except ε α)
    (reflexive : ∀ result, relation result result) : Agree relation outcome outcome := by
  intro left right same also
  rw [same] at also
  cases also
  exact reflexive left

theorem mono {relation weaker : α → β → Prop} {first : Except ε α} {second : Except ε β}
    (agree : Agree relation first second)
    (implies : ∀ left right, relation left right → weaker left right) :
    Agree weaker first second :=
  fun left right same also => implies left right (agree left right same also)

/-- Outcomes with the same image have results with the same image. -/
theorem ofMap {image : α → γ} {other : β → γ} {first : Except ε α} {second : Except ε β}
    (same : first.map image = second.map other) :
    Agree (fun left right => image left = other right) first second := by
  intro left right built also
  rw [built, also] at same
  exact Except.ok.inj same

/-- What each of two outcomes ensures by itself relates their results. -/
theorem ofEnsures {relation : α → β → Prop} {property : α → Prop} {further : β → Prop}
    {first : Except ε α} {second : Except ε β} (one : Ensures property first)
    (other : Ensures further second)
    (related : ∀ left right, property left → further right → relation left right) :
    Agree relation first second :=
  fun left right same also => related left right (one left same) (other right also)

theorem bind {relation : α → β → Prop} {further : γ → δ → Prop} {first : Except ε α}
    {second : Except ε β} {next : α → Except ε γ} {other : β → Except ε δ}
    (agree : Agree relation first second)
    (step : ∀ left right, relation left right → Agree further (next left) (other right)) :
    Agree further (first >>= next) (second >>= other) := by
  cases first with
  | error failure => exact errorLeft failure _
  | ok left =>
    cases second with
    | error failure => exact errorRight _ failure
    | ok right => exact step left right (agree left right rfl rfl)

theorem map {relation : α → β → Prop} {further : γ → δ → Prop} {first : Except ε α}
    {second : Except ε β} {change : α → γ} {other : β → δ} (agree : Agree relation first second)
    (step : ∀ left right, relation left right → further (change left) (other right)) :
    Agree further (first.map change) (second.map other) := by
  cases first with
  | error failure => exact errorLeft failure _
  | ok left =>
    cases second with
    | error failure => exact errorRight _ failure
    | ok right => exact ok (step left right (agree left right rfl rfl))

theorem mapError {relation : α → β → Prop} {first : Except ε α} {second : Except ε β}
    (change other : ε → δ) (agree : Agree relation first second) :
    Agree relation (first.mapError change) (second.mapError other) := by
  cases first with
  | error failure => exact errorLeft _ _
  | ok left =>
    cases second with
    | error failure => exact errorRight _ _
    | ok right => exact ok (agree left right rfl rfl)

/-- Two lists of outcomes agree member by member if their sources do. -/
theorem mapM {source : α → β → Prop} {relation : γ → δ → Prop} {items : List α} {others : List β}
    {step : α → Except ε γ} {other : β → Except ε δ} (alike : List.Forall₂ source items others)
    (each : ∀ left right, source left right → Agree relation (step left) (other right)) :
    Agree (List.Forall₂ relation) (items.mapM step) (others.mapM other) := by
  induction alike with
  | nil => exact ok .nil
  | cons head _ inductionHypothesis =>
    rw [List.mapM_cons, List.mapM_cons]
    refine bind (each _ _ head) fun left right related => ?_
    exact bind inductionHypothesis fun lefts rights tail => ok (.cons related tail)

end Agree

/-! ### Matched outcomes -/

/-- Two outcomes have results that are related, or the same error. -/
inductive Matched (relation : α → β → Prop) : Except ε α → Except ε β → Prop
  | ok {left : α} {right : β} (related : relation left right) :
      Matched relation (.ok left) (.ok right)
  | error (failure : ε) : Matched relation (.error failure) (.error failure)

namespace Matched

theorem mono {relation weaker : α → β → Prop} {first : Except ε α} {second : Except ε β}
    (matched : Matched relation first second)
    (implies : ∀ left right, relation left right → weaker left right) :
    Matched weaker first second := by
  cases matched with
  | ok related => exact ok (implies _ _ related)
  | error failure => exact error failure

/-- An outcome matches itself in what it ensures. -/
theorem self {property : α → Prop} {outcome : Except ε α} (ensures : Ensures property outcome) :
    Matched (fun left right => left = right ∧ property left) outcome outcome := by
  cases outcome with
  | error failure => exact error failure
  | ok result => exact ok ⟨rfl, ensures result rfl⟩

theorem bind {relation : α → β → Prop} {further : γ → δ → Prop} {first : Except ε α}
    {second : Except ε β} {next : α → Except ε γ} {other : β → Except ε δ}
    (matched : Matched relation first second)
    (step : ∀ left right, relation left right → Matched further (next left) (other right)) :
    Matched further (first >>= next) (second >>= other) := by
  cases matched with
  | ok related => exact step _ _ related
  | error failure => exact error failure

theorem refl (outcome : Except ε α) : Matched Eq outcome outcome := by
  cases outcome with
  | error failure => exact error failure
  | ok result => exact ok rfl

/-- What follows one outcome on both sides is matched if it is matched for each result. -/
theorem bindSame {further : γ → δ → Prop} (outcome : Except ε α) {next : α → Except ε γ}
    {other : α → Except ε δ} (step : ∀ result, Matched further (next result) (other result)) :
    Matched further (outcome >>= next) (outcome >>= other) := by
  refine bind (refl outcome) ?_
  rintro result _ rfl
  exact step result

/-- The same for an outcome with results of a kind. -/
theorem bindSelf {property : α → Prop} {further : γ → δ → Prop} {outcome : Except ε α}
    {next : α → Except ε γ} {other : α → Except ε δ} (ensures : Ensures property outcome)
    (step : ∀ result, property result → Matched further (next result) (other result)) :
    Matched further (outcome >>= next) (outcome >>= other) := by
  refine bind (self ensures) ?_
  rintro result _ ⟨rfl, holds⟩
  exact step result holds

theorem map {relation : α → β → Prop} {further : γ → δ → Prop} {first : Except ε α}
    {second : Except ε β} {change : α → γ} {other : β → δ} (matched : Matched relation first second)
    (step : ∀ left right, relation left right → further (change left) (other right)) :
    Matched further (first.map change) (second.map other) := by
  cases matched with
  | ok related => exact ok (step _ _ related)
  | error failure => exact error failure

theorem mapError {relation : α → β → Prop} {first : Except ε α} {second : Except ε β}
    (change : ε → δ) (matched : Matched relation first second) :
    Matched relation (first.mapError change) (second.mapError change) := by
  cases matched with
  | ok related => exact ok related
  | error failure => exact error _

/-- Two traversals of one list are matched if they are at each of its members. -/
theorem mapM {relation : γ → δ → Prop} {items : List α} {step : α → Except ε γ}
    {other : α → Except ε δ} (each : ∀ item ∈ items, Matched relation (step item) (other item)) :
    Matched (List.Forall₂ relation) (items.mapM step) (items.mapM other) := by
  induction items with
  | nil => exact ok .nil
  | cons item rest inductionHypothesis =>
    obtain ⟨head, tail⟩ := List.forall_mem_cons.mp each
    rw [List.mapM_cons, List.mapM_cons]
    refine bind head fun left right related => ?_
    exact bind (inductionHypothesis tail) fun lefts rights others => ok (.cons related others)

end Matched

end OracleSql
