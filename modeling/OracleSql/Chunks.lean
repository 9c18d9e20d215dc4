/-
This file cuts a list into chunks of one length. The chunks put together are the list; no chunk is
empty, and none is longer than the length.
-/

namespace OracleSql

/-- A list cut into chunks of a length, the last one perhaps shorter. A length of zero counts as
one. -/
def chunks {α : Type} (length : Nat) : List α → List (List α)
  | [] => []
  | first :: rest =>
    (first :: rest.take (length - 1)) :: chunks length (rest.drop (length - 1))
  termination_by items => items.length
  decreasing_by simp only [List.length_drop, List.length_cons]; omega

/-- The chunks of a list put together are the list. -/
theorem flatten_chunks {α : Type} (length : Nat) (items : List α) :
    (chunks length items).flatten = items := by
  induction items using chunks.induct length with
  | case1 =>
    rw [chunks]
    rfl
  | case2 first rest inductionHypothesis =>
    rw [chunks, List.flatten_cons, inductionHypothesis, List.cons_append, List.take_append_drop]

/-- A list is cut at the same places whatever its members are. -/
theorem chunks_map {α β : Type} (length : Nat) (change : α → β) (items : List α) :
    chunks length (items.map change) = (chunks length items).map (List.map change) := by
  induction items using chunks.induct length with
  | case1 => simp only [List.map_nil, chunks]
  | case2 first rest inductionHypothesis =>
    rw [List.map_cons, chunks, chunks, List.map_cons, ← List.map_drop, inductionHypothesis,
      List.map_cons, List.map_take]

/-- What holds of the first chunk of every list holds of all chunks. -/
theorem forall_mem_chunks {α : Type} {holds : List α → Prop} {length : Nat}
    (next : ∀ (first : α) (rest : List α), holds (first :: rest.take (length - 1))) (items : List α) :
    ∀ chunk ∈ chunks length items, holds chunk := by
  induction items using chunks.induct length with
  | case1 =>
    intro chunk impossible
    rw [chunks] at impossible
    cases impossible
  | case2 first rest inductionHypothesis =>
    rw [chunks]
    exact List.forall_mem_cons.mpr ⟨next first rest, inductionHypothesis⟩

theorem ne_nil_of_mem_chunks {α : Type} (length : Nat) (items : List α) :
    ∀ chunk ∈ chunks length items, chunk ≠ [] :=
  forall_mem_chunks (fun first _ => List.cons_ne_nil first _) items

theorem length_le_of_mem_chunks {α : Type} {length : Nat} (some : 1 ≤ length) (items : List α) :
    ∀ chunk ∈ chunks length items, chunk.length ≤ length := by
  refine forall_mem_chunks (fun first rest => ?_) items
  rw [List.length_cons, List.length_take]
  omega

/-- A part of a list that is cut into chunks has members of the list. -/
theorem mem_of_mem_chunks {α : Type} (length : Nat) (items : List α) :
    ∀ chunk ∈ chunks length items, ∀ item ∈ chunk, item ∈ items := by
  intro chunk member item inside
  rw [← flatten_chunks length items]
  exact List.mem_flatten_of_mem member inside

end OracleSql
