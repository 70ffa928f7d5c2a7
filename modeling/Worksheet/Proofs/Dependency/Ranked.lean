import Mathlib.Data.List.Pairwise
import Mathlib.Tactic.Lemma

/-!
# Queues that take nodes by rank

A search or a sort that puts what it finds behind the queue, each time one rank above the node that
it has taken from the front, meets nodes by rank.  The invariant that carries this: what has been met
stands by rank, the queue at its end, and goes no more than one rank beyond the front of the queue.
-/

namespace Worksheet.Dependency

variable {rank : String → Nat} {met queue found : List String} {node : String}

/-- What has been met stands by rank, and the queue at its end spans at most two ranks. -/
structure Ranked (rank : String → Nat) (met queue : List String) : Prop where
  suffix : queue <:+ met
  ordered : met.Pairwise fun a b => rank a ≤ rank b
  near : ∀ node rest, queue = node :: rest → ∀ a ∈ met, rank a ≤ rank node + 1

namespace Ranked

lemma ordered_queue (h : Ranked rank met queue) :
    queue.Pairwise fun a b => rank a ≤ rank b :=
  h.ordered.sublist h.suffix.sublist

/-- The front of the queue has the least rank of the queue. -/
lemma front_le (h : Ranked rank met (node :: queue)) : ∀ a ∈ node :: queue, rank node ≤ rank a :=
  List.forall_mem_cons.2 ⟨Nat.le_refl _, (List.pairwise_cons.1 h.ordered_queue).1⟩

/-- What has been met in front of the queue has at most the rank of its front. -/
lemma le_front {before : List String} (h : Ranked rank (before ++ node :: queue) (node :: queue)) :
    ∀ a ∈ before, rank a ≤ rank node :=
  fun a ha => (List.pairwise_append.1 h.ordered).2.2 a ha node List.mem_cons_self

/-- The front leaves the queue, and what is found from it comes behind. -/
lemma step (h : Ranked rank met (node :: queue)) (hfound : ∀ a ∈ found, rank a = rank node + 1) :
    Ranked rank (met ++ found) (queue ++ found) where
  suffix := by
    obtain ⟨before, hmet⟩ := h.suffix
    exact ⟨before ++ [node], by simp [← hmet]⟩
  ordered := by
    refine List.pairwise_append.2 ⟨h.ordered, ?_, fun a ha b hb => ?_⟩
    · refine List.pairwise_of_forall_mem_list fun a ha b hb => ?_
      exact Nat.le_of_eq ((hfound a ha).trans (hfound b hb).symm)
    · rw [hfound b hb]
      exact h.near node queue rfl a ha
  near front rest hqueue a ha := by
    -- the next front has at least the rank of the one that has left
    have hfront : rank node ≤ rank front := by
      have hmem : front ∈ queue ++ found := hqueue ▸ List.mem_cons_self
      rcases List.mem_append.1 hmem with hmem | hmem
      · exact h.front_le front (List.mem_cons_of_mem _ hmem)
      · rw [hfound front hmem]
        exact Nat.le_succ _
    rcases List.mem_append.1 ha with ha | ha
    · exact Nat.le_trans (h.near node queue rfl a ha) (Nat.succ_le_succ hfront)
    · rw [hfound a ha]
      exact Nat.succ_le_succ hfront

end Ranked

end Worksheet.Dependency
