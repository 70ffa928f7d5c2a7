import Mathlib.Data.List.Perm.Subperm
import Worksheet.Dependency.Order
import Worksheet.Proofs.Dependency.Links

/-!
# Affected nodes are the reachable ones

The search in breadth finds every node that links lead to from the changed one, and nothing else.
What carries it: a node that has been reached and has left the queue has all its dependents reached,
and there is fuel for as many nodes as can still leave the queue.
-/

namespace Worksheet.Dependency.Graph

open Relation

variable {g : Graph}

/-- The invariant of the search inside `scope`: `fuel` is enough for the nodes that may still
leave the queue. -/
structure Searching (g : Graph) (scope : List String) (fuel : Nat)
    (reached queue : List String) : Prop where
  nodup : reached.Nodup
  inside : reached ⊆ scope
  searched : ∀ a ∈ reached, a ∉ queue → ∀ b, g.Linked a b → b ∈ reached
  fuel_enough : scope.length + queue.length ≤ fuel + reached.length

/-- The dependents of a node that have not been reached, each once. -/
def fresh (g : Graph) (reached : List String) (node : String) : List String :=
  Keyed.distinct ((g.dependents node).filter fun t => t ∉ reached)

lemma spread_succ_cons (fuel : Nat) (reached : List String) (node : String)
    (queue : List String) :
    g.spread (fuel + 1) reached (node :: queue) =
      g.spread fuel (reached ++ g.fresh reached node) (queue ++ g.fresh reached node) := rfl

lemma spread_nil (fuel : Nat) (reached : List String) : g.spread fuel reached [] = reached := by
  cases fuel <;> rfl

lemma mem_fresh {reached : List String} {node t : String} :
    t ∈ g.fresh reached node ↔ g.Linked node t ∧ t ∉ reached := by
  simp [fresh]

lemma Searching.step {scope queue reached : List String} {fuel : Nat} {node : String}
    (hclosed : ∀ a b, g.Linked a b → b ∈ scope)
    (h : Searching g scope (fuel + 1) reached (node :: queue)) :
    Searching g scope fuel (reached ++ g.fresh reached node) (queue ++ g.fresh reached node) where
  nodup := by
    refine List.nodup_append.2 ⟨h.nodup, Keyed.nodup_distinct _, ?_⟩
    rintro a ha b hb rfl
    exact (mem_fresh.1 hb).2 ha
  inside := by
    refine List.append_subset.2 ⟨h.inside, fun t ht => ?_⟩
    exact hclosed node t (mem_fresh.1 ht).1
  searched a ha hout b hab := by
    rw [List.mem_append] at ha hout ⊢
    have hold : a ∈ reached := ha.resolve_right fun hf => hout (Or.inr hf)
    by_cases hnode : a = node
    · subst hnode
      by_cases hb : b ∈ reached
      · exact Or.inl hb
      · exact Or.inr (mem_fresh.2 ⟨hab, hb⟩)
    · refine Or.inl (h.searched a hold ?_ b hab)
      rw [List.mem_cons]
      rintro (heq | hq)
      · exact hnode heq
      · exact hout (Or.inl hq)
  fuel_enough := by
    have := h.fuel_enough
    simp only [List.length_cons, List.length_append] at this ⊢
    omega

/-- When the fuel has run out, so has the queue. -/
lemma Searching.queue_eq_nil {scope queue reached : List String}
    (h : Searching g scope 0 reached queue) : queue = [] := by
  have hlen : reached.length ≤ scope.length := (h.nodup.subperm h.inside).length_le
  have hfuel := h.fuel_enough
  exact List.eq_nil_of_length_eq_zero (by omega)

/-- What the search gives extends what has been reached, without repetition, and is closed under
the links. -/
lemma Searching.spread {scope queue reached : List String} {fuel : Nat}
    (hclosed : ∀ a b, g.Linked a b → b ∈ scope) (h : Searching g scope fuel reached queue) :
    reached <+: g.spread fuel reached queue ∧ (g.spread fuel reached queue).Nodup ∧
      ∀ a ∈ g.spread fuel reached queue, ∀ b, g.Linked a b → b ∈ g.spread fuel reached queue := by
  induction fuel generalizing reached queue with
  | zero =>
    obtain rfl := h.queue_eq_nil
    rw [spread_nil]
    exact ⟨List.prefix_refl _, h.nodup, fun a ha => h.searched a ha List.not_mem_nil⟩
  | succ fuel ih =>
    cases queue with
    | nil =>
      rw [spread_nil]
      exact ⟨List.prefix_refl _, h.nodup, fun a ha => h.searched a ha List.not_mem_nil⟩
    | cons node queue =>
      rw [spread_succ_cons]
      obtain ⟨hgrows, hrest⟩ := ih (h.step hclosed)
      exact ⟨(List.prefix_append _ _).trans hgrows, hrest⟩

/-- Nothing is found but what links lead to. -/
lemma reachable_of_mem_spread {start : String} {fuel : Nat} {reached queue : List String}
    (hreached : ∀ a ∈ reached, ReflTransGen g.Linked start a) (hqueue : queue ⊆ reached) :
    ∀ a ∈ g.spread fuel reached queue, ReflTransGen g.Linked start a := by
  induction fuel generalizing reached queue with
  | zero => exact hreached
  | succ fuel ih =>
    cases queue with
    | nil =>
      rw [spread_nil]
      exact hreached
    | cons node queue =>
      rw [spread_succ_cons]
      obtain ⟨hnode, hqueue⟩ := List.cons_subset.1 hqueue
      refine ih (fun a ha => ?_) (fun a ha => ?_)
      · rcases List.mem_append.1 ha with ha | ha
        · exact hreached a ha
        · exact (hreached node hnode).tail (mem_fresh.1 ha).1
      · rcases List.mem_append.1 ha with ha | ha
        · exact List.mem_append_left _ (hqueue ha)
        · exact List.mem_append_right _ ha

/-- The search from one node, with fuel for it and for all nodes of the graph. -/
lemma searching_start (g : Graph) (c : String) :
    Searching g (c :: g.nodes) (g.nodes.length + 1) [c] [c] where
  nodup := List.nodup_singleton c
  inside := by simp
  searched a ha hout := absurd ha hout
  fuel_enough := by simp

lemma mem_cons_of_linked (hg : g.Proper) (c : String) :
    ∀ a b, g.Linked a b → b ∈ c :: g.nodes :=
  fun _ _ hab => List.mem_cons_of_mem _ (hg.target_mem hab)

lemma spread_start (hg : g.Proper) (c : String) :
    g.spread (g.nodes.length + 1) [c] [c] = c :: g.affected c := by
  obtain ⟨⟨others, hsplit⟩, -⟩ := (searching_start g c).spread (mem_cons_of_linked hg c)
  rw [affected, ← hsplit]
  rfl

lemma nodup_cons_affected (hg : g.Proper) (c : String) : (c :: g.affected c).Nodup := by
  rw [← spread_start hg]
  exact ((searching_start g c).spread (mem_cons_of_linked hg c)).2.1

/-- **The affected nodes** are the other nodes that links lead to from the changed one. -/
theorem mem_affected_iff (hg : g.Proper) {c n : String} :
    n ∈ g.affected c ↔ n ≠ c ∧ ReflTransGen g.Linked c n := by
  obtain ⟨-, -, hclosed⟩ := (searching_start g c).spread (mem_cons_of_linked hg c)
  have hnew : c ∉ g.affected c := (List.nodup_cons.1 (nodup_cons_affected hg c)).1
  rw [spread_start hg] at hclosed
  constructor
  · intro hn
    refine ⟨fun heq => hnew (heq ▸ hn), ?_⟩
    have hself : ∀ a ∈ [c], ReflTransGen g.Linked c a := by
      intro a ha
      rw [List.mem_singleton.1 ha]
    have hfound : n ∈ g.spread (g.nodes.length + 1) [c] [c] := by
      rw [spread_start hg]
      exact List.mem_cons_of_mem _ hn
    exact reachable_of_mem_spread hself (List.Subset.refl _) n hfound
  · rintro ⟨hne, hwalk⟩
    have hfound : n ∈ c :: g.affected c := by
      induction hwalk with
      | refl => exact absurd rfl hne
      | @tail a b hca hab ih =>
        by_cases hac : a = c
        · exact hclosed a (hac ▸ List.mem_cons_self) b hab
        · exact hclosed a (ih hac) b hab
    exact (List.mem_cons.1 hfound).resolve_left hne

end Worksheet.Dependency.Graph
