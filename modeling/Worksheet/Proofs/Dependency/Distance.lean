import Mathlib.Order.Lattice.Nat
import Worksheet.Proofs.Dependency.Affected
import Worksheet.Proofs.Dependency.Ranked

/-!
# Affected nodes stand nearest first

The search in breadth finds nodes in the order of their distance from the changed one.  What carries
it: what has been reached stands by distance, no node more than one link farther than the first one
of the queue, and every node nearer than that one has already left the queue.  So a node that is
reached for the first time is exactly one link farther.
-/

namespace Worksheet.Dependency

open Relation

/-- A walk of so many links. -/
inductive Walk (linked : String → String → Prop) : Nat → String → String → Prop
  | refl (a : String) : Walk linked 0 a a
  | tail {k : Nat} {a b c : String} : Walk linked k a b → linked b c → Walk linked (k + 1) a c

/-- The number of links of a shortest walk. -/
noncomputable def distance (linked : String → String → Prop) (a b : String) : Nat :=
  sInf {k | Walk linked k a b}

variable {linked : String → String → Prop} {a b c : String} {k : Nat}

lemma Walk.reflTransGen (h : Walk linked k a b) : ReflTransGen linked a b := by
  induction h with
  | refl => exact .refl
  | tail _ hlink ih => exact ih.tail hlink

lemma exists_walk_iff : (∃ k, Walk linked k a b) ↔ ReflTransGen linked a b := by
  constructor
  · rintro ⟨k, h⟩
    exact h.reflTransGen
  · intro h
    induction h with
    | refl => exact ⟨0, .refl a⟩
    | tail _ hlink ih =>
      obtain ⟨k, hwalk⟩ := ih
      exact ⟨k + 1, hwalk.tail hlink⟩

lemma distance_le (h : Walk linked k a b) : distance linked a b ≤ k := Nat.sInf_le h

lemma walk_distance (h : ReflTransGen linked a b) : Walk linked (distance linked a b) a b :=
  Nat.sInf_mem (exists_walk_iff.2 h)

lemma isLeast_distance (h : ReflTransGen linked a b) :
    IsLeast {k | Walk linked k a b} (distance linked a b) :=
  ⟨walk_distance h, fun _ => distance_le⟩

/-- A link leads at most one link farther. -/
lemma distance_le_succ (h : ReflTransGen linked a b) (hlink : linked b c) :
    distance linked a c ≤ distance linked a b + 1 :=
  distance_le ((walk_distance h).tail hlink)

/-- On a shortest walk the last node but one is one link nearer. -/
lemma exists_nearer (h : ReflTransGen linked a c) (hne : c ≠ a) :
    ∃ b, ReflTransGen linked a b ∧ linked b c ∧
      distance linked a b + 1 = distance linked a c := by
  have hwalk := walk_distance h
  generalize hk : distance linked a c = k at hwalk
  cases hwalk with
  | refl => exact absurd rfl hne
  | @tail j _ b _ hwalk hlink =>
    have hb := hwalk.reflTransGen
    refine ⟨b, hb, hlink, ?_⟩
    have hle := distance_le hwalk
    have hge := distance_le_succ hb hlink
    omega

namespace Graph

variable {g : Graph} {reached queue : List String} {node : String} {fuel : Nat}

/-- What has been reached from a node stands by distance, the queue at its end, and links lead to it
from all that has left the queue. -/
structure Outward (g : Graph) (c : String) (reached queue : List String) : Prop where
  start_mem : c ∈ reached
  reachable : ∀ a ∈ reached, ReflTransGen g.Linked c a
  ranked : Ranked (distance g.Linked c) reached queue
  searched : ∀ before, reached = before ++ queue →
    ∀ a ∈ before, ∀ b, g.Linked a b → b ∈ reached

lemma Outward.start (g : Graph) (c : String) : Outward g c [c] [c] where
  start_mem := List.mem_singleton_self c
  reachable a ha := by rw [List.mem_singleton.1 ha]
  ranked :=
    { suffix := List.suffix_refl _
      ordered := List.pairwise_singleton _ c
      near := by
        rintro node rest hqueue a ha
        obtain ⟨rfl, -⟩ := List.cons.inj hqueue
        rw [List.mem_singleton.1 ha]
        exact Nat.le_succ _ }
  searched before hsplit a ha := by
    obtain rfl : before = [] := by simpa using hsplit
    exact absurd ha List.not_mem_nil

/-- A node that is nearer than the front of the queue has left it. -/
lemma Outward.mem_of_nearer {before : List String}
    (h : Outward g c (before ++ node :: queue) (node :: queue))
    (ha : ReflTransGen g.Linked c a)
    (hlt : distance g.Linked c a < distance g.Linked c node) : a ∈ before := by
  -- by induction on the distance: a node one link nearer has left the queue, so `a` is reached
  induction hk : distance g.Linked c a using Nat.strong_induction_on generalizing a with
  | _ k ih =>
    subst hk
    have hreached : a ∈ before ++ node :: queue := by
      by_cases hac : a = c
      · exact hac ▸ h.start_mem
      · obtain ⟨b, hb, hlink, hnearer⟩ := exists_nearer ha hac
        exact h.searched before rfl b (ih _ (by omega) hb (by omega) rfl) a hlink
    refine (List.mem_append.1 hreached).resolve_right fun hqueue => ?_
    exact absurd hlt (not_lt.2 (h.ranked.front_le a hqueue))

/-- A node that is reached for the first time is one link farther than the one it is reached
from. -/
lemma Outward.distance_fresh (h : Outward g c reached (node :: queue))
    (hb : b ∈ g.fresh reached node) :
    distance g.Linked c b = distance g.Linked c node + 1 := by
  obtain ⟨hlink, hnew⟩ := mem_fresh.1 hb
  obtain ⟨before, rfl⟩ := h.ranked.suffix
  have hnode := h.reachable node (List.mem_append_right _ List.mem_cons_self)
  have hle := distance_le_succ hnode hlink
  have hbc : b ≠ c := fun heq => hnew (heq ▸ h.start_mem)
  obtain ⟨a, ha, halink, hnearer⟩ := exists_nearer (hnode.tail hlink) hbc
  by_contra hne
  exact hnew (h.searched before rfl a (h.mem_of_nearer ha (by omega)) b halink)

lemma Outward.step (h : Outward g c reached (node :: queue)) :
    Outward g c (reached ++ g.fresh reached node) (queue ++ g.fresh reached node) where
  start_mem := List.mem_append_left _ h.start_mem
  reachable a ha := by
    have hnode : node ∈ reached := h.ranked.suffix.subset List.mem_cons_self
    rcases List.mem_append.1 ha with ha | ha
    · exact h.reachable a ha
    · exact (h.reachable node hnode).tail (mem_fresh.1 ha).1
  ranked := h.ranked.step fun _ => h.distance_fresh
  searched before hsplit a ha b hlink := by
    obtain ⟨older, hreached⟩ := h.ranked.suffix
    -- what has left the queue is what had left it before, and the node
    obtain rfl : older ++ [node] = before := by
      rw [← List.append_assoc, ← hreached] at hsplit
      have hsame := List.append_cancel_right hsplit
      exact List.append_cancel_right (by simpa using hsame)
    rcases List.mem_append.1 ha with ha | ha
    · exact List.mem_append_left _ (h.searched older hreached.symm a ha b hlink)
    · obtain rfl := List.mem_singleton.1 ha
      by_cases hb : b ∈ reached
      · exact List.mem_append_left _ hb
      · exact List.mem_append_right _ (mem_fresh.2 ⟨hlink, hb⟩)

/-- What the search gives stands by distance. -/
lemma Outward.spread (h : Outward g c reached queue) :
    (g.spread fuel reached queue).Pairwise
      fun a b => distance g.Linked c a ≤ distance g.Linked c b := by
  induction fuel generalizing reached queue with
  | zero => exact h.ranked.ordered
  | succ fuel ih =>
    cases queue with
    | nil =>
      rw [spread_nil]
      exact h.ranked.ordered
    | cons node queue =>
      rw [spread_succ_cons]
      exact ih h.step

/-- More fuel changes nothing when there is enough of it. -/
lemma Searching.spread_add {scope : List String} (hclosed : ∀ a b, g.Linked a b → b ∈ scope)
    (h : Searching g scope fuel reached queue) (extra : Nat) :
    g.spread (fuel + extra) reached queue = g.spread fuel reached queue := by
  induction fuel generalizing reached queue with
  | zero =>
    obtain rfl := h.queue_eq_nil
    rw [spread_nil, spread_nil]
  | succ fuel ih =>
    cases queue with
    | nil => rw [spread_nil, spread_nil]
    | cons node queue =>
      rw [Nat.add_right_comm, spread_succ_cons, spread_succ_cons]
      exact ih (h.step hclosed)

end Graph

/-- **The affected nodes stand nearest first.**  For any node list, link list and changed node, known
or not, the search comes to an end: once it may search from as many nodes as there are and from the
changed one, more would find nothing.  It gives, each once, the nodes other than the changed one that
one or more links between known nodes lead to, and none of them stands behind a farther one. -/
theorem affected_nearestFirst (ids : List String) (links : List Link) (c : String) :
    let g := Graph.ofLinks ids links
    (∀ extra, g.spread (g.nodes.length + 1 + extra) [c] [c] = c :: g.affected c) ∧
    (g.affected c).Nodup ∧
    (∀ n, n ∈ g.affected c ↔ n ≠ c ∧ TransGen (KnownLink ids links) c n) ∧
    (∀ n ∈ g.affected c, IsLeast {k | Walk (KnownLink ids links) k c n}
      (distance (KnownLink ids links) c n)) ∧
    (g.affected c).Pairwise fun a b =>
      distance (KnownLink ids links) c a ≤ distance (KnownLink ids links) c b := by
  intro g
  have hg : g.Proper := Graph.ofLinks_proper ids links
  have hnodup := Graph.nodup_cons_affected hg c
  rw [← Graph.linked_ofLinks]
  refine ⟨fun extra => ?_, (List.nodup_cons.1 hnodup).2, fun n => ?_, fun n hn => ?_, ?_⟩
  · rw [(Graph.searching_start g c).spread_add (Graph.mem_cons_of_linked hg c),
      Graph.spread_start hg]
  · rw [Graph.mem_affected_iff hg, reflTransGen_iff_eq_or_transGen]
    exact and_congr_right fun hne => or_iff_right hne
  · exact isLeast_distance ((Graph.mem_affected_iff hg).1 hn).2
  · have hordered : (g.spread (g.nodes.length + 1) [c] [c]).Pairwise _ :=
      (Graph.Outward.start g c).spread
    rw [Graph.spread_start hg] at hordered
    exact (List.pairwise_cons.1 hordered).2

/-- The changed node is not among those that it affects, even on a cycle, and a nearer node stands
first although its link is listed later. -/
example :
    (Graph.ofLinks ["a", "b", "c", "d", "e"]
      [⟨"a", "b"⟩, ⟨"b", "c"⟩, ⟨"c", "a"⟩, ⟨"a", "d"⟩, ⟨"d", "c"⟩, ⟨"e", "b"⟩]).affected "a" =
        ["b", "d", "c"] := by
  decide

end Worksheet.Dependency
