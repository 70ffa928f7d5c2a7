import Mathlib.Data.Set.Finite.List
import Mathlib.Order.WellFounded
import Worksheet.Dependency.Order
import Worksheet.Proofs.Dependency.Links

/-!
# The order is exact

A node is put in order exactly when it is not behind a cycle, and then behind all its sources.  The
invariant that carries the sort: what is pending at a node is the number of links into it from
nodes not yet in order, so the nodes at which nothing is pending are those in order or in the queue.
While the dependents of a node are released one after the other, the links still to be counted off
are part of the invariant.
-/

namespace Worksheet.Dependency

open Relation

namespace Sorting

variable {g : Graph} {s : Sorting}

/-- The invariant of the sort; `rest` holds the targets of the links from the node last in order
that have not been counted off. -/
structure Consistent (g : Graph) (s : Sorting) (rest : List String) : Prop where
  pending_eq : ∀ n, s.pending n = ((g.sources n).countP (· ∉ s.done) + rest.count n : Nat)
  nodup : (s.done ++ s.queue).Nodup
  mem_iff : ∀ n, n ∈ s.done ++ s.queue ↔ n ∈ g.nodes ∧ s.pending n = 0
  closed : ∀ before n after, s.done = before ++ n :: after → ∀ a, g.Linked a n → a ∈ before

/-! ### What one link does -/

@[simp] lemma release_done (s : Sorting) (t : String) : (s.release t).done = s.done := rfl

lemma release_pending (s : Sorting) (t n : String) :
    (s.release t).pending n = if n = t then s.pending t - 1 else s.pending n := rfl

lemma mem_release_queue {t n : String} :
    n ∈ (s.release t).queue ↔ n ∈ s.queue ∨ (n = t ∧ s.pending t = 1) := by
  have hq : (s.release t).queue = if s.pending t - 1 = 0 then s.queue ++ [t] else s.queue := rfl
  rw [hq]
  split
  · rw [List.mem_append, List.mem_singleton]
    have : s.pending t = 1 := by omega
    tauto
  · have : s.pending t ≠ 1 := by omega
    tauto

/-- A target that is still to be counted off is not in the queue yet. -/
lemma Consistent.not_mem_of_rest {t : String} {rest : List String}
    (h : Consistent g s (t :: rest)) : t ∉ s.done ++ s.queue := by
  intro hmem
  have hzero := ((h.mem_iff t).1 hmem).2
  have hcount := h.pending_eq t
  rw [List.count_cons_self] at hcount
  omega

lemma Consistent.release {t : String} {rest : List String} (h : Consistent g s (t :: rest))
    (ht : t ∈ g.nodes) : Consistent g (s.release t) rest where
  pending_eq n := by
    rw [release_pending, release_done]
    have hn := h.pending_eq n
    split
    · subst n
      rw [List.count_cons_self] at hn
      omega
    · rw [List.count_cons_of_ne (Ne.symm ‹n ≠ t›)] at hn
      exact hn
  nodup := by
    have hq : (s.release t).queue = if s.pending t - 1 = 0 then s.queue ++ [t] else s.queue := rfl
    rw [release_done, hq]
    split
    · rw [← List.append_assoc, List.nodup_append]
      refine ⟨h.nodup, List.nodup_singleton _, ?_⟩
      rintro a ha b hb rfl
      exact h.not_mem_of_rest (List.mem_singleton.1 hb ▸ ha)
    · exact h.nodup
  mem_iff n := by
    have hn := h.mem_iff n
    have ht' := h.not_mem_of_rest
    rw [List.mem_append] at hn ht' ⊢
    rw [release_done, mem_release_queue, release_pending]
    -- only the released node can have become one without pending links
    by_cases hnt : n = t
    · subst n
      rw [if_pos rfl]
      constructor
      · rintro (hd | hq | ⟨-, h1⟩)
        · exact absurd (Or.inl hd) ht'
        · exact absurd (Or.inr hq) ht'
        · exact ⟨ht, by omega⟩
      · rintro ⟨-, h0⟩
        exact Or.inr (Or.inr ⟨rfl, by omega⟩)
    · rw [if_neg hnt, ← hn]
      simp [hnt]
  closed := h.closed

/-- Counting off the remaining targets one after the other. -/
lemma Consistent.releaseAll {rest : List String} (h : Consistent g s rest)
    (hrest : ∀ t ∈ rest, t ∈ g.nodes) : Consistent g (rest.foldl Sorting.release s) [] := by
  induction rest generalizing s with
  | nil => exact h
  | cons t rest ih =>
    exact ih (h.release (hrest t List.mem_cons_self))
      (fun t' ht' => hrest t' (List.mem_cons_of_mem _ ht'))

lemma releaseAll_done (s : Sorting) (rest : List String) :
    (rest.foldl release s).done = s.done := by
  induction rest generalizing s with
  | nil => rfl
  | cons t rest ih => rw [List.foldl_cons, ih, release_done]

/-! ### What one node does -/

/-- Nothing is pending at a node all of whose sources are in order, and conversely. -/
lemma Consistent.pending_eq_zero_iff (h : Consistent g s []) (n : String) :
    s.pending n = 0 ↔ ∀ a, g.Linked a n → a ∈ s.done := by
  rw [h.pending_eq n, List.count_nil, Nat.add_zero, Int.natCast_eq_zero, List.countP_eq_zero]
  simp

/-- The first node of the queue may be put in order: its sources are, and its own links are then
to be counted off. -/
lemma Consistent.take {node : String} {queue : List String} (h : Consistent g s [])
    (hq : s.queue = node :: queue) :
    Consistent g { s with done := s.done ++ [node], queue := queue } (g.dependents node) := by
  have hfresh : node ∉ s.done := by
    have hnd := h.nodup
    rw [hq, List.nodup_append] at hnd
    exact fun hmem => hnd.2.2 node hmem node List.mem_cons_self rfl
  have happ : s.done ++ [node] ++ queue = s.done ++ s.queue := by
    rw [hq, List.append_assoc, List.singleton_append]
  refine ⟨fun n => ?_, ?_, fun n => ?_, fun before n after hsplit a ha => ?_⟩
  · -- a link into `n` from a node not in order comes from `node` or stays pending
    change s.pending n = _
    rw [h.pending_eq n, List.count_nil, Nat.add_zero, g.count_dependents]
    congr 1
    induction g.sources n with
    | nil => rfl
    | cons a as ih =>
      rw [List.countP_cons, List.countP_cons, List.count_cons, ih]
      by_cases ha : a = node
      · subst a
        simp [hfresh]
        omega
      · simp [ha]
        omega
  · change (s.done ++ [node] ++ queue).Nodup
    rw [happ]
    exact h.nodup
  · change n ∈ s.done ++ [node] ++ queue ↔ _
    rw [happ]
    exact h.mem_iff n
  · -- `n` is the node that has just been put in order, or it was in order before
    rcases List.eq_nil_or_concat after with rfl | ⟨after', last, rfl⟩
    · obtain ⟨rfl, hnode⟩ := List.append_inj' hsplit rfl
      obtain rfl : node = n := by simpa using hnode
      have hzero := (h.mem_iff node).1 (by rw [hq]; simp)
      exact (h.pending_eq_zero_iff node).1 hzero.2 a ha
    · have hsplit' : s.done ++ [node] = (before ++ n :: after') ++ [last] := by
        simpa using hsplit
      exact h.closed before n after' (List.append_inj' hsplit' rfl).1 a ha

lemma Consistent.advance (hg : g.Proper) (h : Consistent g s []) :
    Consistent g (s.advance g) [] := by
  unfold Sorting.advance
  split
  · exact h
  · exact (h.take ‹_›).releaseAll fun t ht => hg.target_mem (Graph.mem_dependents.1 ht)

lemma advance_done {node : String} {queue : List String} (hq : s.queue = node :: queue) :
    (s.advance g).done = s.done ++ [node] := by
  rw [Sorting.advance, hq]
  exact releaseAll_done _ _

lemma advance_of_queue_nil (hq : s.queue = []) : s.advance g = s := by
  rw [Sorting.advance, hq]

/-! ### The whole sort -/

lemma start_consistent (hg : g.Proper) : Consistent g (start g) [] where
  pending_eq n := by
    change ((g.sources n).length : Int) = _
    simp [start]
  nodup := hg.nodup.filter _
  mem_iff n := by simp [start]
  closed before n after hsplit := by simp [start] at hsplit

lemma Consistent.drain (hg : g.Proper) (h : Consistent g s []) (fuel : Nat) :
    Consistent g (drain g fuel s) [] := by
  induction fuel generalizing s with
  | zero => exact h
  | succ fuel ih => exact ih (h.advance hg)

lemma drain_of_queue_nil (hq : s.queue = []) (fuel : Nat) : drain g fuel s = s := by
  induction fuel with
  | zero => rfl
  | succ fuel ih => rw [Sorting.drain, advance_of_queue_nil hq, ih]

/-- Each unit of fuel puts a node in order, unless the queue has run out. -/
lemma drain_progress (g : Graph) (s : Sorting) (fuel : Nat) :
    (drain g fuel s).queue = [] ∨ (drain g fuel s).done.length = s.done.length + fuel := by
  induction fuel generalizing s with
  | zero => exact Or.inr rfl
  | succ fuel ih =>
    cases hq : s.queue with
    | nil =>
      left
      rw [drain_of_queue_nil hq, hq]
    | cons node queue =>
      refine (ih (s.advance g)).imp id fun h => ?_
      rw [Sorting.drain, h, advance_done hq, List.length_append, List.length_singleton]
      omega

/-- There are never more nodes in order and in the queue than in the graph. -/
lemma Consistent.length_le (h : Consistent g s []) :
    s.done.length + s.queue.length ≤ g.nodes.length := by
  rw [← List.length_append]
  exact (h.nodup.subperm fun n hn => ((h.mem_iff n).1 hn).1).length_le

end Sorting

namespace Graph

variable {g : Graph}

lemma sorting_consistent (hg : g.Proper) : Sorting.Consistent g g.sorting [] :=
  (Sorting.start_consistent hg).drain hg _

/-- As much fuel as there are nodes is enough. -/
lemma sorting_queue (hg : g.Proper) : g.sorting.queue = [] := by
  rcases Sorting.drain_progress g (.start g) g.nodes.length with h | h
  · exact h
  · have hle := (sorting_consistent hg).length_le
    have hstart : (Sorting.start g).done.length = 0 := rfl
    rw [hstart, Nat.zero_add] at h
    rw [sorting, h] at hle
    exact List.eq_nil_of_length_eq_zero (by rw [sorting]; omega)

lemma order_nodup (hg : g.Proper) : g.order.Nodup := by
  have h := (sorting_consistent hg).nodup
  rwa [sorting_queue hg, List.append_nil] at h

lemma order_subset (hg : g.Proper) {n : String} (hn : n ∈ g.order) : n ∈ g.nodes :=
  (((sorting_consistent hg).mem_iff n).1 (List.mem_append_left _ hn)).1

/-- A node is in order exactly when all its sources are. -/
lemma mem_order_iff (hg : g.Proper) {n : String} :
    n ∈ g.order ↔ n ∈ g.nodes ∧ ∀ a, g.Linked a n → a ∈ g.order := by
  have h := sorting_consistent hg
  rw [order, ← h.pending_eq_zero_iff, ← h.mem_iff, sorting_queue hg, List.append_nil]

/-- A source stands in front of what reads it. -/
lemma idxOf_lt_of_linked (hg : g.Proper) {a b : String} (hab : g.Linked a b) (hb : b ∈ g.order) :
    a ∈ g.order ∧ g.order.idxOf a < g.order.idxOf b := by
  obtain ⟨before, after, hsplit⟩ := List.append_of_mem hb
  have ha : a ∈ before := (sorting_consistent hg).closed before b after hsplit a hab
  have hnd := order_nodup hg
  rw [hsplit, List.nodup_append] at hnd
  -- all sources of `b` stand in the part before it, and `b` does not
  have hb' : b ∉ before := fun hmem => hnd.2.2 b hmem b List.mem_cons_self rfl
  refine ⟨by rw [hsplit]; exact List.mem_append_left _ ha, ?_⟩
  rw [hsplit, List.idxOf_append, if_pos ha, List.idxOf_append, if_neg hb', List.idxOf_cons_self]
  have := List.idxOf_lt_length_of_mem ha
  omega

/-- The same along a walk. -/
lemma idxOf_lt_of_walk (hg : g.Proper) {a b : String} (hab : TransGen g.Linked a b)
    (hb : b ∈ g.order) : a ∈ g.order ∧ g.order.idxOf a < g.order.idxOf b := by
  induction hab with
  | single h => exact idxOf_lt_of_linked hg h hb
  | tail _ h ih =>
    obtain ⟨hc, hlt⟩ := idxOf_lt_of_linked hg h hb
    obtain ⟨ha, hlt'⟩ := ih hc
    exact ⟨ha, hlt'.trans hlt⟩

lemma not_behindCycle_of_mem_order (hg : g.Proper) {n : String} (hn : n ∈ g.order) :
    ¬ g.BehindCycle n := by
  rintro ⟨m, hcycle, hwalk⟩
  have hm : m ∈ g.order := by
    rcases reflTransGen_iff_eq_or_transGen.1 hwalk with rfl | hwalk
    · exact hn
    · exact (idxOf_lt_of_walk hg hwalk hn).1
  exact lt_irrefl _ (idxOf_lt_of_walk hg hcycle hm).2

/-- A node that is never released has a source that is never released, and so on; among finitely
many nodes this runs into a cycle. -/
lemma behindCycle_of_not_mem_order (hg : g.Proper) {n : String} (hn : n ∈ g.nodes)
    (hout : n ∉ g.order) : g.BehindCycle n := by
  by_contra hfree
  -- a walk of links that never closes is an order on the finitely many nodes that lead to `n`
  let Above := {m : String // m ∈ g.nodes ∧ ReflTransGen g.Linked m n}
  let before : Above → Above → Prop := fun a b => TransGen g.Linked a.1 b.1
  have hfin : Finite Above :=
    Set.Finite.subset (List.finite_toSet g.nodes) (fun m hm => hm.1)
  have htrans : IsTrans Above before := ⟨fun _ _ _ hab hbc => hab.trans hbc⟩
  have hirrefl : Std.Irrefl before := ⟨fun a ha => hfree ⟨a.1, ha, a.2.2⟩⟩
  have hwf : WellFounded before := Finite.wellFounded_of_trans_of_irrefl before
  obtain ⟨m, hm, hmin⟩ := hwf.has_min {a : Above | a.1 ∉ g.order} ⟨⟨n, hn, .refl⟩, hout⟩
  -- the first node of that order that is never released still has such a source
  have hsource : ∃ a, g.Linked a m.1 ∧ a ∉ g.order := by
    by_contra hall
    refine hm ((mem_order_iff hg).2 ⟨m.2.1, fun a ha => ?_⟩)
    by_contra hna
    exact hall ⟨a, ha, hna⟩
  obtain ⟨a, ha, hna⟩ := hsource
  exact hmin ⟨a, hg.source_mem ha, ReflTransGen.head ha m.2.2⟩ hna (TransGen.single ha)

lemma mem_circular {n : String} : n ∈ g.circular ↔ n ∈ g.nodes ∧ n ∉ g.order := by
  simp [circular]

lemma mem_circular_iff (hg : g.Proper) {n : String} :
    n ∈ g.circular ↔ n ∈ g.nodes ∧ g.BehindCycle n := by
  rw [mem_circular]
  constructor
  · rintro ⟨hn, hout⟩
    exact ⟨hn, behindCycle_of_not_mem_order hg hn hout⟩
  · rintro ⟨hn, hbehind⟩
    exact ⟨hn, fun hin => not_behindCycle_of_mem_order hg hin hbehind⟩

/-- A node that a cycle leads to is a node of the graph. -/
lemma BehindCycle.mem_nodes (hg : g.Proper) {n : String} (h : g.BehindCycle n) : n ∈ g.nodes := by
  obtain ⟨m, hcycle, hwalk⟩ := h
  obtain ⟨a, -, ha⟩ := TransGen.tail'_iff.1 (hcycle.trans_left hwalk)
  exact hg.target_mem ha

end Graph

/-- **The order is exact.**  For any node list and link list the sort comes to an end; the order
has no repetition and together with the nodes left over makes up the distinct nodes; each source
stands in front of what reads it; and what is left over is what lies on a cycle or behind one. -/
theorem order_exact (ids : List String) (links : List Link) :
    let g := Graph.ofLinks ids links
    g.sorting.queue = [] ∧
    g.order.Nodup ∧ g.circular.Nodup ∧ List.Disjoint g.order g.circular ∧
    (∀ n, n ∈ ids ↔ n ∈ g.order ∨ n ∈ g.circular) ∧
    (∀ a b, KnownLink ids links a b → b ∈ g.order →
      a ∈ g.order ∧ g.order.idxOf a < g.order.idxOf b) ∧
    ∀ n, n ∈ g.circular ↔
      ∃ m, TransGen (KnownLink ids links) m m ∧ ReflTransGen (KnownLink ids links) m n := by
  intro g
  have hg : g.Proper := Graph.ofLinks_proper ids links
  refine ⟨Graph.sorting_queue hg, Graph.order_nodup hg, hg.nodup.filter _, ?_, ?_, ?_, ?_⟩
  · intro n hn hc
    exact (Graph.mem_circular.1 hc).2 hn
  · intro n
    have hnodes : n ∈ g.nodes ↔ n ∈ ids := Graph.mem_nodes_ofLinks
    rw [Graph.mem_circular, ← hnodes]
    constructor
    · intro hn
      by_cases h : n ∈ g.order
      · exact Or.inl h
      · exact Or.inr ⟨hn, h⟩
    · rintro (h | h)
      · exact Graph.order_subset hg h
      · exact h.1
  · intro a b hab hb
    exact Graph.idxOf_lt_of_linked hg (Graph.linked_ofLinks ids links ▸ hab) hb
  · intro n
    rw [Graph.mem_circular_iff hg, ← Graph.linked_ofLinks]
    exact ⟨fun h => h.2, fun h => ⟨Graph.BehindCycle.mem_nodes hg h, h⟩⟩

end Worksheet.Dependency
