import Mathlib.Data.List.Infix
import Worksheet.Proofs.Dependency.Ranked
import Worksheet.Proofs.Dependency.Sorting

/-!
# The order walks level by level

A node that reads nothing has level zero, and any other one a level above the highest of its sources.
The sort takes the nodes by level.  What carries it: the queue spans at most two levels, and a node
that joins it has all of its sources in order, none of them above the last one, which it reads; so it
is one level above that.
-/

namespace Worksheet.Dependency

open Relation

/-- The level of a node is right, given those of the nodes that it reads. -/
structure IsLevel (linked : String → String → Prop) (level : String → Nat) (n : String) : Prop where
  eq_zero : (∀ a, ¬ linked a n) → level n = 0
  above : ∀ a, linked a n → level a + 1 ≤ level n
  attained : (∃ a, linked a n) → ∃ a, linked a n ∧ level n = level a + 1

/-- One more than the largest level among the sources, and zero without a source. -/
def levelAbove (level : String → Nat) (sources : List String) : Nat :=
  (sources.map fun a => level a + 1).foldr max 0

/-- The levels with that of one node made right. -/
def assignLevel (g : Graph) (level : String → Nat) (n : String) : String → Nat :=
  fun m => if m = n then levelAbove level (g.sources n) else level m

/-- The level of a node in order; the levels are found along the order. -/
def Graph.level (g : Graph) : String → Nat := g.order.foldl (assignLevel g) fun _ => 0

/-- The nodes of one level, in order. -/
def Graph.frontier (g : Graph) (k : Nat) : List String := g.order.filter fun n => g.level n = k

variable {g : Graph} {level : String → Nat} {n : String} {k : Nat}

/-! ### What a level is -/

lemma levelAbove_cons (level : String → Nat) (a : String) (sources : List String) :
    levelAbove level (a :: sources) = max (level a + 1) (levelAbove level sources) := rfl

lemma le_levelAbove {sources : List String} :
    ∀ a ∈ sources, level a + 1 ≤ levelAbove level sources := by
  induction sources with
  | nil => exact fun a ha => absurd ha List.not_mem_nil
  | cons b sources ih =>
    rw [levelAbove_cons]
    exact List.forall_mem_cons.2 ⟨le_max_left _ _, fun a ha => (ih a ha).trans (le_max_right _ _)⟩

lemma exists_of_levelAbove (level : String → Nat) {sources : List String} (h : sources ≠ []) :
    ∃ a ∈ sources, levelAbove level sources = level a + 1 := by
  induction sources with
  | nil => exact absurd rfl h
  | cons b sources ih =>
    rw [levelAbove_cons]
    rcases le_total (levelAbove level sources) (level b + 1) with hle | hle
    · exact ⟨b, List.mem_cons_self, max_eq_left hle⟩
    · -- the rest has a source, or else its level would be zero
      have hne : sources ≠ [] := by
        rintro rfl
        exact absurd hle (by simp [levelAbove])
      obtain ⟨a, ha, heq⟩ := ih hne
      exact ⟨a, List.mem_cons_of_mem b ha, (max_eq_right hle).trans heq⟩

lemma isLevel_of_eq_levelAbove (h : level n = levelAbove level (g.sources n)) :
    IsLevel g.Linked level n where
  eq_zero hnone := by
    have hnil : g.sources n = [] :=
      List.eq_nil_iff_forall_not_mem.2 fun a ha => hnone a (Graph.mem_sources.1 ha)
    rw [h, hnil]
    rfl
  above a ha := by
    rw [h]
    exact le_levelAbove a (Graph.mem_sources.2 ha)
  attained := by
    rintro ⟨b, hb⟩
    obtain ⟨a, ha, heq⟩ := exists_of_levelAbove level
      (List.ne_nil_of_mem (Graph.mem_sources.2 hb))
    exact ⟨a, Graph.mem_sources.1 ha, h.trans heq⟩

lemma IsLevel.eq_zero_iff {linked : String → String → Prop} (h : IsLevel linked level n) :
    level n = 0 ↔ ∀ a, ¬ linked a n := by
  refine ⟨fun hzero a ha => ?_, h.eq_zero⟩
  have := h.above a ha
  omega

/-! ### Levels along the order -/

lemma foldl_assignLevel_of_not_mem {nodes : List String} (h : n ∉ nodes) :
    nodes.foldl (assignLevel g) level n = level n := by
  induction nodes generalizing level with
  | nil => rfl
  | cons m nodes ih =>
    rw [List.mem_cons, not_or] at h
    rw [List.foldl_cons, ih h.2, assignLevel, if_neg h.1]

/-- All sources of a node have their levels when its turn comes. -/
lemma level_eq_levelAbove (hg : g.Proper) (hn : n ∈ g.order) :
    g.level n = levelAbove g.level (g.sources n) := by
  obtain ⟨before, after, hsplit⟩ := List.append_of_mem hn
  have hnodup := Graph.order_nodup hg
  rw [hsplit, List.nodup_append, List.nodup_cons] at hnodup
  obtain ⟨-, ⟨hafter, -⟩, hapart⟩ := hnodup
  have hlevel : ∀ m, m ∉ n :: after → g.level m = before.foldl (assignLevel g) (fun _ => 0) m := by
    intro m hm
    rw [Graph.level, hsplit, List.foldl_append, foldl_assignLevel_of_not_mem hm]
  have hself : g.level n = levelAbove (before.foldl (assignLevel g) fun _ => 0) (g.sources n) := by
    rw [Graph.level, hsplit, List.foldl_append, List.foldl_cons,
      foldl_assignLevel_of_not_mem hafter, assignLevel, if_pos rfl]
  rw [hself, levelAbove, levelAbove]
  congr 1
  refine List.map_congr_left fun a ha => ?_
  have hbefore := (Graph.sorting_consistent hg).closed before n after hsplit a
    (Graph.mem_sources.1 ha)
  rw [hlevel a fun hmem => hapart a hbefore a hmem rfl]

lemma isLevel_level (hg : g.Proper) (hn : n ∈ g.order) : IsLevel g.Linked g.level n :=
  isLevel_of_eq_levelAbove (level_eq_levelAbove hg hn)

/-- There is one way only to give the nodes in order their levels. -/
lemma IsLevel.unique (hg : g.Proper) (h : ∀ n ∈ g.order, IsLevel g.Linked level n)
    (hn : n ∈ g.order) : level n = g.level n := by
  -- by induction on the place of the node: its sources stand before it
  induction hk : g.order.idxOf n using Nat.strong_induction_on generalizing n with
  | _ k ih =>
    subst hk
    have hsource : ∀ a, g.Linked a n → level a = g.level a := by
      intro a ha
      obtain ⟨hmem, hlt⟩ := Graph.idxOf_lt_of_linked hg ha hn
      exact ih _ hlt hmem rfl
    have hlevel := isLevel_level hg hn
    by_cases hnone : ∀ a, ¬ g.Linked a n
    · rw [(h n hn).eq_zero hnone, hlevel.eq_zero hnone]
    · push Not at hnone
      obtain ⟨a, ha, heq⟩ := (h n hn).attained hnone
      obtain ⟨b, hb, heq'⟩ := hlevel.attained hnone
      have hle := (h n hn).above b hb
      have hle' := hlevel.above a ha
      have := hsource a ha
      have := hsource b hb
      omega

/-! ### The sort by level -/

namespace Sorting

variable {s : Sorting} {node : String} {queue : List String}

/-- Releasing targets puts some of them behind the queue. -/
lemma exists_queue_releaseAll (s : Sorting) (targets : List String) :
    ∃ added, (targets.foldl release s).queue = s.queue ++ added ∧ added ⊆ targets := by
  induction targets generalizing s with
  | nil => exact ⟨[], (List.append_nil _).symm, List.Subset.refl _⟩
  | cons t targets ih =>
    obtain ⟨added, hqueue, hsub⟩ := ih (s.release t)
    have hq : (s.release t).queue = if s.pending t - 1 = 0 then s.queue ++ [t] else s.queue := rfl
    rw [List.foldl_cons, hqueue, hq]
    split
    · refine ⟨t :: added, by simp, ?_⟩
      exact List.cons_subset_cons t hsub
    · exact ⟨added, rfl, List.subset_cons_of_subset t hsub⟩

/-- The front of the queue comes next in order, and some of its dependents join the queue. -/
lemma exists_advance (g : Graph) (hq : s.queue = node :: queue) :
    ∃ added, (s.advance g).done ++ (s.advance g).queue = (s.done ++ s.queue) ++ added ∧
      (s.advance g).queue = queue ++ added ∧ ∀ t ∈ added, g.Linked node t := by
  obtain ⟨added, hqueue, hsub⟩ := exists_queue_releaseAll
    { s with done := s.done ++ [node], queue := queue } (g.dependents node)
  have hadvance : (s.advance g).queue = queue ++ added := by
    rw [Sorting.advance, hq]
    exact hqueue
  refine ⟨added, ?_, hadvance, fun t ht => Graph.mem_dependents.1 (hsub ht)⟩
  rw [hadvance, advance_done hq, hq]
  simp

/-- What joins the queue is one level above the node that releases it. -/
lemma level_of_added (hg : g.Proper) (h : Consistent g s []) {added : List String}
    (hq : s.queue = node :: queue) (hranked : Ranked level (s.done ++ s.queue) s.queue)
    (hadvance : (s.advance g).queue = queue ++ added) {t : String} (ht : t ∈ added)
    (hlink : g.Linked node t) (hlevel : IsLevel g.Linked level t) :
    level t = level node + 1 := by
  have hnext := h.advance hg
  have hmem : t ∈ (s.advance g).done ++ (s.advance g).queue := by
    rw [hadvance]
    exact List.mem_append_right _ (List.mem_append_right _ ht)
  have hsources := (hnext.pending_eq_zero_iff t).1 ((hnext.mem_iff t).1 hmem).2
  obtain ⟨a, ha, heq⟩ := hlevel.attained ⟨node, hlink⟩
  have hle : level a ≤ level node := by
    have hdone := hsources a ha
    rw [advance_done hq, List.mem_append, List.mem_singleton] at hdone
    rw [hq] at hranked
    rcases hdone with hdone | rfl
    · exact hranked.le_front a hdone
    · exact le_rfl
  have := hlevel.above node hlink
  omega

/-- Nodes only come behind what is in order or in the queue. -/
lemma prefix_drain (g : Graph) (s : Sorting) (fuel : Nat) :
    s.done ++ s.queue <+: (drain g fuel s).done ++ (drain g fuel s).queue := by
  induction fuel generalizing s with
  | zero => exact List.prefix_refl _
  | succ fuel ih =>
    cases hq : s.queue with
    | nil =>
      rw [drain_of_queue_nil hq, hq]
    | cons node queue =>
      obtain ⟨added, happ, -⟩ := exists_advance g hq
      rw [← hq]
      exact List.IsPrefix.trans ⟨added, happ.symm⟩ (ih (s.advance g))

/-- The sort keeps the nodes by level. -/
lemma ranked_drain (hg : g.Proper) {fuel : Nat} (h : Consistent g s [])
    (hlevel : ∀ n ∈ (Sorting.drain g fuel s).done ++ (Sorting.drain g fuel s).queue,
      IsLevel g.Linked level n)
    (hranked : Ranked level (s.done ++ s.queue) s.queue) :
    Ranked level ((Sorting.drain g fuel s).done ++ (Sorting.drain g fuel s).queue)
      (Sorting.drain g fuel s).queue := by
  induction fuel generalizing s with
  | zero => exact hranked
  | succ fuel ih =>
    cases hq : s.queue with
    | nil => rwa [drain_of_queue_nil hq]
    | cons node queue =>
      obtain ⟨added, happ, hadvance, hlinks⟩ := exists_advance g hq
      refine ih (h.advance hg) hlevel ?_
      have hmeets : added ⊆ (Sorting.drain g fuel (s.advance g)).done ++
          (Sorting.drain g fuel (s.advance g)).queue := by
        intro t ht
        refine (prefix_drain g (s.advance g) fuel).subset ?_
        rw [happ]
        exact List.mem_append_right _ ht
      have hfound : ∀ t ∈ added, level t = level node + 1 := fun t ht =>
        level_of_added hg h hq hranked hadvance ht (hlinks t ht) (hlevel t (hmeets ht))
      rw [happ, hadvance]
      rw [hq] at hranked ⊢
      exact hranked.step hfound

lemma mem_start_queue : n ∈ (start g).queue ↔ n ∈ g.nodes ∧ ∀ a, ¬ g.Linked a n := by
  have hdegree : g.inDegree n = 0 ↔ ∀ a, ¬ g.Linked a n := by
    rw [Graph.inDegree, List.length_eq_zero_iff, List.eq_nil_iff_forall_not_mem]
    exact forall_congr' fun a => not_congr Graph.mem_sources
  rw [start, List.mem_filter, beq_iff_eq, hdegree]

/-- The nodes that read nothing are all of level zero. -/
lemma ranked_start (hlevel : ∀ n ∈ (start g).queue, IsLevel g.Linked level n) :
    Ranked level ((start g).done ++ (start g).queue) (start g).queue := by
  have hzero : ∀ n ∈ (start g).queue, level n = 0 := fun n hn =>
    (hlevel n hn).eq_zero (mem_start_queue.1 hn).2
  refine ⟨List.suffix_append _ _, ?_, fun node rest _ a ha => ?_⟩
  · refine List.pairwise_of_forall_mem_list fun a ha b hb => ?_
    rw [hzero a ha]
    exact Nat.zero_le _
  · rw [hzero a ha]
    exact Nat.zero_le _

end Sorting

namespace Graph

lemma start_prefix_order (hg : g.Proper) : (Sorting.start g).queue <+: g.order := by
  have hgrows := Sorting.prefix_drain g (.start g) g.nodes.length
  rwa [← sorting, sorting_queue hg, List.append_nil] at hgrows

/-- The nodes in order stand by level. -/
lemma order_pairwise (hg : g.Proper) (h : ∀ n ∈ g.order, IsLevel g.Linked level n) :
    g.order.Pairwise fun a b => level a ≤ level b := by
  have hend : g.sorting.done ++ g.sorting.queue = g.order := by
    rw [sorting_queue hg, List.append_nil]
    rfl
  have hstart := Sorting.ranked_start fun n hn => h n ((start_prefix_order hg).subset hn)
  have hranked : Ranked level (g.sorting.done ++ g.sorting.queue) g.sorting.queue :=
    Sorting.ranked_drain hg (Sorting.start_consistent hg) (fun n hn => h n (hend ▸ hn)) hstart
  rw [hend] at hranked
  exact hranked.ordered

/-! ### Frontiers -/

/-- Among nodes that stand by level the lowest ones stand first. -/
lemma filter_prefix_of_pairwise {nodes : List String}
    (h : nodes.Pairwise fun a b => level a ≤ level b) (hlow : ∀ n ∈ nodes, k ≤ level n) :
    (nodes.filter fun n => level n = k) <+: nodes := by
  induction nodes with
  | nil => exact List.prefix_refl _
  | cons n nodes ih =>
    obtain ⟨hfirst, hrest⟩ := List.pairwise_cons.1 h
    obtain ⟨hn, hlow⟩ := List.forall_mem_cons.1 hlow
    by_cases heq : level n = k
    · rw [List.filter_cons_of_pos (by simpa using heq)]
      exact List.cons_prefix_cons.2 ⟨rfl, ih hrest hlow⟩
    · -- everything is above the level
      have hnil : (n :: nodes).filter (fun n => level n = k) = [] := by
        rw [List.filter_eq_nil_iff, List.forall_mem_cons]
        refine ⟨by simpa using heq, fun m hm => ?_⟩
        have := hfirst m hm
        simp
        omega
      rw [hnil]
      exact List.nil_prefix

/-- Nodes that stand by level have each level in one piece. -/
lemma filter_infix_of_pairwise {nodes : List String}
    (h : nodes.Pairwise fun a b => level a ≤ level b) :
    (nodes.filter fun n => level n = k) <:+: nodes := by
  induction nodes with
  | nil => exact List.infix_refl _
  | cons n nodes ih =>
    obtain ⟨hfirst, hrest⟩ := List.pairwise_cons.1 h
    rcases Nat.lt_or_ge (level n) k with hlt | hge
    · rw [List.filter_cons_of_neg (by simpa using hlt.ne)]
      exact List.infix_cons (ih hrest)
    · refine (filter_prefix_of_pairwise h ?_).isInfix
      exact List.forall_mem_cons.2 ⟨hge, fun m hm => hge.trans (hfirst m hm)⟩

/-- The first frontier is the queue that the sort starts with. -/
lemma frontier_zero (hg : g.Proper) : g.frontier 0 = (Sorting.start g).queue := by
  obtain ⟨rest, hsplit⟩ := start_prefix_order hg
  have hlevel : ∀ n ∈ g.order, g.level n = 0 ↔ n ∈ (Sorting.start g).queue := fun n hn => by
    rw [(isLevel_level hg hn).eq_zero_iff, Sorting.mem_start_queue,
      and_iff_right (order_subset hg hn)]
  have hnodup := order_nodup hg
  rw [← hsplit, List.nodup_append] at hnodup
  rw [← hsplit] at hlevel
  rw [frontier, ← hsplit, List.filter_append]
  have hfirst : (Sorting.start g).queue.filter (fun n => g.level n = 0) = (Sorting.start g).queue :=
    List.filter_eq_self.2 fun n hn => by
      simpa using (hlevel n (List.mem_append_left _ hn)).2 hn
  have hrest : rest.filter (fun n => g.level n = 0) = [] := by
    refine List.filter_eq_nil_iff.2 fun n hn => ?_
    have hout : n ∉ (Sorting.start g).queue := fun hmem => hnodup.2.2 n hmem n hn rfl
    simpa using mt (hlevel n (List.mem_append_right _ hn)).1 hout
  rw [hfirst, hrest, List.append_nil]

lemma mem_frontier : n ∈ g.frontier k ↔ n ∈ g.order ∧ g.level n = k := by
  rw [frontier, List.mem_filter, decide_eq_true_iff]

end Graph

/-- **The order walks level by level.**  For any node list and link list, every node in order has its
level: zero if no known link leads to it, and otherwise one more than the largest level among its
known sources; and these are the only levels for which this is so.  The order goes through the levels
upwards.  It begins with the nodes of level zero, those without a known link into them, as they stand
in the node list; each level is one piece of it; and no known link joins two nodes of one level. -/
theorem order_by_level (ids : List String) (links : List Link) :
    let g := Graph.ofLinks ids links
    (∀ n ∈ g.order, IsLevel (KnownLink ids links) g.level n) ∧
    (∀ level, (∀ n ∈ g.order, IsLevel (KnownLink ids links) level n) →
      ∀ n ∈ g.order, level n = g.level n) ∧
    (g.order.Pairwise fun a b => g.level a ≤ g.level b) ∧
    g.frontier 0 = (Keyed.distinct ids).filter (fun n => g.inDegree n == 0) ∧
    g.frontier 0 <+: g.order ∧
    (∀ k, g.frontier k <:+: g.order) ∧
    ∀ k, ∀ a ∈ g.frontier k, ∀ b ∈ g.frontier k, ¬ KnownLink ids links a b := by
  intro g
  have hg : g.Proper := Graph.ofLinks_proper ids links
  rw [← Graph.linked_ofLinks]
  have hlevel : ∀ n ∈ g.order, IsLevel g.Linked g.level n := fun n hn => isLevel_level hg hn
  have hordered := Graph.order_pairwise hg hlevel
  refine ⟨hlevel, fun level h n hn => IsLevel.unique hg h hn, hordered, Graph.frontier_zero hg, ?_,
    fun k => Graph.filter_infix_of_pairwise hordered, fun k a ha b hb hlink => ?_⟩
  · rw [Graph.frontier_zero hg]
    exact Graph.start_prefix_order hg
  · obtain ⟨-, rfl⟩ := Graph.mem_frontier.1 ha
    obtain ⟨hb, heq⟩ := Graph.mem_frontier.1 hb
    have := (hlevel b hb).above a hlink
    omega

/-- A node is as high as the longest way to it, and a node behind a cycle is not in order. -/
example :
    let g := Graph.ofLinks ["c", "b", "a", "d", "e"]
      [⟨"a", "b"⟩, ⟨"a", "c"⟩, ⟨"b", "c"⟩, ⟨"d", "d"⟩, ⟨"d", "e"⟩]
    g.frontier 0 = ["a"] ∧ g.frontier 1 = ["b"] ∧ g.frontier 2 = ["c"] ∧ g.order.length = 3 := by
  decide

end Worksheet.Dependency
