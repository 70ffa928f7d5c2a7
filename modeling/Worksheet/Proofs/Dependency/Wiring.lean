import Worksheet.Calculation.Node
import Worksheet.Proofs.Dependency.Sorting

/-!
# Graphs wired by edges

The edges whose two ends are among given ids are the links of a graph.  The inbound edges of a node
tell its sources, which in order stand before it.  Whether a node is behind a cycle is decided
upstream of it: two graphs that have the same links into a part that is closed under sources have
the same walks and cycles there.
-/

namespace Worksheet

open Relation

lemma Calculation.mem_inbound {edges : List Edge} {id : String} {e : Edge} :
    e ∈ inbound edges id ↔ e ∈ edges ∧ e.target = id := by
  rw [inbound, List.mem_filter, beq_iff_eq]

namespace Dependency.Graph

open Calculation (inbound mem_inbound)

/-! ### Edges as links -/

/-- The graph that edges make between ids. -/
def ofEdges (ids : List String) (edges : List Edge) : Graph :=
  .ofLinks ids (edges.map fun edge => ⟨edge.source, edge.target⟩)

variable {ids : List String} {edges : List Edge}

lemma ofEdges_proper (ids : List String) (edges : List Edge) : (ofEdges ids edges).Proper :=
  ofLinks_proper _ _

lemma mem_nodes_ofEdges {n : String} : n ∈ (ofEdges ids edges).nodes ↔ n ∈ ids :=
  mem_nodes_ofLinks

/-- Links are the edges between ids, seen from their targets. -/
lemma linked_ofEdges {a b : String} :
    (ofEdges ids edges).Linked a b ↔
      a ∈ ids ∧ b ∈ ids ∧ ∃ e ∈ inbound edges b, e.source = a := by
  rw [ofEdges, linked_ofLinks, KnownLink, List.mem_map]
  refine and_congr_right fun _ => and_congr_right fun _ => ⟨?_, ?_⟩
  · rintro ⟨e, he, heq⟩
    obtain ⟨rfl, rfl⟩ := Link.mk.inj heq
    exact ⟨e, mem_inbound.2 ⟨he, rfl⟩, rfl⟩
  · rintro ⟨e, he, rfl⟩
    obtain ⟨hmem, rfl⟩ := mem_inbound.1 he
    exact ⟨e, hmem, rfl⟩

lemma linked_of_mem_inbound {id : String} {e : Edge} (he : e ∈ inbound edges id)
    (hsource : e.source ∈ ids) (hid : id ∈ ids) : (ofEdges ids edges).Linked e.source id :=
  linked_ofEdges.2 ⟨hsource, hid, e, he, rfl⟩

/-! ### Sources stand first -/

section Order

variable {before after : List String} {id : String} {e : Edge}

lemma mem_ids_of_mem_order (hid : id ∈ (ofEdges ids edges).order) : id ∈ ids :=
  mem_nodes_ofEdges.1 (order_subset (ofEdges_proper ids edges) hid)

/-- A source that is a node at all stands before the node that it feeds. -/
lemma source_mem_before (horder : (ofEdges ids edges).order = before ++ id :: after)
    (he : e ∈ inbound edges id) (hsource : e.source ∈ ids) : e.source ∈ before := by
  have hid : id ∈ ids := mem_ids_of_mem_order (by rw [horder]; simp)
  exact (sorting_consistent (ofEdges_proper ids edges)).closed before id after horder e.source
    (linked_of_mem_inbound he hsource hid)

/-- Neither the node itself nor one that stands behind it is among its sources. -/
lemma source_not_mem_from (horder : (ofEdges ids edges).order = before ++ id :: after)
    (he : e ∈ inbound edges id) : e.source ∉ id :: after := by
  intro hmem
  have hsource : e.source ∈ ids := mem_ids_of_mem_order (by
    rw [horder]
    exact List.mem_append_right _ hmem)
  have hnd := order_nodup (ofEdges_proper ids edges)
  rw [horder, List.nodup_append] at hnd
  exact hnd.2.2 _ (source_mem_before horder he hsource) _ hmem rfl

/-- Neither the nodes before `id` nor `id` itself read `id`. -/
lemma source_ne_of_mem {m : String} (horder : (ofEdges ids edges).order = before ++ id :: after)
    (hm : m ∈ before ++ [id]) (he : e ∈ inbound edges m) : e.source ≠ id := by
  rintro rfl
  rcases List.mem_append.1 hm with hm | hm
  · obtain ⟨front, back, rfl⟩ := List.append_of_mem hm
    have horder' : (ofEdges ids edges).order = front ++ m :: (back ++ e.source :: after) := by
      rw [horder, List.append_assoc, List.cons_append]
    exact source_not_mem_from horder' he (by simp)
  · rw [List.mem_singleton.1 hm] at he
    exact source_not_mem_from horder he List.mem_cons_self

end Order

/-! ### What is decided upstream -/

lemma mem_order_iff_free {g : Graph} (hg : g.Proper) {n : String} :
    n ∈ g.order ↔ n ∈ g.nodes ∧ ¬ g.BehindCycle n := by
  refine ⟨fun h => ⟨order_subset hg h, not_behindCycle_of_mem_order hg h⟩, ?_⟩
  rintro ⟨hnode, hfree⟩
  by_contra hout
  exact hfree (behindCycle_of_not_mem_order hg hnode hout)

/-- The part `inside` of the first graph holds the sources of its nodes, and the second graph has
the same links into it. -/
structure AgreeOn (inside : String → Prop) (g g' : Graph) : Prop where
  closed : ∀ {a b}, g.Linked a b → inside b → inside a
  linked_iff : ∀ {a b}, inside b → (g.Linked a b ↔ g'.Linked a b)

namespace AgreeOn

variable {inside : String → Prop} {g g' : Graph}

lemma symm (h : AgreeOn inside g g') : AgreeOn inside g' g where
  closed hab hb := h.closed ((h.linked_iff hb).2 hab) hb
  linked_iff hb := (h.linked_iff hb).symm

/-- A walk that ends inside is inside all along, and is a walk of the other graph. -/
lemma walk (h : AgreeOn inside g g') {m n : String} (hn : inside n)
    (hwalk : ReflTransGen g.Linked m n) : ReflTransGen g'.Linked m n ∧ inside m := by
  induction hwalk using ReflTransGen.head_induction_on with
  | refl => exact ⟨.refl, hn⟩
  | head hab _ ih => exact ⟨.head ((h.linked_iff ih.2).1 hab) ih.1, h.closed hab ih.2⟩

lemma behindCycle (h : AgreeOn inside g g') {n : String} (hn : inside n)
    (hbehind : g.BehindCycle n) : g'.BehindCycle n := by
  obtain ⟨m, hcycle, hwalk⟩ := hbehind
  obtain ⟨hwalk', hm⟩ := h.walk hn hwalk
  -- the cycle is a first link followed by a walk back
  obtain ⟨k, hmk, hkm⟩ := TransGen.head'_iff.1 hcycle
  obtain ⟨hkm', hk⟩ := h.walk hm hkm
  exact ⟨m, TransGen.head' ((h.linked_iff hk).1 hmk) hkm', hwalk'⟩

lemma behindCycle_iff (h : AgreeOn inside g g') {n : String} (hn : inside n) :
    g.BehindCycle n ↔ g'.BehindCycle n :=
  ⟨h.behindCycle hn, h.symm.behindCycle hn⟩

/-- Inside, the two graphs leave the same nodes out of order. -/
lemma mem_order_iff (h : AgreeOn inside g g') (hg : g.Proper) (hg' : g'.Proper) {n : String}
    (hn : inside n) (hnode : n ∈ g.nodes ↔ n ∈ g'.nodes) : n ∈ g.order ↔ n ∈ g'.order := by
  rw [mem_order_iff_free hg, mem_order_iff_free hg', hnode, h.behindCycle_iff hn]

end AgreeOn

end Dependency.Graph

end Worksheet
