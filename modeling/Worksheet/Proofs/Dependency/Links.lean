import Mathlib.Logic.Relation
import Worksheet.Dependency.Graph
import Worksheet.Proofs.Keyed

/-!
# Links, walks and cycles

The links of a dependency graph as a relation between its nodes.  A node is behind a cycle when a
walk of zero or more links leads to it from a node that a walk of one or more links leads back to.
The graph of a node list and a link list has exactly the links both of whose ends are in the list.
-/

namespace Worksheet.Dependency

open Relation

/-- Some link leads from `a` to `b`, and both are among the listed nodes. -/
def KnownLink (ids : List String) (links : List Link) (a b : String) : Prop :=
  a ∈ ids ∧ b ∈ ids ∧ Link.mk a b ∈ links

namespace Graph

/-- Some link of the graph leads from `a` to `b`. -/
def Linked (g : Graph) (a b : String) : Prop := Link.mk a b ∈ g.links

/-- The node lies on a directed cycle, or is reached from one. -/
def BehindCycle (g : Graph) (n : String) : Prop :=
  ∃ m, TransGen g.Linked m m ∧ ReflTransGen g.Linked m n

/-- The nodes are distinct, and every link joins two of them. -/
structure Proper (g : Graph) : Prop where
  nodup : g.nodes.Nodup
  source_mem : ∀ {a b}, g.Linked a b → a ∈ g.nodes
  target_mem : ∀ {a b}, g.Linked a b → b ∈ g.nodes

/-! ### The two ends of a link -/

@[simp] lemma mem_dependents {g : Graph} {a b : String} :
    b ∈ g.dependents a ↔ g.Linked a b := by
  rw [dependents, List.mem_map, Linked]
  constructor
  · rintro ⟨⟨s, t⟩, hmem, rfl⟩
    obtain ⟨hlink, hs⟩ := List.mem_filter.1 hmem
    rwa [← (by simpa using hs : s = a)]
  · intro h
    exact ⟨⟨a, b⟩, List.mem_filter.2 ⟨h, by simp⟩, rfl⟩

@[simp] lemma mem_sources {g : Graph} {a b : String} :
    a ∈ g.sources b ↔ g.Linked a b := by
  rw [sources, List.mem_map, Linked]
  constructor
  · rintro ⟨⟨s, t⟩, hmem, rfl⟩
    obtain ⟨hlink, ht⟩ := List.mem_filter.1 hmem
    rwa [← (by simpa using ht : t = b)]
  · intro h
    exact ⟨⟨a, b⟩, List.mem_filter.2 ⟨h, by simp⟩, rfl⟩

/-- Parallel links count on both of their ends. -/
lemma count_dependents (g : Graph) (a b : String) :
    (g.dependents a).count b = (g.sources b).count a := by
  unfold dependents sources
  induction g.links with
  | nil => rfl
  | cons link links ih =>
    obtain ⟨s, t⟩ := link
    by_cases hs : s = a <;> by_cases ht : t = b <;> simp [hs, ht, ih]

/-! ### The graph of a node list and a link list -/

@[simp] lemma mem_nodes_ofLinks {ids : List String} {links : List Link} {n : String} :
    n ∈ (ofLinks ids links).nodes ↔ n ∈ ids := Keyed.mem_distinct

lemma linked_ofLinks (ids : List String) (links : List Link) :
    (ofLinks ids links).Linked = KnownLink ids links := by
  funext a b
  simp only [Linked, KnownLink, ofLinks, List.mem_filter, joins, Bool.and_eq_true,
    List.contains_iff_mem, Keyed.mem_distinct, eq_iff_iff]
  tauto

lemma ofLinks_proper (ids : List String) (links : List Link) : (ofLinks ids links).Proper where
  nodup := Keyed.nodup_distinct ids
  source_mem h := mem_nodes_ofLinks.2 (linked_ofLinks ids links ▸ h).1
  target_mem h := mem_nodes_ofLinks.2 (linked_ofLinks ids links ▸ h).2.1

end Graph

end Worksheet.Dependency
