import Worksheet.Proofs.Calculation.Solution

/-!
# A node depends on its ancestors only

Two graphs may differ in everything but a node and its ancestors: in other nodes and edges, in the
order in which nodes are listed, in how edges to different nodes are interleaved, in what fails or
is circular elsewhere.  The node still has the same report in both.  Cycles that lead to it lie
among its ancestors, and the equations of its ancestors, which are the same in both graphs, have one
solution: along the order each output is determined by earlier ones.
-/

namespace Worksheet.Calculation

open Dependency (Graph)
open Relation

/-- Two graphs agree on `n` and its ancestors, the ids from which edges between nodes lead to it:
these have the same nodes, the same sequences of inbound edges, and sources that are nodes in one
graph exactly if they are in the other.  The ancestors themselves are then the same in both. -/
structure SameAncestry (n : String) (nodes nodes' : List Node) (edges edges' : List Edge) :
    Prop where
  node_iff : ∀ node : Node, ReflTransGen (graph nodes edges).Linked node.id n →
    (node ∈ nodes ↔ node ∈ nodes')
  inbound_eq : ∀ m, ReflTransGen (graph nodes edges).Linked m n →
    inbound edges m = inbound edges' m
  source_iff : ∀ m, ReflTransGen (graph nodes edges).Linked m n → ∀ e ∈ inbound edges m,
    (e.source ∈ nodes.map Node.id ↔ e.source ∈ nodes'.map Node.id)

namespace SameAncestry

variable {n m : String} {nodes nodes' : List Node} {edges edges' : List Edge}

/-! ### The two graphs upstream -/

lemma mem_ids_iff (h : SameAncestry n nodes nodes' edges edges')
    (hm : ReflTransGen (graph nodes edges).Linked m n) :
    m ∈ nodes.map Node.id ↔ m ∈ nodes'.map Node.id := by
  rw [List.mem_map, List.mem_map]
  constructor
  · rintro ⟨node, hmem, rfl⟩
    exact ⟨node, (h.node_iff node hm).1 hmem, rfl⟩
  · rintro ⟨node, hmem, rfl⟩
    exact ⟨node, (h.node_iff node hm).2 hmem, rfl⟩

lemma agreeOn (h : SameAncestry n nodes nodes' edges edges') :
    Graph.AgreeOn (fun m => ReflTransGen (graph nodes edges).Linked m n) (graph nodes edges)
      (graph nodes' edges') where
  closed hab hb := hb.head hab
  linked_iff {a b} hb := by
    rw [graph_eq, graph_eq, Graph.linked_ofEdges, Graph.linked_ofEdges, mem_keys_roles,
      mem_keys_roles, mem_keys_roles, mem_keys_roles, h.mem_ids_iff hb, ← h.inbound_eq b hb]
    constructor
    · rintro ⟨ha, hb', e, he, rfl⟩
      exact ⟨(h.source_iff b hb e he).1 ha, hb', e, he, rfl⟩
    · rintro ⟨ha, hb', e, he, rfl⟩
      exact ⟨(h.source_iff b hb e he).2 ha, hb', e, he, rfl⟩

lemma mem_nodes_iff (h : SameAncestry n nodes nodes' edges edges')
    (hm : ReflTransGen (graph nodes edges).Linked m n) :
    m ∈ (graph nodes edges).nodes ↔ m ∈ (graph nodes' edges').nodes := by
  rw [graph_eq, graph_eq, Graph.mem_nodes_ofEdges, Graph.mem_nodes_ofEdges, mem_keys_roles,
    mem_keys_roles, h.mem_ids_iff hm]

/-- Ancestors are in order in both graphs or in neither. -/
lemma mem_order_iff (h : SameAncestry n nodes nodes' edges edges')
    (hm : ReflTransGen (graph nodes edges).Linked m n) :
    m ∈ (graph nodes edges).order ↔ m ∈ (graph nodes' edges').order :=
  h.agreeOn.mem_order_iff (graph_proper _ _) (graph_proper _ _) hm (h.mem_nodes_iff hm)

lemma mem_circular_iff (h : SameAncestry n nodes nodes' edges edges')
    (hm : ReflTransGen (graph nodes edges).Linked m n) :
    m ∈ (graph nodes edges).circular ↔ m ∈ (graph nodes' edges').circular := by
  rw [Graph.mem_circular, Graph.mem_circular, h.mem_nodes_iff hm, h.mem_order_iff hm]

/-- A source of an ancestor is out of order in both graphs, or it is in order and an ancestor that
stands in front. -/
lemma source_cases (h : SameAncestry n nodes nodes' edges edges')
    (hm : ReflTransGen (graph nodes edges).Linked m n) (horder : m ∈ (graph nodes edges).order)
    {e : Edge} (he : e ∈ inbound edges m) :
    (e.source ∉ (graph nodes edges).order ∧ e.source ∉ (graph nodes' edges').order) ∨
      ReflTransGen (graph nodes edges).Linked e.source n ∧
        (graph nodes edges).order.idxOf e.source < (graph nodes edges).order.idxOf m := by
  have hmem : ∀ {nodes : List Node} {edges : List Edge},
      e.source ∈ (graph nodes edges).order → e.source ∈ nodes.map Node.id :=
    fun h => mem_keys_roles.1 (Graph.mem_ids_of_mem_order h)
  by_cases hsource : e.source ∈ nodes.map Node.id
  · right
    have hlink : (graph nodes edges).Linked e.source m :=
      Graph.linked_of_mem_inbound he (mem_keys_roles.2 hsource)
        (Graph.mem_ids_of_mem_order horder)
    exact ⟨hm.head hlink, (Graph.idxOf_lt_of_linked (graph_proper _ _) hlink horder).2⟩
  · left
    exact ⟨fun h => hsource (hmem h), fun h' =>
      hsource ((h.source_iff m hm e he).2 (hmem h'))⟩

/-! ### The two runs upstream -/

lemma lookup_roles_eq (h : SameAncestry n nodes nodes' edges edges')
    (hids : (nodes.map Node.id).Nodup) (hids' : (nodes'.map Node.id).Nodup)
    (hm : ReflTransGen (graph nodes edges).Linked m n) :
    (roles nodes).lookup m = (roles nodes').lookup m := by
  refine Option.ext fun role => ?_
  rw [lookup_roles_iff hids, lookup_roles_iff hids']
  exact h.node_iff ⟨m, role⟩ hm

/-- Ancestors end with the same value and the same report in both runs. -/
lemma lookup_eq (h : SameAncestry n nodes nodes' edges edges')
    (hids : (nodes.map Node.id).Nodup) (hids' : (nodes'.map Node.id).Nodup) {options : Options}
    {last last' : Progress} (hs : Settled options nodes edges last)
    (hs' : Settled options nodes' edges' last')
    (hm : ReflTransGen (graph nodes edges).Linked m n) :
    last.values.lookup m = last'.values.lookup m ∧
      last.reports.lookup m = last'.reports.lookup m := by
  -- the sources of a node in order stand before it
  induction hplace : (graph nodes edges).order.idxOf m using Nat.strong_induction_on
    generalizing m with
  | _ place ih =>
    by_cases horder : m ∈ (graph nodes edges).order
    · have hreads : ∀ e ∈ inbound edges m,
          last.values.lookup e.source = last'.values.lookup e.source := by
        intro e he
        rcases h.source_cases hm horder he with ⟨hout, hout'⟩ | ⟨hsource, hlt⟩
        · rw [hs.value_none _ hout, hs'.value_none _ hout']
        · exact (ih _ (hplace ▸ hlt) hsource rfl).1
      obtain ⟨role, hrole⟩ := exists_role horder
      obtain ⟨outcome, hrun, hreport, hvalue⟩ := hs.ran m horder role hrole
      obtain ⟨outcome', hrun', hreport', hvalue'⟩ :=
        hs'.ran m ((h.mem_order_iff hm).1 horder) role (h.lookup_roles_eq hids hids' hm ▸ hrole)
      have hsame : runNode options (fun k => last.values.lookup k) (inbound edges m) role =
          runNode options (fun k => last'.values.lookup k) (inbound edges' m) role := by
        rw [← h.inbound_eq m hm]
        exact runNode_congr hreads role
      obtain rfl : outcome = outcome' := Except.ok.inj (hrun.symm.trans (hsame.trans hrun'))
      exact ⟨hvalue.trans hvalue'.symm, hreport.trans hreport'.symm⟩
    · have horder' : m ∉ (graph nodes' edges').order := fun h' =>
        horder ((h.mem_order_iff hm).2 h')
      have hreport : last.reports.lookup m = last'.reports.lookup m := by
        rw [hs.report_circular m horder, hs'.report_circular m horder']
        simp only [h.mem_circular_iff hm]
      exact ⟨by rw [hs.value_none m horder, hs'.value_none m horder'], hreport⟩

/-- It is enough to look at ids that include the node and hold the sources of each other. -/
lemma of_closed (upstream : List String) (hn : n ∈ upstream)
    (hclosed : ∀ m ∈ upstream, ∀ e ∈ inbound edges m,
      e.source ∈ nodes.map Node.id → e.source ∈ upstream)
    (hnodes : ∀ node : Node, node.id ∈ upstream → (node ∈ nodes ↔ node ∈ nodes'))
    (hedges : ∀ m ∈ upstream, inbound edges m = inbound edges' m)
    (hsources : ∀ m ∈ upstream, ∀ e ∈ inbound edges m,
      (e.source ∈ nodes.map Node.id ↔ e.source ∈ nodes'.map Node.id)) :
    SameAncestry n nodes nodes' edges edges' := by
  have hmem : ∀ m, ReflTransGen (graph nodes edges).Linked m n → m ∈ upstream := by
    intro m hm
    induction hm using ReflTransGen.head_induction_on with
    | refl => exact hn
    | head hab _ ih =>
      obtain ⟨hsource, -, e, he, rfl⟩ := Graph.linked_ofEdges.1 hab
      exact hclosed _ ih e he (mem_keys_roles.1 hsource)
  exact ⟨fun node hm => hnodes node (hmem _ hm), fun m hm => hedges m (hmem m hm),
    fun m hm => hsources m (hmem m hm)⟩

end SameAncestry

/-- **A node depends on its ancestors only.**  Two runs of graphs that agree on a node and its
ancestors report the same of it, or nothing in both, and count it as circular in both or in
neither. -/
theorem report_eq_of_sameAncestry {n : String} {nodes nodes' : List Node}
    {edges edges' : List Edge} {options : Options} {out out' : Output}
    (hids : (nodes.map Node.id).Nodup) (hids' : (nodes'.map Node.id).Nodup)
    (hrun : run options nodes edges = .ok out) (hrun' : run options nodes' edges' = .ok out')
    (h : SameAncestry n nodes nodes' edges edges') :
    out.reports.lookup n = out'.reports.lookup n ∧ (n ∈ out.circular ↔ n ∈ out'.circular) := by
  obtain ⟨last, hlast, rfl⟩ := run_eq_ok hrun
  obtain ⟨last', hlast', rfl⟩ := run_eq_ok hrun'
  have hreports := h.lookup_eq hids hids' (settled_of_progressAfter hlast)
    (settled_of_progressAfter hlast') .refl
  exact ⟨hreports.2, h.mem_circular_iff .refl⟩

/-- The mixed graph with its nodes in another order, and with a cycle behind the product in the
place of the frame and of the process that read itself. -/
def rewiredNodes : List Node :=
  [⟨"frame", .process "1/" []⟩, ⟨"rate", .constant (.number 2.0) "m/kg"⟩,
   ⟨"length", .process "A*B" [⟨"a", "A"⟩, ⟨"b", "B"⟩, ⟨"c", "A"⟩]⟩, ⟨"loop", .passthrough⟩,
   ⟨"mass", .constant (.literal "3 kg") ""⟩, ⟨"copy", .passthrough⟩]

/-- The edges of the rewired graph. -/
def rewiredEdges : List Edge :=
  [⟨"nowhere", "length", some "c"⟩, ⟨"loop", "frame", none⟩, ⟨"mass", "length", some "a"⟩,
   ⟨"length", "loop", none⟩, ⟨"rate", "length", some "b"⟩, ⟨"length", "copy", none⟩,
   ⟨"frame", "loop", none⟩, ⟨"mass", "length", some "b"⟩]

/-- What is reported of the rewired graph. -/
def rewiredOutput : Output where
  reports :=
    [("frame", { error := some "Circular dependency detected" }),
     ("loop", { error := some "Circular dependency detected" }),
     ("rate", { value := some "2 m/kg", unit := some "m/kg" }),
     ("mass", { value := some "3 kg", unit := some "kg" }),
     ("length", { value := some "6 m", unit := some "m" }),
     ("copy", { value := some "6 m", unit := some "m" })]
  circular := ["frame", "loop"]

lemma rewired_sameAncestry :
    SameAncestry "copy" mixedNodes rewiredNodes mixedEdges rewiredEdges := by
  refine .of_closed ["copy", "length", "mass", "rate"] (by decide) (by decide) ?_ (by decide)
    (by decide)
  rintro ⟨id, role⟩ hid
  rcases List.mem_cons.1 hid with rfl | hid
  · simp [mixedNodes, rewiredNodes]
  rcases List.mem_cons.1 hid with rfl | hid
  · simp [mixedNodes, rewiredNodes]
  rcases List.mem_cons.1 hid with rfl | hid
  · simp [mixedNodes, rewiredNodes]
  · obtain rfl := List.mem_singleton.1 hid
    simp [mixedNodes, rewiredNodes]

/-- The passthrough does not notice what has become of its siblings. -/
theorem report_eq_of_sameAncestry_rewired :
    run {} mixedNodes mixedEdges = .ok mixedOutput ∧
      run {} rewiredNodes rewiredEdges = .ok rewiredOutput ∧
      SameAncestry "copy" mixedNodes rewiredNodes mixedEdges rewiredEdges ∧
      mixedOutput.reports.lookup "copy" = rewiredOutput.reports.lookup "copy" ∧
      "copy" ∉ mixedOutput.circular ∧ "copy" ∉ rewiredOutput.circular := by
  have hrun : run {} mixedNodes mixedEdges = .ok mixedOutput := rfl
  have hrun' : run {} rewiredNodes rewiredEdges = .ok rewiredOutput := rfl
  obtain ⟨hreport, hcircular⟩ :=
    report_eq_of_sameAncestry (by decide) (by decide) hrun hrun' rewired_sameAncestry
  have hfree : "copy" ∉ mixedOutput.circular := by decide
  exact ⟨hrun, hrun', rewired_sameAncestry, hreport, hfree, fun h => hfree (hcircular.2 h)⟩

end Worksheet.Calculation
