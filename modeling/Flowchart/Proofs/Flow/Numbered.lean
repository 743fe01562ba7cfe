import Flowchart.Proofs.Flow.Branches
import Flowchart.Proofs.Roll

/-!
# Numbered outlets

Outlets that are added one after another have ids made of their ends and their position.  So even
outlets between the same two nodes are edges of their own, and the degrees in the graph count
outlets.
-/

namespace Flowchart

theorem outletId_injective {source target : Text} {position other : Nat}
    (h : outletId source target position = outletId source target other) : position = other := by
  have hnumeral := List.append_cancel_left h
  exact Text.ofNat_injective (List.cons.inj hnumeral).2

namespace Node

/-- Every outlet has the id that is made of its ends and its position. -/
def Numbered (node : Node) : Prop :=
  ∀ (position : Nat) (outlet : Outlet), node.outlets[position]? = some outlet →
    outlet.id = .str (outletId node.id outlet.target position)

variable {node : Node}

theorem numbered_of_no_outlets (h : node.outlets = []) : node.Numbered := by
  intro position outlet houtlet
  simp [h] at houtlet

theorem Numbered.append_outlet (h : node.Numbered) {outlet : Outlet}
    (hid : outlet.id = .str (outletId node.id outlet.target node.outlets.length)) :
    Numbered { node with outlets := node.outlets ++ [outlet] } := by
  intro position other hother
  rw [List.getElem?_append] at hother
  split at hother
  · exact h position other hother
  · rename_i hbound
    rw [List.getElem?_singleton] at hother
    split at hother
    · obtain rfl : outlet = other := Option.some.inj hother
      have hlast : position = node.outlets.length := by omega
      rw [hlast]
      exact hid
    · cases hother

theorem Numbered.addOutlet (h : node.Numbered) (target : Text) (label condition : Json) :
    (node.addOutlet target label condition).Numbered :=
  h.append_outlet rfl

def edges (node : Node) : List Edge :=
  node.outlets.map fun outlet => ⟨node.id, outlet.target, outlet.id.edgeKey⟩

theorem source_of_mem_edges {edge : Edge} (h : edge ∈ node.edges) : edge.source = node.id := by
  obtain ⟨outlet, -, rfl⟩ := List.mem_map.1 h
  rfl

theorem Numbered.nodup_edges (h : node.Numbered) : node.edges.Nodup := by
  -- The positions in their ids keep parallel outlets apart.
  rw [edges, List.Nodup, List.pairwise_iff_getElem]
  intro i j hi hj hlt heq
  rw [List.length_map] at hi hj
  rw [List.getElem_map, List.getElem_map, Edge.mk.injEq,
    h i _ (List.getElem?_eq_getElem hi), h j _ (List.getElem?_eq_getElem hj)] at heq
  obtain ⟨-, htarget, hkey⟩ := heq
  rw [htarget] at hkey
  exact absurd (outletId_injective (Json.str.inj hkey)) (Nat.ne_of_lt hlt)

theorem Numbered.keyed (h : node.Numbered) : ∀ outlet ∈ node.outlets, outlet.Keyed := by
  intro outlet houtlet
  obtain ⟨position, hposition⟩ := List.mem_iff_getElem?.1 houtlet
  rw [Outlet.Keyed, h position outlet hposition]
  exact ⟨rfl, rfl⟩

end Node

/-- In the graph every outlet counts: none leads astray, and each is an edge of its own. -/
structure Graph.Counts (graph : Graph) (flow : Flow) : Prop where
  resolved : graph.dangling = []
  edges : graph.edges.length = flow.outletCount
  leaving : ∀ node ∈ flow.nodes, graph.outDegree node.id = node.outlets.length
  entering : ∀ node ∈ flow.nodes, graph.inDegree node.id =
    (flow.nodes.flatMap Node.outlets).countP (·.target == node.id)
  decisions : ∀ node ∈ flow.nodes, graph.kind node.id = .decision ↔
    2 ≤ node.outlets.length ∧
      1 ≤ (flow.nodes.flatMap Node.outlets).countP (·.target == node.id)

namespace Graph

theorem kind_eq_decision_iff {graph : Graph} {id : Text} :
    graph.kind id = .decision ↔ 2 ≤ graph.outDegree id ∧ 1 ≤ graph.inDegree id := by
  grind [kind]

variable {flow : Flow}

theorem flatMap_edges (flow : Flow) : flow.nodes.flatMap Node.edges =
    flow.links.map fun link => ⟨link.1, link.2.target, link.2.id.edgeKey⟩ := by
  rw [Flow.links, List.map_flatMap]
  simp only [List.map_map]
  rfl

theorem nodup_flatMap_edges (hdistinct : flow.nodeIds.Nodup)
    (hnumbered : ∀ node ∈ flow.nodes, node.Numbered) : (flow.nodes.flatMap Node.edges).Nodup := by
  rw [List.nodup_flatMap]
  refine ⟨fun node hnode => (hnumbered node hnode).nodup_edges, ?_⟩
  -- Edges of different nodes differ in their source.
  refine (List.pairwise_map.1 hdistinct).imp fun hne edge hedge hother => hne ?_
  rw [← Node.source_of_mem_edges hedge, Node.source_of_mem_edges hother]

theorem partition_links (hsound : flow.Sound) :
    (flow.links.partition fun link => flow.nodeIds.eraseDups.contains link.2.target) =
      (flow.links, []) := by
  have hresolved : ∀ link ∈ flow.links,
      flow.nodeIds.eraseDups.contains link.2.target = true := by
    intro link hlink
    obtain ⟨node, hnode, -, houtlet⟩ := Flow.mem_links.1 hlink
    exact List.contains_iff_mem.2 (List.mem_eraseDups.2 (hsound.resolved node hnode _ houtlet))
  rw [List.partition_eq_filter_filter, List.filter_eq_self.2 hresolved]
  refine congrArg _ (List.filter_eq_nil_iff.2 fun link hlink => ?_)
  simpa using hresolved link hlink

theorem edges_ofFlow (hsound : flow.Sound) (hnumbered : ∀ node ∈ flow.nodes, node.Numbered) :
    (ofFlow flow).edges = flow.nodes.flatMap Node.edges := by
  rw [ofFlow, partition_links hsound]
  change (flow.links.map fun link =>
    (⟨link.1, link.2.target, link.2.id.edgeKey⟩ : Edge)).eraseDups = _
  rw [← flatMap_edges]
  exact eraseDups_eq_self (nodup_flatMap_edges hsound.distinct hnumbered)

theorem counts_ofFlow (hsound : flow.Sound) (hnumbered : ∀ node ∈ flow.nodes, node.Numbered) :
    (ofFlow flow).Counts flow := by
  have hedges := edges_ofFlow hsound hnumbered
  have htargets : (ofFlow flow).edges.map Edge.target =
      (flow.nodes.flatMap Node.outlets).map Outlet.target := by
    rw [hedges, List.map_flatMap, List.map_flatMap]
    simp only [Node.edges, List.map_map, Function.comp_def]
  have hleaving : ∀ node ∈ flow.nodes, (ofFlow flow).outDegree node.id = node.outlets.length := by
    intro node hnode
    have hown : (flow.nodes.flatMap Node.edges).filter (·.source = node.id) = node.edges :=
      Node.filter_flatMap_own (fun _ _ => Node.source_of_mem_edges) hsound.distinct hnode
    rw [outDegree, hedges, List.countP_eq_length_filter]
    simp only [beq_eq_decide]
    rw [hown, Node.edges, List.length_map]
  have hentering : ∀ node ∈ flow.nodes, (ofFlow flow).inDegree node.id =
      (flow.nodes.flatMap Node.outlets).countP (·.target == node.id) := by
    intro node hnode
    have hcount := congrArg (List.countP (· == node.id)) htargets
    rwa [List.countP_map, List.countP_map] at hcount
  exact {
    resolved := by rw [ofFlow, partition_links hsound]; rfl
    edges := by
      rw [Flow.outletCount, ← List.length_map Outlet.target, ← htargets, List.length_map]
    leaving := hleaving
    entering := hentering
    decisions := by
      intro node hnode
      rw [kind_eq_decision_iff, hleaving node hnode, hentering node hnode] }

end Graph

end Flowchart
