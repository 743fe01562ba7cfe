import Flowchart.Graph
import Flowchart.Proofs.Flow.Sound
import Mathlib.Data.List.Nodup

/-!
# Branches of a flow

Every outlet has its branch, and an id of a flow finds a node.  Outlets with plain ids make a
graph.
-/

namespace Flowchart

namespace Node

theorem length_branchLabels (node : Node) : node.branchLabels.length = node.outlets.length := by
  unfold branchLabels
  split
  · rename_i first second heq
    rw [← List.length_map Outlet.label, heq]
    rfl
  · simp

theorem map_fst_branches (node : Node) : node.branches.map Prod.fst = node.outlets :=
  List.map_fst_zip (Nat.le_of_eq node.length_branchLabels.symm)

theorem mem_outlets_of_mem_branches {node : Node} {branch : Outlet × Json}
    (h : branch ∈ node.branches) : branch.1 ∈ node.outlets :=
  (List.of_mem_zip h).1

theorem labels_of_branches {p : Text → Prop} (hyes : p "yes".toList) (hno : p "no".toList)
    {node : Node}
    (h : ∀ outlet ∈ node.outlets, outlet.label.isVoid = true ∨ ∃ s, outlet.label = .str s ∧ p s) :
    ∀ branch ∈ node.branches, branch.2.isVoid = true ∨ ∃ s, branch.2 = .str s ∧ p s := by
  -- Labels that are missing or of a kind stay so, as the answers of a two-way split are of that
  -- kind.
  have hlabels : ∀ label ∈ node.outlets.map Outlet.label,
      label.isVoid = true ∨ ∃ s, label = .str s ∧ p s := List.forall_mem_map.2 h
  have helse : ∀ (label : Json) (answer : Text),
      (label.isVoid = true ∨ ∃ s, label = .str s ∧ p s) → p answer →
      (label.orElse (.str answer)).isVoid = true ∨
        ∃ s, label.orElse (.str answer) = .str s ∧ p s := by
    intro label answer hlabel hanswer
    unfold Json.orElse
    split
    · exact .inr ⟨answer, rfl, hanswer⟩
    · exact hlabel
  intro branch hbranch
  have hmem : branch.2 ∈ node.branchLabels := (List.of_mem_zip hbranch).2
  unfold branchLabels at hmem
  split at hmem
  · rename_i first second heq
    rw [heq] at hlabels
    simp only [List.mem_cons, List.not_mem_nil, or_false] at hmem
    rcases hmem with hmem | hmem
    · exact hmem ▸ helse first _ (hlabels first (by simp)) hyes
    · exact hmem ▸ helse second _ (hlabels second (by simp)) hno
  · exact hlabels _ hmem

theorem branches_eq {node : Node}
    (h : node.outlets.length = 2 → ∀ outlet ∈ node.outlets, outlet.label.isVoid = false) :
    node.branches = node.outlets.map fun outlet => (outlet, outlet.label) := by
  have hlabels : node.branchLabels = node.outlets.map Outlet.label := by
    unfold branchLabels
    split
    · rename_i first second heq
      have hlength : node.outlets.length = 2 := by rw [← List.length_map Outlet.label, heq]; rfl
      have hspoken : ∀ label ∈ node.outlets.map Outlet.label, label.isVoid = false :=
        List.forall_mem_map.2 (h hlength)
      rw [heq] at hspoken
      rw [Json.orElse, Json.orElse, hspoken first (by simp), hspoken second (by simp)]
      exact heq.symm
    · rfl
  rw [branches, hlabels, List.map_prod_left_eq_zip]

theorem label_of_split {node : Node} (hsplit : 1 < node.outlets.length)
    (h : 2 < node.outlets.length → ∀ outlet ∈ node.outlets, outlet.label.isVoid = false) :
    ∀ branch ∈ node.branches, branch.2.isVoid = false := by
  have helse : ∀ (label : Json) (answer : Text), answer ≠ [] →
      (label.orElse (.str answer)).isVoid = false := by
    intro label answer hanswer
    unfold Json.orElse
    split
    · simpa [Json.isVoid] using hanswer
    · rename_i hlabel
      simpa using hlabel
  intro branch hbranch
  have hmem : branch.2 ∈ node.branchLabels := (List.of_mem_zip hbranch).2
  unfold branchLabels at hmem
  split at hmem
  · rcases List.mem_cons.1 hmem with hmem | hmem
    · exact hmem ▸ helse _ _ (by decide)
    · exact List.mem_singleton.1 hmem ▸ helse _ _ (by decide)
  · rename_i hother
    obtain ⟨outlet, houtlet, heq⟩ := List.mem_map.1 hmem
    refine heq ▸ h (Nat.lt_of_le_of_ne hsplit fun htwo => ?_) outlet houtlet
    obtain ⟨first, second, heq⟩ := List.length_eq_two.1 htwo.symm
    exact hother first.label second.label (by rw [heq]; rfl)

theorem filter_flatMap_own {α : Type} {own : Node → List α} {source : α → Text}
    (hown : ∀ node, ∀ a ∈ own node, source a = node.id) {nodes : List Node} {node : Node}
    (h : (nodes.map Node.id).Nodup) (hnode : node ∈ nodes) :
    (nodes.flatMap own).filter (source · = node.id) = own node := by
  have hother : ∀ other : Node, other.id ≠ node.id →
      (own other).filter (source · = node.id) = [] := by
    intro other hne
    rw [List.filter_eq_nil_iff]
    intro a ha
    simpa [hown other a ha] using hne
  induction nodes with
  | nil => exact absurd hnode List.not_mem_nil
  | cons first nodes ih =>
      rw [List.map_cons, List.nodup_cons] at h
      rw [List.flatMap_cons, List.filter_append]
      rcases List.mem_cons.1 hnode with rfl | hlater
      · have hself : (own node).filter (source · = node.id) = own node := by
          rw [List.filter_eq_self]
          intro a ha
          simp [hown node a ha]
        have hrest : (nodes.flatMap own).filter (source · = node.id) = [] := by
          rw [List.filter_flatMap, List.flatMap_eq_nil_iff]
          intro other hmem
          apply hother
          intro heq
          exact h.1 (heq ▸ List.mem_map_of_mem hmem)
        rw [hself, hrest, List.append_nil]
      · rw [ih h.2 hlater, hother first, List.nil_append]
        intro heq
        exact h.1 (heq ▸ List.mem_map_of_mem hlater)

end Node

theorem Json.eq_str_of_text? {value : Json} {s : Text} (h : s ∈ value.text?) :
    value = .str s := by
  cases value with
  | str t => exact congrArg Json.str (Option.some.inj h)
  | null | bool | int | float | arr | obj => cases h

def Json.decideLabel (p : Text → Prop) [DecidablePred p] (label : Json) :
    Decidable (label.isVoid = true ∨ ∃ s, label = .str s ∧ p s) :=
  match label with
  | .str s => decidable_of_iff ((Json.str s).isVoid = true ∨ p s) <|
      or_congr Iff.rfl ⟨fun h => ⟨s, rfl, h⟩, fun ⟨_, heq, h⟩ => Json.str.inj heq ▸ h⟩
  | .null => isTrue (.inl rfl)
  | .bool b => decidable_of_iff ((Json.bool b).isVoid = true) <| by simp
  | .int n => decidable_of_iff ((Json.int n).isVoid = true) <| by simp
  | .float x => decidable_of_iff ((Json.float x).isVoid = true) <| by simp
  | .arr items => decidable_of_iff ((Json.arr items).isVoid = true) <| by simp
  | .obj fields => decidable_of_iff ((Json.obj fields).isVoid = true) <| by simp

/-- An outlet whose id can tell its edge from others. -/
def Outlet.Keyed (outlet : Outlet) : Prop := outlet.id.items? = none ∧ outlet.id.fields? = none

instance (outlet : Outlet) : Decidable outlet.Keyed :=
  inferInstanceAs (Decidable (outlet.id.items? = none ∧ outlet.id.fields? = none))

namespace Flow

variable {flow : Flow}

theorem mem_of_lastNode {id : Text} {node : Node} (h : flow.lastNode? id = some node) :
    node ∈ flow.nodes :=
  List.mem_reverse.1 (List.mem_of_find?_eq_some h)

theorem exists_lastNode {id : Text} (h : id ∈ flow.nodeIds) :
    ∃ node ∈ flow.nodes, flow.lastNode? id = some node ∧ node.id = id := by
  obtain ⟨node, hnode, rfl⟩ := List.mem_map.1 h
  cases hlast : flow.lastNode? node.id with
  | none =>
      have := List.find?_eq_none.1 hlast node (List.mem_reverse.2 hnode)
      simp at this
  | some last =>
      exact ⟨last, mem_of_lastNode hlast, rfl, by simpa using List.find?_some hlast⟩

theorem lastNode_eq (h : flow.nodeIds.Nodup) {node : Node} (hnode : node ∈ flow.nodes) :
    flow.lastNode? node.id = some node := by
  obtain ⟨last, hlast, heq, hid⟩ := exists_lastNode (List.mem_map_of_mem hnode)
  rw [heq, List.inj_on_of_nodup_map h hlast hnode hid]

theorem graph_eq_ok_iff :
    flow.graph = .ok (Graph.ofFlow flow) ↔
      ∀ node ∈ flow.nodes, ∀ outlet ∈ node.outlets, outlet.target ∈ flow.nodeIds →
        outlet.Keyed := by
  -- Only outlets to nodes have to tell their edges apart.
  have hkeyed : ∀ outlet : Outlet, flow.edgeMisfit? outlet = none ↔
      (outlet.target ∈ flow.nodeIds → outlet.Keyed) := by
    intro outlet
    cases hid : outlet.id <;> simp [edgeMisfit?, Outlet.Keyed, Json.items?, Json.fields?, hid]
  have hnone : (flow.links.findSome? fun link => flow.edgeMisfit? link.2) = none ↔
      ∀ node ∈ flow.nodes, ∀ outlet ∈ node.outlets, outlet.target ∈ flow.nodeIds →
        outlet.Keyed := by
    simp only [List.findSome?_eq_none_iff, mem_links, hkeyed]
    constructor
    · exact fun h node hnode outlet houtlet => h (node.id, outlet) ⟨node, hnode, rfl, houtlet⟩
    · rintro h link ⟨node, hnode, -, houtlet⟩
      exact h node hnode link.2 houtlet
  rw [← hnone, graph]
  split
  · rename_i misfit hmisfit
    simp [hmisfit]
  · rename_i hmisfit
    simp [hmisfit]

theorem graph_eq_ok
    (h : ∀ node ∈ flow.nodes, ∀ outlet ∈ node.outlets, outlet.Keyed) :
    flow.graph = .ok (Graph.ofFlow flow) :=
  graph_eq_ok_iff.2 fun node hnode outlet houtlet _ => h node hnode outlet houtlet

theorem eq_ofFlow_of_graph {graph : Graph} (h : flow.graph = .ok graph) :
    graph = Graph.ofFlow flow := by
  unfold Flow.graph at h
  split at h
  · cases h
  · exact (Except.ok.inj h).symm

end Flow

namespace Graph

variable {flow : Flow} {id : Text}

theorem mem_order_ofFlow : id ∈ (ofFlow flow).order ↔ id ∈ flow.nodeIds := List.mem_eraseDups

theorem mem_edges_ofFlow {edge : Edge} :
    edge ∈ (ofFlow flow).edges ↔ ∃ node ∈ flow.nodes, ∃ outlet ∈ node.outlets,
      outlet.target ∈ flow.nodeIds ∧ edge = ⟨node.id, outlet.target, outlet.id.edgeKey⟩ := by
  rw [ofFlow, List.mem_eraseDups, List.partition_eq_filter_filter, List.mem_map]
  simp only [List.mem_filter, List.contains_eq_mem, List.mem_eraseDups, decide_eq_true_eq,
    Flow.mem_links]
  constructor
  · rintro ⟨link, ⟨⟨node, hnode, hid, houtlet⟩, htarget⟩, rfl⟩
    exact ⟨node, hnode, link.2, houtlet, htarget, by rw [hid]⟩
  · rintro ⟨node, hnode, outlet, houtlet, htarget, rfl⟩
    exact ⟨(node.id, outlet), ⟨⟨node, hnode, rfl, houtlet⟩, htarget⟩, rfl⟩

theorem inDegree_ofFlow
    (h : ∀ node ∈ flow.nodes, ∀ outlet ∈ node.outlets, outlet.target ≠ id) :
    (ofFlow flow).inDegree id = 0 := by
  rw [inDegree, List.countP_eq_zero]
  intro edge hedge
  obtain ⟨node, hnode, outlet, houtlet, -, rfl⟩ := mem_edges_ofFlow.1 hedge
  simpa using h node hnode outlet houtlet

end Graph

end Flowchart
