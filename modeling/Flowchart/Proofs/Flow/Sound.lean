import Flowchart.Flow.Soundness

/-!
# Soundness of flows

The list of violations is empty for exactly the sound flows.  A node keeps its id while outlets are
added to it, and gets one outlet for each target.
-/

namespace Flowchart

namespace Flow

/-- Ids are distinct, the start is a node and missing only where there are no nodes, and every
outlet leads to a node. -/
structure Sound (flow : Flow) : Prop where
  distinct : flow.nodeIds.Nodup
  headed : flow.start = [] ↔ flow.nodes = []
  started : flow.nodes ≠ [] → flow.start ∈ flow.nodeIds
  resolved : ∀ node ∈ flow.nodes, ∀ outlet ∈ node.outlets, outlet.target ∈ flow.nodeIds

theorem repeated_eq_nil_iff {seen ids : List Text} :
    repeated seen ids = [] ↔ ids.Nodup ∧ ∀ id ∈ ids, id ∉ seen := by
  induction ids generalizing seen with
  | nil => simp [repeated]
  | cons id ids ih =>
      unfold repeated
      by_cases hseen : id ∈ seen
      · simp [hseen]
      · rw [if_neg (by simpa using hseen), ih, List.nodup_cons]
        constructor
        · rintro ⟨hnodup, hfresh⟩
          refine ⟨⟨fun hid => hfresh id hid List.mem_cons_self, hnodup⟩, ?_⟩
          intro other hother
          rcases List.mem_cons.1 hother with rfl | hother
          · exact hseen
          · exact fun hmem => hfresh other hother (List.mem_cons_of_mem _ hmem)
        · rintro ⟨⟨hid, hnodup⟩, hfresh⟩
          refine ⟨hnodup, ?_⟩
          intro other hother hmem
          rcases List.mem_cons.1 hmem with rfl | hmem
          · exact hid hother
          · exact hfresh other (List.mem_cons_of_mem _ hother) hmem

theorem startViolations_eq_nil_iff {flow : Flow} :
    flow.startViolations = [] ↔
      (flow.nodes = [] → flow.start = []) ∧ (flow.nodes ≠ [] → flow.start ∈ flow.nodeIds) := by
  unfold startViolations
  cases hnodes : flow.nodes with
  | nil => by_cases hstart : flow.start = [] <;> simp [hstart]
  | cons node nodes => by_cases hstart : flow.start ∈ flow.nodeIds <;> simp [hstart]

theorem mem_links {flow : Flow} {link : Text × Outlet} :
    link ∈ flow.links ↔ ∃ node ∈ flow.nodes, node.id = link.1 ∧ link.2 ∈ node.outlets := by
  simp only [links, List.mem_flatMap, List.mem_map]
  constructor
  · rintro ⟨node, hnode, outlet, houtlet, rfl⟩
    exact ⟨node, hnode, rfl, houtlet⟩
  · rintro ⟨node, hnode, hid, houtlet⟩
    exact ⟨node, hnode, link.2, houtlet, by rw [hid]⟩

theorem violations_eq_nil_iff {flow : Flow} :
    flow.violations = [] ↔
      flow.nodeIds.Nodup ∧
        ((flow.nodes = [] → flow.start = []) ∧ (flow.nodes ≠ [] → flow.start ∈ flow.nodeIds)) ∧
        ∀ node ∈ flow.nodes, ∀ outlet ∈ node.outlets, outlet.target ∈ flow.nodeIds := by
  have hlinks : (flow.links.filter fun link => !flow.nodeIds.contains link.2.target) = [] ↔
      ∀ node ∈ flow.nodes, ∀ outlet ∈ node.outlets, outlet.target ∈ flow.nodeIds := by
    simp only [List.filter_eq_nil_iff, mem_links]
    constructor
    · intro h node hnode outlet houtlet
      simpa using h (node.id, outlet) ⟨node, hnode, rfl, houtlet⟩
    · rintro h link ⟨node, hnode, -, houtlet⟩
      simpa using h node hnode link.2 houtlet
  rw [violations, List.append_eq_nil_iff, List.append_eq_nil_iff, List.map_eq_nil_iff,
    List.map_eq_nil_iff, repeated_eq_nil_iff, startViolations_eq_nil_iff, hlinks]
  simp [and_assoc]

section Violations

variable {flow : Flow}

theorem duplicateNode_mem {id : Text} (h : id ∈ repeated [] flow.nodeIds) :
    .duplicateNode id ∈ flow.violations := by
  simp [violations, h]

theorem startMissing_mem (hne : flow.nodes ≠ []) (h : flow.start ∉ flow.nodeIds) :
    .startMissing flow.start ∈ flow.violations := by
  simp [violations, startViolations, hne, h]

theorem unknownTarget_mem {node : Node} (hnode : node ∈ flow.nodes) {outlet : Outlet}
    (houtlet : outlet ∈ node.outlets) (h : outlet.target ∉ flow.nodeIds) :
    .unknownTarget outlet.id node.id outlet.target ∈ flow.violations := by
  have hlink : (node.id, outlet) ∈ flow.links := mem_links.2 ⟨node, hnode, rfl, houtlet⟩
  refine List.mem_append_right _ (List.mem_map.2 ⟨_, List.mem_filter.2 ⟨hlink, ?_⟩, rfl⟩)
  simpa using h

end Violations

theorem Sound.of_filled {flow : Flow} (distinct : flow.nodeIds.Nodup)
    (filled : ∀ id ∈ flow.nodeIds, id ≠ []) (startless : flow.nodes = [] → flow.start = [])
    (started : flow.nodes ≠ [] → flow.start ∈ flow.nodeIds)
    (resolved : ∀ node ∈ flow.nodes, ∀ target ∈ node.outlets.map Outlet.target,
      target ∈ flow.nodeIds) : flow.Sound where
  distinct := distinct
  headed :=
    ⟨fun hstart => Classical.byContradiction fun hnodes => filled _ (started hnodes) hstart,
      startless⟩
  started := started
  resolved := fun node hnode _ houtlet => resolved node hnode _ (List.mem_map_of_mem houtlet)

theorem Sound.violations_eq_nil {flow : Flow} (h : flow.Sound) : flow.violations = [] :=
  violations_eq_nil_iff.2 ⟨h.distinct, ⟨h.headed.2, h.started⟩, h.resolved⟩

end Flow

namespace Node

section Outlets

variable {α : Type} {add : Node → α → Node}

theorem kept_foldl {β : Type} (view : Node → β) (hview : ∀ node a, view (add node a) = view node)
    (as : List α) (node : Node) : view (as.foldl add node) = view node := by
  induction as generalizing node with
  | nil => rfl
  | cons a as ih => rw [List.foldl_cons, ih, hview]

theorem map_outlets_foldl {β : Type} (view : Outlet → β) (entry : α → β)
    (hadd : ∀ node a, (add node a).outlets.map view = node.outlets.map view ++ [entry a])
    (as : List α) (node : Node) :
    (as.foldl add node).outlets.map view = node.outlets.map view ++ as.map entry := by
  induction as generalizing node with
  | nil => simp
  | cons a as ih => rw [List.foldl_cons, ih, hadd, List.append_assoc, List.map_cons,
      List.singleton_append]

end Outlets

@[simp] theorem id_addOutlet (node : Node) (target : Text) (label condition : Json) :
    (node.addOutlet target label condition).id = node.id := rfl

@[simp] theorem targets_addOutlet (node : Node) (target : Text) (label condition : Json) :
    (node.addOutlet target label condition).outlets.map Outlet.target =
      node.outlets.map Outlet.target ++ [target] := by
  simp [addOutlet, nextOutlet]

end Node

end Flowchart
