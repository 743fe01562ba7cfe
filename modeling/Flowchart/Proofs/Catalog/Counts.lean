import Flowchart.Proofs.Catalog.Soundness
import Flowchart.Proofs.Flow.Numbered

/-!
# Graphs of flows that were read

Readers of graph notations add outlets one after another to nodes that begin without any.  So every
outlet they read is an edge of its own, and none leads astray.
-/

namespace Flowchart

theorem Digraph.Draft.numbered_node (draft : Digraph.Draft) (ids : UniqueIds) (name : Text)
    (label : Option Text) : (draft.node ids name label).Numbered :=
  List.foldlRecOn _ _ (Node.numbered_of_no_outlets rfl) fun _ hnode _ _ => hnode.addOutlet _ _ _

theorem Chart.Sheet.numbered_node (sheet : Chart.Sheet) (mention : Chart.Mention) :
    (sheet.node mention).Numbered :=
  List.foldlRecOn _ _ (Node.numbered_of_no_outlets rfl) fun _ hnode _ _ => hnode.append_outlet rfl

theorem Activity.Place.numbered_toNode (place : Activity.Place) : place.toNode.Numbered :=
  List.foldlRecOn _ _ (Node.numbered_of_no_outlets rfl) fun _ hnode _ _ => hnode.addOutlet _ _ _

theorem Digraph.numbered_of_read {s : Text} {flow : Flow} (h : Digraph.read s = .ok flow) :
    ∀ node ∈ flow.nodes, node.Numbered := by
  obtain ⟨drawing, -, rfl⟩ := exists_drawing_of_read h
  exact List.forall_mem_map.2 fun entry _ => drawing.draft.numbered_node _ entry.1 entry.2

theorem Chart.numbered_of_read {s : Text} {flow : Flow} (h : Chart.read s = .ok flow) :
    ∀ node ∈ flow.nodes, node.Numbered := by
  obtain ⟨body, sheet, title, description, -, -, -, rfl⟩ := exists_sheet_of_read h
  exact List.forall_mem_map.2 fun mention _ => sheet.numbered_node mention

theorem Activity.numbered_of_read {s : Text} {flow : Flow} (h : Activity.read s = .ok flow) :
    ∀ node ∈ flow.nodes, node.Numbered := by
  obtain ⟨script, -, rfl⟩ := exists_script_of_read h
  exact List.forall_mem_map.2 fun place _ => place.numbered_toNode

/-- The formats that draw nodes and edges; a record says itself what the ids of its outlets are. -/
def Format.drawn : List (Format Binary64) := [Format.digraph, Format.chart, Format.activity]

theorem Format.numbered_of_read {format : Format Binary64} (hformat : format ∈ Format.drawn)
    {text : Text} {flow : Flow} (h : format.read text = .ok flow) :
    ∀ node ∈ flow.nodes, node.Numbered := by
  simp only [Format.drawn, List.mem_cons, List.not_mem_nil, or_false] at hformat
  rcases hformat with rfl | rfl | rfl
  case inl => exact Digraph.numbered_of_read (Except.mapError_eq_ok_iff.1 h)
  case inr.inl => exact Chart.numbered_of_read (Except.mapError_eq_ok_iff.1 h)
  case inr.inr => exact Activity.numbered_of_read (Except.mapError_eq_ok_iff.1 h)

/-- The graph of a flow that was read from a drawing counts every outlet of it. -/
theorem Format.graph_counts {format : Format Binary64} (hformat : format ∈ Format.drawn)
    {text : Text} {flow : Flow} (h : format.read text = .ok flow) :
    ∃ graph, flow.graph = .ok graph ∧ graph.Counts flow := by
  have hbuiltin : format ∈ Format.builtin := by
    simp only [drawn, builtin, List.mem_cons] at hformat ⊢
    tauto
  have hnumbered := Format.numbered_of_read hformat h
  exact ⟨Graph.ofFlow flow,
    Flow.graph_eq_ok fun node hnode => (hnumbered node hnode).keyed,
    Graph.counts_ofFlow (Format.sound_of_read hbuiltin h) hnumbered⟩

/-- A split without statements in its branches: both its outlets lead to the step behind it. -/
def emptySplit : Text := "start\nif (Ready?) then (yes)\nelse (no)\nendif\n:Go;\nstop".toList

theorem Format.graph_counts_parallel :
    ∃ flow graph, Format.activity.read emptySplit = .ok flow ∧ flow.graph = .ok graph ∧
      graph.Counts flow ∧ graph.edges.length = 4 := by
  have hformat : Format.activity ∈ Format.drawn := by simp [Format.drawn]
  have hcount : (Format.activity.read emptySplit).toOption.map Flow.outletCount = some 4 := by
    decide +kernel
  obtain ⟨flow, hflow, houtlets⟩ :
      ∃ flow, Format.activity.read emptySplit = .ok flow ∧ flow.outletCount = 4 := by
    cases hread : Format.activity.read emptySplit with
    | error fault => simp [hread, Except.toOption] at hcount
    | ok flow => exact ⟨flow, rfl, by simpa [hread, Except.toOption] using hcount⟩
  obtain ⟨graph, hgraph, hcounts⟩ := Format.graph_counts hformat hflow
  exact ⟨flow, graph, hflow, hgraph, hcounts, hcounts.edges.trans houtlets⟩

end Flowchart
