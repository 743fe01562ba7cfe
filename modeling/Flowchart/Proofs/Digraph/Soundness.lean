import Flowchart.Digraph.Reader
import Flowchart.Proofs.Flow.Sound
import Flowchart.Proofs.UniqueIds

/-!
# Soundness of digraphs

Every statement keeps a draft resolved: names are drafted once, and both ends of a link are drafted
with it.  Distinct names have distinct ids however alike they are once sanitized, so no node takes
the place of another.
-/

namespace Flowchart

namespace Graph

theorem start_ofFlow_of_nodes_eq_nil {flow : Flow} (h : flow.nodes = []) :
    (ofFlow flow).start = [] := by
  simp [ofFlow, Flow.nodeIds, Flow.links, h, start, entries]

theorem order_ofFlow (flow : Flow) : (ofFlow flow).order = flow.nodeIds.eraseDups := rfl

theorem start_mem_order {graph : Graph} (h : graph.order ≠ []) : graph.start ∈ graph.order := by
  unfold start
  split
  · rename_i id rest hentries
    have hid : id ∈ graph.entries := hentries ▸ List.mem_cons_self
    exact (List.mem_filter.1 hid).1
  · obtain ⟨id, order, horder⟩ := List.exists_cons_of_ne_nil h
    simp [horder]

theorem start_ofFlow_mem {flow : Flow} (h : flow.nodes ≠ []) :
    (ofFlow flow).start ∈ flow.nodeIds := by
  obtain ⟨node, nodes, hnodes⟩ := List.exists_cons_of_ne_nil h
  have horder : (ofFlow flow).order ≠ [] := by
    simp [order_ofFlow, Flow.nodeIds, hnodes, List.eraseDups_cons]
  exact List.mem_eraseDups.1 (start_mem_order horder)

end Graph

namespace Digraph

namespace Draft

def names (draft : Draft) : List Text := draft.nodes.map Prod.fst

/-- Names are drafted once, and links connect drafted names. -/
structure Resolved (draft : Draft) : Prop where
  distinct : draft.names.Nodup
  sources : ∀ link ∈ draft.links, link.source ∈ draft.names
  targets : ∀ link ∈ draft.links, link.target ∈ draft.names

theorem resolved_empty : ({} : Draft).Resolved where
  distinct := List.nodup_nil
  sources := fun _ h => absurd h List.not_mem_nil
  targets := fun _ h => absurd h List.not_mem_nil

theorem names_addNode (name : Text) (label : Option Text) (nodes : List (Text × Option Text)) :
    (addNode name label nodes).map Prod.fst = enroll (nodes.map Prod.fst) name := by
  induction nodes with
  | nil => rfl
  | cons known rest ih =>
      unfold addNode
      split
      · rename_i hname
        have hkept : ∀ b : Bool, (if b then known else (name, label)).1 = name := by
          intro b
          cases b
          · rfl
          · exact hname
        rw [List.map_cons, List.map_cons, hkept, hname, enroll_cons_self]
      · rename_i hname
        rw [List.map_cons, List.map_cons, ih, enroll_cons_of_ne _ hname]

theorem Resolved.addNode {draft : Draft} (h : draft.Resolved) (name : Text) (label : Option Text) :
    Resolved { draft with nodes := Draft.addNode name label draft.nodes } where
  distinct := by
    rw [names, names_addNode]
    exact nodup_enroll h.distinct
  sources := by
    intro link hlink
    rw [names, names_addNode]
    exact mem_enroll.2 (.inl (h.sources link hlink))
  targets := by
    intro link hlink
    rw [names, names_addNode]
    exact mem_enroll.2 (.inl (h.targets link hlink))

theorem names_addLink (draft : Draft) (link : Link) :
    (draft.addLink link).names = enroll (enroll draft.names link.source) link.target := by
  rw [names, addLink, names_addNode, names_addNode]
  rfl

theorem Resolved.addLink {draft : Draft} (h : draft.Resolved) (link : Link) :
    (draft.addLink link).Resolved where
  distinct := by
    rw [names_addLink]
    exact nodup_enroll (nodup_enroll h.distinct)
  sources := by
    intro other hother
    rw [names_addLink, mem_enroll, mem_enroll]
    rcases List.mem_append.1 hother with hother | hother
    · exact .inl (.inl (h.sources other hother))
    · exact .inl (.inr (congrArg Link.source (List.mem_singleton.1 hother)))
  targets := by
    intro other hother
    rw [names_addLink, mem_enroll, mem_enroll]
    rcases List.mem_append.1 hother with hother | hother
    · exact .inl (.inl (h.targets other hother))
    · exact .inr (congrArg Link.target (List.mem_singleton.1 hother))

theorem Resolved.addEdges {draft : Draft} (h : draft.Resolved) (label : Option Text)
    (first : Terminal) (others : List Terminal) : (draft.addEdges label first others).Resolved := by
  induction others generalizing draft first with
  | nil => exact h
  | cons next rest ih =>
      unfold Draft.addEdges
      exact ih (List.foldlRecOn _ Draft.addLink h fun _ hdraft link _ => hdraft.addLink link) next

mutual

/-- A statement keeps a draft resolved, whatever groups are nested in it. -/
theorem Resolved.addStatement {draft : Draft} (h : draft.Resolved) (statement : Statement) :
    (draft.addStatement statement).Resolved := by
  cases statement with
  | assignment key value => exact h
  | defaults subject attributes => exact h
  | node id attributes =>
      unfold Draft.addStatement
      split
      · exact h
      · exact h.addNode _ _
  | edges first others attributes => exact h.addEdges _ first others
  | group statements => exact h.addStatements statements

theorem Resolved.addStatements {draft : Draft} (h : draft.Resolved)
    (statements : List Statement) : (draft.addStatements statements).Resolved := by
  cases statements with
  | nil => exact h
  | cons statement rest => exact (h.addStatement statement).addStatements rest

end

theorem exists_id_of_mem {draft : Draft} {name : Text} (h : name ∈ draft.names) :
    ∃ id, draft.idsOf.id? name = some id :=
  UniqueIds.exists_id_addAll _ h

@[simp] theorem id_node (draft : Draft) (ids : UniqueIds) (name : Text) (label : Option Text) :
    (draft.node ids name label).id = ids.idOf name := by
  rw [node, Node.kept_foldl Node.id fun _ _ => Node.id_addOutlet ..]

theorem targets_node (draft : Draft) (ids : UniqueIds) (name : Text) (label : Option Text) :
    (draft.node ids name label).outlets.map Outlet.target =
      (draft.links.filter (·.source = name)).map fun link => ids.idOf link.target := by
  rw [node, Node.map_outlets_foldl Outlet.target fun link : Link => ids.idOf link.target]
  · rfl
  · exact fun _ _ => Node.targets_addOutlet ..

theorem ids_toNodes (draft : Draft) :
    draft.toNodes.map Node.id = draft.names.map draft.idsOf.idOf := by
  rw [toNodes, names, List.map_map, List.map_map]
  exact List.map_congr_left fun entry _ => draft.id_node _ entry.1 entry.2

theorem Resolved.nodup_ids {draft : Draft} (h : draft.Resolved) :
    (draft.toNodes.map Node.id).Nodup := by
  rw [ids_toNodes]
  exact h.distinct.map_on fun name hname other hother heq =>
    UniqueIds.idOf_addAll_injective hname hother heq

theorem id_ne_nil {draft : Draft} {id : Text} (h : id ∈ draft.toNodes.map Node.id) : id ≠ [] := by
  rw [ids_toNodes] at h
  obtain ⟨name, hname, rfl⟩ := List.mem_map.1 h
  exact UniqueIds.idOf_ne_nil UniqueIds.sanitize_ne_nil hname

theorem Resolved.target_mem {draft : Draft} (h : draft.Resolved) {node : Node}
    (hnode : node ∈ draft.toNodes) {target : Text}
    (htarget : target ∈ node.outlets.map Outlet.target) :
    target ∈ draft.toNodes.map Node.id := by
  obtain ⟨entry, -, rfl⟩ := List.mem_map.1 hnode
  rw [targets_node] at htarget
  obtain ⟨link, hlink, rfl⟩ := List.mem_map.1 htarget
  rw [ids_toNodes]
  exact List.mem_map_of_mem (h.targets link (List.mem_filter.1 hlink).1)

end Draft

namespace Drawing

theorem resolved_draft (drawing : Drawing) : drawing.draft.Resolved :=
  Draft.resolved_empty.addStatements drawing.statements

theorem sound_toFlow (drawing : Drawing) : drawing.toFlow.Sound := by
  have hdraft := drawing.resolved_draft
  apply Flow.Sound.of_filled
  case distinct => exact hdraft.nodup_ids
  case filled => exact fun id hid => Draft.id_ne_nil hid
  case startless => exact Graph.start_ofFlow_of_nodes_eq_nil
  case started => exact Graph.start_ofFlow_mem
  case resolved => exact fun node hnode target htarget => hdraft.target_mem hnode htarget

end Drawing

theorem exists_drawing_of_read {s : Text} {flow : Flow} (h : read s = .ok flow) :
    ∃ drawing ∈ drawings s, drawing.toFlow = flow := by
  unfold read at h
  split at h
  · cases h
  · rename_i drawing others heq
    split at h
    · cases h
    · exact ⟨drawing, heq ▸ List.mem_cons_self, Except.ok.inj h⟩

theorem sound_of_read {s : Text} {flow : Flow} (h : read s = .ok flow) : flow.Sound := by
  obtain ⟨drawing, -, rfl⟩ := exists_drawing_of_read h
  exact drawing.sound_toFlow

end Digraph

end Flowchart
