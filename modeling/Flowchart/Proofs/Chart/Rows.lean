import Flowchart.Chart.Writer
import Flowchart.Proofs.Flow.Branches
import Mathlib.Data.List.Nodup
import Mathlib.Data.List.Perm.Basic

/-!
# Rows of charts

Rows name a node before the first edge at it.  If ids are distinct, each node has one row, the start
node the first, and if all outlets resolve, the edges are the branches of the nodes in turn.
-/

namespace Flowchart.Chart

def definedNodes (rows : List Row) : List Node :=
  rows.filterMap fun row => match row with
    | .node node => some node
    | .edge .. => none

def drawnEdges (rows : List Row) : List (Text × Outlet × Json) :=
  rows.filterMap fun row => match row with
    | .node _ => none
    | .edge source outlet label => some (source, outlet, label)

theorem mem_definedNodes {rows : List Row} {node : Node} (h : .node node ∈ rows) :
    node ∈ definedNodes rows :=
  List.mem_filterMap.2 ⟨.node node, h, rfl⟩

theorem map_id_definedNodes (rows : List Row) :
    (definedNodes rows).map Node.id = definedIds rows := by
  rw [definedNodes, definedIds, List.map_filterMap]
  congr 1
  funext row
  cases row <;> rfl

section Append

variable (rows : List Row) (node : Node) (source : Text) (outlet : Outlet) (label : Json)

@[simp] theorem definedNodes_append_node :
    definedNodes (rows ++ [.node node]) = definedNodes rows ++ [node] := by
  simp [definedNodes]

@[simp] theorem definedNodes_append_edge :
    definedNodes (rows ++ [.edge source outlet label]) = definedNodes rows := by
  simp [definedNodes]

@[simp] theorem definedIds_append_node :
    definedIds (rows ++ [.node node]) = definedIds rows ++ [node.id] := by
  simp [definedIds]

@[simp] theorem definedIds_append_edge :
    definedIds (rows ++ [.edge source outlet label]) = definedIds rows := by
  simp [definedIds]

@[simp] theorem drawnEdges_append_node :
    drawnEdges (rows ++ [.node node]) = drawnEdges rows := by
  simp [drawnEdges]

@[simp] theorem drawnEdges_append_edge :
    drawnEdges (rows ++ [.edge source outlet label]) =
      drawnEdges rows ++ [(source, outlet, label)] := by
  simp [drawnEdges]

end Append

theorem define_eq (rows : List Row) (node : Node) :
    define rows node = if node.id ∈ definedIds rows then rows else rows ++ [.node node] := by
  have hknown : (rows.any fun row => match row with
      | .node known => known.id = node.id
      | .edge .. => false) = true ↔ node.id ∈ definedIds rows := by
    rw [List.any_eq_true, definedIds, List.mem_filterMap]
    constructor
    · rintro ⟨row, hrow, hid⟩
      cases row with
      | node known => exact ⟨.node known, hrow, congrArg some (by simpa using hid)⟩
      | edge source outlet label => cases hid
    · rintro ⟨row, hrow, hid⟩
      cases row with
      | node known => exact ⟨.node known, hrow, by simpa using hid⟩
      | edge source outlet label => cases hid
  unfold define
  split
  · rename_i h
    rw [if_pos (hknown.1 h)]
  · rename_i h
    rw [if_neg fun hmem => h (hknown.2 hmem)]

theorem mem_definedIds_define (rows : List Row) (node : Node) :
    node.id ∈ definedIds (define rows node) := by
  rw [define_eq]
  split
  · assumption
  · simp

@[simp] theorem drawnEdges_define (rows : List Row) (node : Node) :
    drawnEdges (define rows node) = drawnEdges rows := by
  rw [define_eq]
  split <;> simp

theorem foldl_extends {α β : Type} {add : List β → α → List β} (hadd : ∀ bs a, bs <+: add bs a)
    (as : List α) (bs : List β) : bs <+: as.foldl add bs :=
  List.foldlRecOn as add (List.prefix_refl bs) fun _ h _ _ => h.trans (hadd _ _)

theorem define_extends (rows : List Row) (node : Node) : rows <+: define rows node := by
  rw [define_eq]
  split
  · exact List.prefix_refl rows
  · exact List.prefix_append rows _

theorem addBranch_extends (flow : Flow) (source : Text) (rows : List Row)
    (branch : Outlet × Json) : rows <+: addBranch flow source rows branch := by
  unfold addBranch
  split
  · exact List.prefix_refl rows
  · exact (define_extends rows _).trans (List.prefix_append _ _)

theorem addNode_extends (flow : Flow) (rows : List Row) (node : Node) :
    rows <+: addNode flow rows node :=
  (define_extends rows node).trans (foldl_extends (addBranch_extends flow node.id) _ _)

theorem definedIds_mono {rows more : List Row} (h : rows <+: more) :
    definedIds rows ⊆ definedIds more :=
  (h.sublist.filterMap _).subset

/-- Each node is new where it is named, and both ends of an edge are named before it. -/
inductive Arranged (flow : Flow) : List Row → Prop where
  | nil : Arranged flow []
  | node {rows : List Row} {node : Node} (h : Arranged flow rows) (hnode : node ∈ flow.nodes)
      (hnew : node.id ∉ definedIds rows) : Arranged flow (rows ++ [.node node])
  | edge {rows : List Row} {node : Node} {branch : Outlet × Json} (h : Arranged flow rows)
      (hnode : node ∈ flow.nodes) (hbranch : branch ∈ node.branches)
      (hsource : node.id ∈ definedIds rows) (htarget : branch.1.target ∈ definedIds rows) :
      Arranged flow (rows ++ [.edge node.id branch.1 branch.2])

namespace Arranged

variable {flow : Flow} {rows : List Row} {node : Node}

theorem nodup_definedIds (h : Arranged flow rows) : (definedIds rows).Nodup := by
  induction h with
  | nil => exact List.nodup_nil
  | node _ _ hnew ih =>
      rw [definedIds_append_node, ← List.concat_eq_append, List.nodup_concat]
      exact ⟨hnew, ih⟩
  | edge _ _ _ _ _ ih => rwa [definedIds_append_edge]

theorem mem_nodes (h : Arranged flow rows) : ∀ node ∈ definedNodes rows, node ∈ flow.nodes := by
  induction h with
  | nil => exact fun _ hnode => absurd hnode List.not_mem_nil
  | node _ hnode _ ih =>
      rw [definedNodes_append_node]
      exact List.forall_mem_append.2 ⟨ih, by simpa using hnode⟩
  | edge _ _ _ _ _ ih => rwa [definedNodes_append_edge]

theorem exists_branch {source : Text} {outlet : Outlet} {label : Json} (h : Arranged flow rows)
    (hrow : .edge source outlet label ∈ rows) :
    ∃ node ∈ flow.nodes, node.id = source ∧ (outlet, label) ∈ node.branches := by
  induction h with
  | nil => exact absurd hrow List.not_mem_nil
  | node _ _ _ ih =>
      rcases List.mem_append.1 hrow with hrow | hrow
      · exact ih hrow
      · cases List.mem_singleton.1 hrow
  | @edge rows node branch _ hnode hbranch _ _ ih =>
      rcases List.mem_append.1 hrow with hrow | hrow
      · exact ih hrow
      · cases List.mem_singleton.1 hrow
        exact ⟨node, hnode, rfl, hbranch⟩

theorem define (h : Arranged flow rows) (hnode : node ∈ flow.nodes) :
    Arranged flow (define rows node) := by
  rw [define_eq]
  split
  · exact h
  · rename_i hnew
    exact h.node hnode hnew

theorem addBranch (h : Arranged flow rows) (hnode : node ∈ flow.nodes)
    {branch : Outlet × Json} (hbranch : branch ∈ node.branches)
    (hsource : node.id ∈ definedIds rows) : Arranged flow (addBranch flow node.id rows branch) := by
  unfold Chart.addBranch
  split
  · exact h
  · rename_i target hlast
    have hid : target.id = branch.1.target := by simpa using List.find?_some hlast
    refine (h.define (Flow.mem_of_lastNode hlast)).edge hnode hbranch ?_ ?_
    · exact definedIds_mono (define_extends rows target) hsource
    · exact hid ▸ mem_definedIds_define rows target

theorem addBranches {branches : List (Outlet × Json)} (h : Arranged flow rows)
    (hnode : node ∈ flow.nodes) (hbranches : ∀ branch ∈ branches, branch ∈ node.branches)
    (hsource : node.id ∈ definedIds rows) :
    Arranged flow (branches.foldl (Chart.addBranch flow node.id) rows) := by
  induction branches generalizing rows with
  | nil => exact h
  | cons branch branches ih =>
      apply ih (h.addBranch hnode (hbranches branch List.mem_cons_self) hsource)
      · exact fun other hother => hbranches other (List.mem_cons_of_mem _ hother)
      · exact definedIds_mono (addBranch_extends flow node.id rows branch) hsource

theorem addNode (h : Arranged flow rows) (hnode : node ∈ flow.nodes) :
    Arranged flow (addNode flow rows node) :=
  (h.define hnode).addBranches hnode (fun _ => id) (mem_definedIds_define rows node)

theorem addNodes {nodes : List Node} (h : Arranged flow rows)
    (hnodes : ∀ node ∈ nodes, node ∈ flow.nodes) :
    Arranged flow (nodes.foldl (Chart.addNode flow) rows) := by
  induction nodes generalizing rows with
  | nil => exact h
  | cons node nodes ih =>
      exact ih (h.addNode (hnodes node List.mem_cons_self))
        fun other hother => hnodes other (List.mem_cons_of_mem _ hother)

end Arranged

theorem withoutLast_perm {nodes : List Node} {start : Node} (h : (nodes.map Node.id).Nodup)
    (hstart : start ∈ nodes) : (start :: withoutLast start.id nodes).Perm nodes := by
  induction nodes with
  | nil => exact absurd hstart List.not_mem_nil
  | cons node nodes ih =>
      rw [List.map_cons, List.nodup_cons] at h
      unfold withoutLast
      rcases List.mem_cons.1 hstart with rfl | hlater
      · have honly : nodes.any (·.id = start.id) = false := by
          rw [List.any_eq_false]
          intro other hother heq
          exact h.1 (of_decide_eq_true heq ▸ List.mem_map_of_mem hother)
        rw [if_pos ⟨rfl, by simp [honly]⟩]
      · have hne : ¬(node.id = start.id ∧ (!nodes.any (·.id = start.id)) = true) := by
          rintro ⟨heq, -⟩
          exact h.1 (heq ▸ List.mem_map_of_mem hlater)
        rw [if_neg hne]
        exact (List.Perm.swap _ _ _).trans ((ih h.2 hlater).cons node)

variable {flow : Flow}

theorem withoutLast_sublist (id : Text) (nodes : List Node) :
    (withoutLast id nodes).Sublist nodes := by
  induction nodes with
  | nil => exact .slnil
  | cons node nodes ih =>
      unfold withoutLast
      split
      · exact List.sublist_cons_self node nodes
      · exact ih.cons_cons node

theorem mem_withoutLast {id : Text} {nodes : List Node} {node : Node} (h : node ∈ nodes)
    (hne : node.id ≠ id) : node ∈ withoutLast id nodes := by
  induction nodes with
  | nil => cases h
  | cons other nodes ih =>
      unfold withoutLast
      split
      · rename_i hother
        exact (List.mem_cons.1 h).resolve_left fun heq => hne (heq ▸ hother.1)
      · rcases List.mem_cons.1 h with rfl | h
        · exact List.mem_cons_self
        · exact List.mem_cons_of_mem _ (ih h)

theorem startFirst_subset (flow : Flow) : startFirst flow ⊆ flow.nodes := by
  unfold startFirst
  split
  · rename_i hlast
    exact List.cons_subset.2 ⟨Flow.mem_of_lastNode hlast, (withoutLast_sublist _ _).subset⟩
  · exact List.Subset.refl _

theorem arranged_rows (flow : Flow) : Arranged flow (rows flow) :=
  Arranged.nil.addNodes fun _ h => startFirst_subset flow h

theorem mem_definedIds_rows {node : Node} (h : node ∈ startFirst flow) :
    node.id ∈ definedIds (rows flow) := by
  obtain ⟨before, after, heq⟩ := List.append_of_mem h
  rw [rows, heq, List.foldl_append, List.foldl_cons]
  apply definedIds_mono (foldl_extends (addNode_extends flow) after _)
  apply definedIds_mono (foldl_extends (addBranch_extends flow node.id) node.branches _)
  exact mem_definedIds_define _ node

theorem nodeIds_subset (flow : Flow) : flow.nodeIds ⊆ definedIds (rows flow) := by
  intro id hid
  obtain ⟨node, hnode, rfl⟩ := List.mem_map.1 hid
  have hfirst : ∃ other ∈ startFirst flow, other.id = node.id := by
    unfold startFirst
    split
    · rename_i start hlast
      have hstart : start.id = flow.start := by simpa using List.find?_some hlast
      by_cases heq : node.id = flow.start
      · exact ⟨start, List.mem_cons_self, hstart.trans heq.symm⟩
      · exact ⟨node, List.mem_cons_of_mem _ (mem_withoutLast hnode heq), rfl⟩
    · exact ⟨node, hnode, rfl⟩
  obtain ⟨other, hother, heq⟩ := hfirst
  exact heq ▸ mem_definedIds_rows hother

theorem row_of_unique {node : Node} (hnode : node ∈ flow.nodes)
    (hunique : ∀ other ∈ flow.nodes, other.id = node.id → other = node) :
    .node node ∈ rows flow := by
  have hid := nodeIds_subset flow (List.mem_map_of_mem hnode)
  obtain ⟨row, hrow, hnamed⟩ := List.mem_filterMap.1 hid
  cases row with
  | node other =>
      have hother := (arranged_rows flow).mem_nodes other (mem_definedNodes hrow)
      exact hunique other hother (Option.some.inj hnamed) ▸ hrow
  | edge source outlet label => cases hnamed

theorem startFirst_perm (hdistinct : flow.nodeIds.Nodup) : (startFirst flow).Perm flow.nodes := by
  unfold startFirst
  split
  · rename_i start hlast
    have hid : start.id = flow.start := by simpa using List.find?_some hlast
    rw [← hid]
    exact withoutLast_perm hdistinct (Flow.mem_of_lastNode hlast)
  · exact List.Perm.refl _

theorem head?_definedIds_rows (hstart : flow.start ∈ flow.nodeIds) :
    (definedIds (rows flow)).head? = some flow.start := by
  obtain ⟨start, -, hlast, hid⟩ := Flow.exists_lastNode hstart
  have hextends : [.node start] <+: rows flow := by
    have hfirst : startFirst flow = start :: withoutLast flow.start flow.nodes := by
      rw [startFirst, hlast]
    rw [rows, hfirst, List.foldl_cons]
    refine List.IsPrefix.trans ?_ (foldl_extends (addNode_extends flow) _ _)
    exact foldl_extends (addBranch_extends flow start.id) start.branches _
  obtain ⟨more, hmore⟩ := hextends
  rw [← hmore, ← hid]
  rfl

theorem definedNodes_rows_perm (hdistinct : flow.nodeIds.Nodup) :
    (definedNodes (rows flow)).Perm flow.nodes := by
  have harranged := arranged_rows flow
  have hnodup : (definedNodes (rows flow)).Nodup := by
    apply List.Nodup.of_map Node.id
    rw [map_id_definedNodes]
    exact harranged.nodup_definedIds
  -- Neither list repeats a node, so it is enough that they have the same nodes.
  rw [List.perm_ext_iff_of_nodup hnodup (List.Nodup.of_map Node.id hdistinct)]
  intro node
  constructor
  · exact harranged.mem_nodes node
  · intro hnode
    have hid := mem_definedIds_rows ((startFirst_perm hdistinct).mem_iff.2 hnode)
    rw [← map_id_definedNodes] at hid
    obtain ⟨other, hother, heq⟩ := List.mem_map.1 hid
    rwa [← List.inj_on_of_nodup_map hdistinct (harranged.mem_nodes other hother) hnode heq]

theorem definedIds_rows_perm (hdistinct : flow.nodeIds.Nodup) :
    (definedIds (rows flow)).Perm flow.nodeIds := by
  rw [← map_id_definedNodes]
  exact (definedNodes_rows_perm hdistinct).map Node.id

def nodeEdges (node : Node) : List (Text × Outlet × Json) := node.branches.map (node.id, ·)

theorem drawnEdges_addBranches {source : Text} {branches : List (Outlet × Json)}
    (h : ∀ branch ∈ branches, branch.1.target ∈ flow.nodeIds) (rows : List Row) :
    drawnEdges (branches.foldl (addBranch flow source) rows) =
      drawnEdges rows ++ branches.map (source, ·) := by
  induction branches generalizing rows with
  | nil => simp
  | cons branch branches ih =>
      obtain ⟨target, -, hlast, -⟩ := Flow.exists_lastNode (h branch List.mem_cons_self)
      have hedge : drawnEdges (addBranch flow source rows branch) =
          drawnEdges rows ++ [(source, branch)] := by
        rw [addBranch, hlast, drawnEdges_append_edge, drawnEdges_define]
      rw [List.foldl_cons, ih fun other hother => h other (List.mem_cons_of_mem _ hother), hedge,
        List.append_assoc, List.map_cons, List.singleton_append]

theorem drawnEdges_addNodes {nodes : List Node}
    (h : ∀ node ∈ nodes, ∀ outlet ∈ node.outlets, outlet.target ∈ flow.nodeIds)
    (rows : List Row) :
    drawnEdges (nodes.foldl (addNode flow) rows) = drawnEdges rows ++ nodes.flatMap nodeEdges := by
  induction nodes generalizing rows with
  | nil => simp
  | cons node nodes ih =>
      have hbranches : ∀ branch ∈ node.branches, branch.1.target ∈ flow.nodeIds :=
        fun branch hbranch => h node List.mem_cons_self branch.1
          (Node.mem_outlets_of_mem_branches hbranch)
      rw [List.foldl_cons, ih fun other hother => h other (List.mem_cons_of_mem _ hother), addNode,
        drawnEdges_addBranches hbranches, drawnEdges_define, List.append_assoc, List.flatMap_cons,
        nodeEdges]

theorem filter_drawnEdges_rows (hdistinct : flow.nodeIds.Nodup)
    (hresolved : ∀ node ∈ flow.nodes, ∀ outlet ∈ node.outlets, outlet.target ∈ flow.nodeIds)
    {node : Node} (hnode : node ∈ flow.nodes) :
    (drawnEdges (rows flow)).filter (·.1 = node.id) = nodeEdges node := by
  have hperm := startFirst_perm hdistinct
  have hedges : drawnEdges (rows flow) = (startFirst flow).flatMap nodeEdges := by
    rw [rows, drawnEdges_addNodes fun other hother => hresolved other (hperm.mem_iff.1 hother)]
    rfl
  rw [hedges]
  refine Node.filter_flatMap_own (fun other edge hedge => ?_)
    ((hperm.map Node.id).nodup_iff.2 hdistinct) (hperm.mem_iff.2 hnode)
  obtain ⟨branch, -, rfl⟩ := List.mem_map.1 hedge
  rfl

end Flowchart.Chart
