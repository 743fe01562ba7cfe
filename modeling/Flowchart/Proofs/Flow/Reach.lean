import Flowchart.Proofs.Flow.Branches
import Flowchart.Proofs.Flow.Sound
import Flowchart.Proofs.Roll
import Mathlib.Data.List.Perm.Subperm
import Mathlib.Logic.Relation

/-!
# Reachability

A node reaches what a path of outlets between nodes leads to, the empty path included.  The search
for it adds what one edge leads to until nothing is new, and as every round but the last adds a
node, there are rounds enough for all of them.
-/

namespace Flowchart

def Flow.Leads (flow : Flow) (source target : Text) : Prop :=
  target ∈ flow.nodeIds ∧
    ∃ node ∈ flow.nodes, node.id = source ∧ ∃ outlet ∈ node.outlets, outlet.target = target

def Flow.Reaches (flow : Flow) : Text → Text → Prop := Relation.ReflTransGen flow.Leads

namespace Graph

section Search

variable {graph : Graph} {seen : List Text} {id : Text}

def Leads (graph : Graph) (source target : Text) : Prop :=
  target ∈ graph.order ∧ ∃ edge ∈ graph.edges, edge.source = source ∧ edge.target = target

theorem mem_fresh : id ∈ graph.fresh seen ↔ id ∉ seen ∧ ∃ source ∈ seen, graph.Leads source id := by
  simp only [fresh, Leads, List.mem_filter, Bool.and_eq_true, Bool.not_eq_true',
    List.contains_eq_mem, decide_eq_false_iff_not, List.any_eq_true, beq_iff_eq, decide_eq_true_eq]
  constructor
  · rintro ⟨horder, hnew, edge, hedge, rfl, hsource⟩
    exact ⟨hnew, edge.source, hsource, horder, edge, hedge, rfl, rfl⟩
  · rintro ⟨hnew, _, hsource, horder, edge, hedge, rfl, rfl⟩
    exact ⟨horder, hnew, edge, hedge, rfl, hsource⟩

theorem subset_saturate (graph : Graph) (rounds : Nat) (seen : List Text) :
    seen ⊆ graph.saturate rounds seen := by
  induction rounds generalizing seen with
  | zero => exact List.Subset.refl seen
  | succ rounds ih =>
      unfold saturate
      split
      · exact List.Subset.refl seen
      · exact List.Subset.trans (List.subset_append_left _ _) (ih _)

theorem reaches_of_mem_saturate {start : Text} {rounds : Nat}
    (h : ∀ id ∈ seen, Relation.ReflTransGen graph.Leads start id) :
    ∀ id ∈ graph.saturate rounds seen, Relation.ReflTransGen graph.Leads start id := by
  induction rounds generalizing seen with
  | zero => exact h
  | succ rounds ih =>
      unfold saturate
      split
      · exact h
      · rename_i heq
        apply ih
        intro id hid
        rcases List.mem_append.1 hid with hid | hid
        · exact h id hid
        · obtain ⟨-, source, hsource, hleads⟩ := mem_fresh.1 hid
          exact (h source hsource).tail hleads

/-- With a round for every node that is not seen yet, the search ends where nothing is new. -/
theorem fresh_saturate {rounds : Nat} (horder : graph.order.Nodup) (hseen : seen.Nodup)
    (hsub : seen ⊆ graph.order) (hrounds : graph.order.length ≤ seen.length + rounds) :
    graph.fresh (graph.saturate rounds seen) = [] := by
  induction rounds generalizing seen with
  | zero =>
      have hperm := (hseen.subperm hsub).perm_of_length_le hrounds
      rw [List.eq_nil_iff_forall_not_mem]
      intro id hid
      obtain ⟨hnew, _, _, hmem, _⟩ := mem_fresh.1 hid
      exact hnew (hperm.mem_iff.2 hmem)
  | succ rounds ih =>
      unfold saturate
      split
      · assumption
      · rename_i hsome
        have hfresh : ∀ id ∈ graph.fresh seen, id ∉ seen ∧ id ∈ graph.order := by
          intro id hid
          obtain ⟨hnew, _, _, hmem, _⟩ := mem_fresh.1 hid
          exact ⟨hnew, hmem⟩
        have hpos : 0 < (graph.fresh seen).length := List.length_pos_iff.2 fun hnil => hsome hnil
        apply ih
        · refine List.nodup_append.2 ⟨hseen, horder.filter _, ?_⟩
          rintro known hknown new hnew rfl
          exact (hfresh known hnew).1 hknown
        · exact List.append_subset.2 ⟨hsub, fun id hid => (hfresh id hid).2⟩
        · rw [List.length_append]
          omega

/-- What is seen where nothing is new holds all that can be reached from it. -/
theorem mem_of_reaches {start : Text} (hclosed : graph.fresh seen = []) (hstart : start ∈ seen)
    (h : Relation.ReflTransGen graph.Leads start id) : id ∈ seen := by
  induction h with
  | refl => exact hstart
  | tail _ hleads ih =>
      by_contra hnew
      have hfresh := mem_fresh.2 ⟨hnew, _, ih, hleads⟩
      rw [hclosed] at hfresh
      exact List.not_mem_nil hfresh

theorem mem_reachable (horder : graph.order.Nodup) {start : Text} :
    id ∈ graph.reachable start ↔
      start ∈ graph.order ∧ Relation.ReflTransGen graph.Leads start id := by
  unfold reachable
  by_cases hstart : start ∈ graph.order
  · rw [if_pos (List.contains_iff_mem.2 hstart)]
    have hclosed : graph.fresh (graph.saturate graph.order.length [start]) = [] :=
      fresh_saturate horder (List.nodup_singleton start) (by simpa using hstart)
        (Nat.le_add_left _ _)
    constructor
    · intro hid
      refine ⟨hstart, reaches_of_mem_saturate ?_ id hid⟩
      intro other hother
      exact List.mem_singleton.1 hother ▸ .refl
    · exact fun h => mem_of_reaches hclosed (subset_saturate graph _ _ List.mem_cons_self) h.2
  · rw [if_neg (by simpa using hstart)]
    simp [hstart]

theorem mem_unreachable {start : Text} :
    id ∈ graph.unreachable start ↔ id ∈ graph.order ∧ id ∉ graph.reachable start := by
  simp [unreachable]

end Search

theorem unreachable_warning {graph : Graph} {start message : Text} :
    (message ∈ (graph.shapeWarnings start).map ShapeWarning.message ∧
        "Unreachable".toList <+: message) ↔
      start ≠ [] ∧ graph.unreachable start ≠ [] ∧
        message = "Unreachable from '".toList ++ start ++ "': ".toList ++
          Text.join ", ".toList (graph.unreachable start) := by
  have hterminal : ¬ "Unreachable".toList <+: ShapeWarning.noTerminal.message := by decide
  have hlost : ∀ ids, "Unreachable".toList <+: (ShapeWarning.unreachable start ids).message := by
    intro ids
    have hsplit : "Unreachable from '".toList = "Unreachable".toList ++ " from '".toList := by
      decide
    have hmessage : (ShapeWarning.unreachable start ids).message = "Unreachable".toList ++
        (" from '".toList ++ (start ++ ("': ".toList ++ Text.join ", ".toList ids))) := by
      change "Unreachable from '".toList ++ start ++ "': ".toList ++ Text.join ", ".toList ids = _
      simp only [hsplit, List.append_assoc]
    exact ⟨_, hmessage.symm⟩
  simp only [shapeWarnings, List.mem_map, List.mem_append]
  constructor
  · rintro ⟨⟨warning, hwarning | hwarning, rfl⟩, hprefix⟩
    · split at hwarning
      · exact absurd hwarning List.not_mem_nil
      · rename_i hcond
        rw [List.mem_singleton.1 hwarning]
        exact ⟨by rintro rfl; simp at hcond, fun hnil => by simp [hnil] at hcond, rfl⟩
    · split at hwarning
      · exact absurd hwarning List.not_mem_nil
      · exact absurd (List.mem_singleton.1 hwarning ▸ hprefix) hterminal
  · rintro ⟨hstart, hsome, rfl⟩
    refine ⟨⟨.unreachable start (graph.unreachable start), .inl ?_, rfl⟩, hlost _⟩
    rw [if_neg (by simp [hstart, hsome])]
    exact List.mem_cons_self

end Graph

section OfFlow

variable {flow : Flow} {source target id : Text}

theorem Graph.leads_ofFlow : (ofFlow flow).Leads source target ↔ flow.Leads source target := by
  simp only [Leads, Flow.Leads, mem_order_ofFlow, mem_edges_ofFlow]
  constructor
  · rintro ⟨htarget, _, ⟨node, hnode, outlet, houtlet, -, rfl⟩, rfl, rfl⟩
    exact ⟨htarget, node, hnode, rfl, outlet, houtlet, rfl⟩
  · rintro ⟨htarget, node, hnode, rfl, outlet, houtlet, rfl⟩
    exact ⟨htarget, _, ⟨node, hnode, outlet, houtlet, htarget, rfl⟩, rfl, rfl⟩

theorem Graph.mem_reachable_ofFlow :
    target ∈ (ofFlow flow).reachable source ↔ source ∈ flow.nodeIds ∧ flow.Reaches source target := by
  have hleads : (ofFlow flow).Leads = flow.Leads := by
    funext source target
    exact propext leads_ofFlow
  rw [mem_reachable (nodup_eraseDups _), mem_order_ofFlow, hleads, Flow.Reaches]

end OfFlow

/-- The survey of a flow from an id. Only a node reaches anything, and it reaches what a path of
outlets leads to; all other nodes are listed once, in the order of the flow, and if there are any
they are reported. -/
theorem Flow.graph_survey (flow : Flow) (start : Text) :
    (flow.graph = .ok (Graph.ofFlow flow) ↔
      ∀ node ∈ flow.nodes, ∀ outlet ∈ node.outlets, outlet.target ∈ flow.nodeIds →
        outlet.Keyed) ∧
    (∀ id, id ∈ (Graph.ofFlow flow).reachable start ↔
      start ∈ flow.nodeIds ∧ flow.Reaches start id) ∧
    (∀ id, id ∈ (Graph.ofFlow flow).unreachable start ↔
      id ∈ flow.nodeIds ∧ ¬ (start ∈ flow.nodeIds ∧ flow.Reaches start id)) ∧
    ((Graph.ofFlow flow).unreachable start).Sublist flow.nodeIds.eraseDups ∧
    ((Graph.ofFlow flow).unreachable start).Nodup ∧
    ∀ message,
      (message ∈ ((Graph.ofFlow flow).shapeWarnings start).map Graph.ShapeWarning.message ∧
        "Unreachable".toList <+: message) ↔
      start ≠ [] ∧ (Graph.ofFlow flow).unreachable start ≠ [] ∧
        message = "Unreachable from '".toList ++ start ++ "': ".toList ++
          Text.join ", ".toList ((Graph.ofFlow flow).unreachable start) := by
  refine ⟨graph_eq_ok_iff, fun id => Graph.mem_reachable_ofFlow, fun id => ?_,
    List.filter_sublist, (nodup_eraseDups _).filter _, fun message => Graph.unreachable_warning⟩
  rw [Graph.mem_unreachable, Graph.mem_order_ofFlow, Graph.mem_reachable_ofFlow]

end Flowchart
