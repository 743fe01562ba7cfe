import Flowchart.Proofs.Flow.Sound
import Flowchart.Proofs.Json.Regular

/-!
# Settled flows

In a settled flow nothing void stands where a null would do: then a field that is left out for being
void comes back as it was. Adding outlets to a node keeps it settled.
-/

namespace Flowchart

namespace Outlet

def payload (outlet : Outlet) : List Json :=
  [outlet.id, outlet.label, outlet.condition, outlet.actions, outlet.metadata]

end Outlet

namespace Node

def payload (node : Node) : List Json :=
  [node.title, node.content, node.actions, node.metadata] ++ node.outlets.flatMap Outlet.payload

end Node

namespace Flow

def payload (flow : Flow) : List Json :=
  [flow.title, flow.description, flow.globalState, flow.metadata] ++
    flow.nodes.flatMap Node.payload

end Flow

/-- Void only as null. -/
def Json.Settled (value : Json) : Prop := value.isVoid = true → value = .null

@[simp] theorem Json.settled_null : Settled .null := fun _ => rfl

theorem Json.orElse_eq_of_void {value other : Json} (h : (value.orElse other).isVoid = true) :
    value.orElse other = other := by
  unfold orElse at h ⊢
  split at h
  · rename_i hvoid
    rw [if_pos hvoid]
  · contradiction

theorem Json.isVoid_orElse {other : Json} (h : other.isVoid = false) (value : Json) :
    (value.orElse other).isVoid = false := by
  unfold orElse
  split
  · exact h
  · rename_i hvoid
    simpa using hvoid

theorem Json.settled_orElse_null (value : Json) : (value.orElse .null).Settled :=
  orElse_eq_of_void

theorem Json.regular_orElse {value other : Json} (h : value.Regular) (h' : other.Regular) :
    (value.orElse other).Regular := by
  unfold orElse
  split <;> assumption

theorem Json.regular_ofText? (s : Option Text) : (ofText? s).Regular := by
  cases s <;> trivial

structure Outlet.Settled (outlet : Outlet) : Prop where
  regular : ∀ value ∈ outlet.payload, value.Regular
  identified : outlet.id.isVoid = false
  label : outlet.label.Settled
  condition : outlet.condition.Settled
  actions : outlet.actions.Settled
  metadata : outlet.metadata.Settled

structure Node.Settled (node : Node) : Prop where
  regular : ∀ value ∈ node.payload, value.Regular
  named : node.id ≠ []
  titled : node.title.isVoid = true → node.title = .str []
  actions : node.actions.Settled
  metadata : node.metadata.Settled
  outlets : ∀ outlet ∈ node.outlets, outlet.Settled

structure Flow.Settled (flow : Flow) : Prop where
  regular : ∀ value ∈ flow.payload, value.Regular
  named : flow.id ≠ []
  titled : flow.title.isVoid = false
  description : flow.description.Settled
  metadata : flow.metadata.Settled
  nodes : ∀ node ∈ flow.nodes, node.Settled

theorem Outlet.Settled.withMetadata {outlet : Outlet} (h : outlet.Settled) {metadata : Json}
    (hregular : metadata.Regular) (hmetadata : metadata.Settled) :
    Settled { outlet with metadata := metadata } where
  regular := by
    have hpayload := h.regular
    simp only [payload, List.forall_mem_cons] at hpayload ⊢
    exact ⟨hpayload.1, hpayload.2.1, hpayload.2.2.1, hpayload.2.2.2.1, hregular, by simp⟩
  identified := h.identified
  label := h.label
  condition := h.condition
  actions := h.actions
  metadata := hmetadata

theorem isVoid_outletId (source target : Text) (position : Int) :
    (Json.str (outletId source target position)).isVoid = false := by
  simp [outletId, Json.isVoid]

namespace Node

theorem settled_nextOutlet (node : Node) (target : Text) (label : Option Text) :
    (node.nextOutlet target (.ofText? label) .null).Settled where
  regular := by
    have hlabel : ((Json.ofText? label).orElse .null).Regular :=
      Json.regular_orElse (Json.regular_ofText? label) trivial
    simpa [Outlet.payload, nextOutlet, Json.orElse, Json.isVoid, Json.Regular] using hlabel
  identified := isVoid_outletId _ _ _
  label := Json.settled_orElse_null _
  condition := Json.settled_orElse_null .null
  actions := Json.settled_null
  metadata := Json.settled_null

theorem Settled.append_outlet {node : Node} (h : node.Settled) {outlet : Outlet}
    (houtlet : outlet.Settled) : Settled { node with outlets := node.outlets ++ [outlet] } where
  regular value hvalue := by
    simp only [payload, List.flatMap_append, List.mem_append, List.flatMap_singleton] at hvalue
    rcases hvalue with hvalue | hvalue | hvalue
    · exact h.regular value (List.mem_append_left _ hvalue)
    · exact h.regular value (List.mem_append_right _ hvalue)
    · exact houtlet.regular value hvalue
  named := h.named
  titled := h.titled
  actions := h.actions
  metadata := h.metadata
  outlets other hother := by
    rcases List.mem_append.1 hother with hother | hother
    · exact h.outlets other hother
    · exact List.mem_singleton.1 hother ▸ houtlet

theorem Settled.addOutlet {node : Node} (h : node.Settled) (target : Text)
    (label : Option Text) : (node.addOutlet target (.ofText? label) .null).Settled :=
  h.append_outlet (node.settled_nextOutlet target label)

theorem settled_bare {id title content : Text} {metadata : Json} (h : id ≠ [])
    (hregular : metadata.Regular) (hmetadata : metadata.Settled) :
    Settled { id := id, title := .str title, content := .str content, metadata := metadata } where
  regular := by simpa [payload, Json.Regular] using hregular
  named := h
  titled hvoid := by simpa [Json.isVoid] using hvoid
  actions := Json.settled_null
  metadata := hmetadata
  outlets _ houtlet := absurd houtlet List.not_mem_nil

end Node

theorem Flow.settled_of_nodes {flow : Flow} {title : Text} {metadata : Fields}
    (hid : flow.id ≠ []) (htitle : flow.title = .str title) (hne : title ≠ [])
    (hdescription : flow.description.Settled) (hplain : flow.description.Regular)
    (hstate : flow.globalState = .null) (hmetadata : flow.metadata = .obj metadata)
    (hfilled : metadata ≠ []) (hregular : Json.Regular (.obj metadata))
    (hnodes : ∀ node ∈ flow.nodes, node.Settled) : flow.Settled where
  regular value hvalue := by
    rcases List.mem_append.1 hvalue with hvalue | hvalue
    · simp only [htitle, hstate, hmetadata, List.mem_cons, List.not_mem_nil, or_false] at hvalue
      rcases hvalue with rfl | rfl | rfl | rfl
      · trivial
      · exact hplain
      · trivial
      · exact hregular
    · obtain ⟨node, hnode, hvalue⟩ := List.mem_flatMap.1 hvalue
      exact (hnodes node hnode).regular value hvalue
  named := hid
  titled := by simp [htitle, Json.isVoid, hne]
  description := hdescription
  metadata := by simp [hmetadata, Json.Settled, Json.isVoid, hfilled]
  nodes := hnodes

end Flowchart
