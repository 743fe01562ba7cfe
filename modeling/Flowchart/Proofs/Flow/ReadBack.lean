import Flowchart.Proofs.Flow.Fields

/-!
# Flows read back from their fields

Written fields are always read back, and what comes back is the flow tidied up: what is void is
missing, and an outlet without an id has one made from its ends and its position. So exactly the
tidy flows, where nothing void stands for something missing, come back as they were. Sorting keys on
the way changes no more than the order of keys inside the values.
-/

namespace Flowchart

namespace Outlet

def arranged (style : Json.Style) (outlet : Outlet) : Outlet :=
  { outlet with
    id := outlet.id.arranged style
    label := outlet.label.arranged style
    condition := outlet.condition.arranged style
    actions := outlet.actions.arranged style
    metadata := outlet.metadata.arranged style }

/-- Equality up to the order of keys. -/
structure Alike (outlet other : Outlet) : Prop where
  id : outlet.id.Alike other.id
  target : outlet.target = other.target
  label : outlet.label.Alike other.label
  condition : outlet.condition.Alike other.condition
  actions : outlet.actions.Alike other.actions
  metadata : outlet.metadata.Alike other.metadata

theorem alike_arranged (style : Json.Style) (outlet : Outlet) :
    outlet.Alike (outlet.arranged style) where
  id := Json.alike_arranged style _
  target := rfl
  label := Json.alike_arranged style _
  condition := Json.alike_arranged style _
  actions := Json.alike_arranged style _
  metadata := Json.alike_arranged style _

theorem arranged_of_unsorted {style : Json.Style} (h : style.sortKeys = false) (outlet : Outlet) :
    outlet.arranged style = outlet := by
  simp [arranged, Json.arranged_of_unsorted h]

end Outlet

namespace Node

def arranged (style : Json.Style) (node : Node) : Node :=
  { node with
    title := node.title.arranged style
    content := node.content.arranged style
    outlets := node.outlets.map (Outlet.arranged style)
    actions := node.actions.arranged style
    metadata := node.metadata.arranged style }

structure Alike (node other : Node) : Prop where
  id : node.id = other.id
  title : node.title.Alike other.title
  content : node.content.Alike other.content
  outlets : List.Forall₂ Outlet.Alike node.outlets other.outlets
  actions : node.actions.Alike other.actions
  autoAdvance : node.autoAdvance = other.autoAdvance
  metadata : node.metadata.Alike other.metadata

theorem alike_arranged (style : Json.Style) (node : Node) : node.Alike (node.arranged style) where
  id := rfl
  title := Json.alike_arranged style _
  content := Json.alike_arranged style _
  outlets := List.forall₂_map_right_iff.2
    (List.forall₂_same.2 fun outlet _ => outlet.alike_arranged style)
  actions := Json.alike_arranged style _
  autoAdvance := rfl
  metadata := Json.alike_arranged style _

theorem arranged_of_unsorted {style : Json.Style} (h : style.sortKeys = false) (node : Node) :
    node.arranged style = node := by
  have houtlets : node.outlets.map (Outlet.arranged style) = node.outlets :=
    List.map_id'' (Outlet.arranged_of_unsorted h) node.outlets
  simp [arranged, Json.arranged_of_unsorted h, houtlets]

end Node

namespace Flow

def arranged (style : Json.Style) (flow : Flow) : Flow :=
  { flow with
    title := flow.title.arranged style
    nodes := flow.nodes.map (Node.arranged style)
    description := flow.description.arranged style
    globalState := flow.globalState.arranged style
    metadata := flow.metadata.arranged style }

structure Alike (flow other : Flow) : Prop where
  id : flow.id = other.id
  title : flow.title.Alike other.title
  start : flow.start = other.start
  nodes : List.Forall₂ Node.Alike flow.nodes other.nodes
  description : flow.description.Alike other.description
  globalState : flow.globalState.Alike other.globalState
  metadata : flow.metadata.Alike other.metadata

theorem alike_arranged (style : Json.Style) (flow : Flow) : flow.Alike (flow.arranged style) where
  id := rfl
  title := Json.alike_arranged style _
  start := rfl
  nodes := List.forall₂_map_right_iff.2
    (List.forall₂_same.2 fun node _ => node.alike_arranged style)
  description := Json.alike_arranged style _
  globalState := Json.alike_arranged style _
  metadata := Json.alike_arranged style _

theorem arranged_of_unsorted {style : Json.Style} (h : style.sortKeys = false) (flow : Flow) :
    flow.arranged style = flow := by
  have hnodes : flow.nodes.map (Node.arranged style) = flow.nodes :=
    List.map_id'' (Node.arranged_of_unsorted h) flow.nodes
  simp [arranged, Json.arranged_of_unsorted h, hnodes]

end Flow

namespace Json

theorem orElse_of_not_void {value : Json} (h : value.isVoid = false) (other : Json) :
    value.orElse other = value := by
  rw [orElse, h]
  rfl

theorem orElse_eq_self_iff {value other : Json} :
    value.orElse other = value ↔ (value.isVoid = true → other = value) := by
  unfold orElse
  split
  · rename_i hvoid
    simp [hvoid]
  · rename_i hvoid
    simp [hvoid]

theorem orElse_null_eq_self_iff {value : Json} : value.orElse .null = value ↔ value.Settled := by
  rw [orElse_eq_self_iff, Settled]
  exact forall_congr' fun _ => eq_comm

theorem orElse_orElse_null (value : Json) :
    (value.orElse .null).orElse .null = value.orElse .null :=
  orElse_null_eq_self_iff.2 (settled_orElse_null value)

theorem orElse_eq_self_iff_of_not_void {value other : Json} (h : other.isVoid = false) :
    value.orElse other = value ↔ value.isVoid = false := by
  refine ⟨fun heq => ?_, fun hvoid => orElse_of_not_void hvoid other⟩
  rw [← heq]
  exact isVoid_orElse h value

end Json

namespace Outlet

/-- The outlet as it comes back: what is void is missing, and a missing id is made up. -/
def tidied (source : Text) (position : Nat) (outlet : Outlet) : Outlet where
  id := outlet.id.orElse (.str (outletId source outlet.target position))
  target := outlet.target
  label := outlet.label.orElse .null
  condition := outlet.condition.orElse .null
  actions := outlet.actions.orElse .null
  metadata := outlet.metadata.orElse .null

structure Tidy (outlet : Outlet) : Prop where
  identified : outlet.id.isVoid = false
  label : outlet.label.Settled
  condition : outlet.condition.Settled
  actions : outlet.actions.Settled
  metadata : outlet.metadata.Settled

variable {outlet : Outlet} {outlets : List Outlet}

theorem Settled.tidy (h : outlet.Settled) : outlet.Tidy where
  identified := h.identified
  label := h.label
  condition := h.condition
  actions := h.actions
  metadata := h.metadata

theorem tidied_eq_self_iff {source : Text} {position : Nat} :
    outlet.tidied source position = outlet ↔ outlet.Tidy := by
  have hfields : outlet.tidied source position = outlet ↔
      outlet.id.orElse (.str (outletId source outlet.target position)) = outlet.id ∧
      outlet.label.orElse .null = outlet.label ∧
      outlet.condition.orElse .null = outlet.condition ∧
      outlet.actions.orElse .null = outlet.actions ∧
      outlet.metadata.orElse .null = outlet.metadata := by
    cases outlet
    simp [tidied]
  rw [hfields, Json.orElse_eq_self_iff_of_not_void (isVoid_outletId _ _ _)]
  simp only [Json.orElse_null_eq_self_iff]
  constructor
  · rintro ⟨hid, hlabel, hcondition, hactions, hmetadata⟩
    exact ⟨hid, hlabel, hcondition, hactions, hmetadata⟩
  · intro h
    exact ⟨h.identified, h.label, h.condition, h.actions, h.metadata⟩

theorem tidy_tidied (source : Text) (position : Nat) (outlet : Outlet) :
    (outlet.tidied source position).Tidy where
  identified := Json.isVoid_orElse (isVoid_outletId _ _ _) _
  label := Json.settled_orElse_null _
  condition := Json.settled_orElse_null _
  actions := Json.settled_orElse_null _
  metadata := Json.settled_orElse_null _

theorem ofFields_arranged (style : Json.Style) (source : Text) (position : Nat) (outlet : Outlet) :
    ofFields source position (outlet.toFields.arranged style) =
      .ok ((outlet.tidied source position).arranged style) := by
  obtain ⟨hid, hlabel, hcondition, hactions, hmetadata⟩ := outlet.get_toFields
  have hget := Fields.get_arranged style outlet.nodup_keys_toFields
  have hrequire : Fields.require "to".toList (outlet.toFields.arranged style) =
      .ok outlet.target :=
    Fields.require_of_get (by rw [hget, outlet.target_toFields, Json.arranged_str])
  unfold ofFields
  simp only [hrequire, hget, hid, hlabel, hcondition, hactions, hmetadata, tidied, arranged,
    Json.arranged_orElse, Json.arranged_null, Json.arranged_str, Json.orElse_orElse_null]
  rfl

theorem listOfFields_arranged (style : Json.Style) (source : Text) (position : Nat)
    (outlets : List Outlet) :
    listOfFields source position (outlets.map fun o => .obj (o.toFields.arranged style)) =
      .ok ((outlets.mapIdx fun i => tidied source (position + i)).map (arranged style)) := by
  induction outlets generalizing position with
  | nil => rfl
  | cons outlet outlets ih =>
      rw [List.map_cons, listOfFields, Json.fieldsOf, Json.fields?, Option.getD_some,
        ofFields_arranged, ih (position + 1), List.mapIdx_cons, List.map_cons]
      simp only [Nat.add_zero, Nat.add_right_comm position 1]
      rfl

theorem mapIdx_tidied_eq_self_iff (source : Text) (position : Nat) :
    (outlets.mapIdx fun i => tidied source (position + i)) = outlets ↔
      ∀ outlet ∈ outlets, outlet.Tidy := by
  induction outlets generalizing position with
  | nil => simp
  | cons outlet outlets ih =>
      rw [List.mapIdx_cons, List.cons.injEq, List.forall_mem_cons, tidied_eq_self_iff,
        ← ih (position + 1)]
      simp only [Nat.add_right_comm position 1]
      rfl

end Outlet

namespace Node

def tidied (node : Node) : Node where
  id := node.id
  title := node.title.orElse (.str [])
  content := node.content
  outlets := node.outlets.mapIdx (Outlet.tidied node.id)
  actions := node.actions.orElse .null
  autoAdvance := node.autoAdvance
  metadata := node.metadata.orElse .null

structure Tidy (node : Node) : Prop where
  titled : node.title.isVoid = true → node.title = .str []
  outlets : ∀ outlet ∈ node.outlets, outlet.Tidy
  actions : node.actions.Settled
  metadata : node.metadata.Settled

variable {node : Node}

theorem Settled.tidy (h : node.Settled) : node.Tidy where
  titled := h.titled
  outlets outlet houtlet := (h.outlets outlet houtlet).tidy
  actions := h.actions
  metadata := h.metadata

theorem tidied_eq_self_iff : node.tidied = node ↔ node.Tidy := by
  have houtlets : node.outlets.mapIdx (Outlet.tidied node.id) = node.outlets ↔
      ∀ outlet ∈ node.outlets, outlet.Tidy := by
    rw [← Outlet.mapIdx_tidied_eq_self_iff node.id 0]
    simp only [Nat.zero_add]
  have hfields : node.tidied = node ↔
      node.title.orElse (.str []) = node.title ∧
      node.outlets.mapIdx (Outlet.tidied node.id) = node.outlets ∧
      node.actions.orElse .null = node.actions ∧
      node.metadata.orElse .null = node.metadata := by
    cases node
    simp [tidied]
  rw [hfields, houtlets, Json.orElse_eq_self_iff]
  simp only [Json.orElse_null_eq_self_iff]
  constructor
  · rintro ⟨htitle, houtlets, hactions, hmetadata⟩
    exact ⟨fun hvoid => (htitle hvoid).symm, houtlets, hactions, hmetadata⟩
  · intro h
    exact ⟨fun hvoid => (h.titled hvoid).symm, h.outlets, h.actions, h.metadata⟩

theorem tidy_tidied (node : Node) : node.tidied.Tidy where
  titled := Json.orElse_eq_of_void
  outlets := by
    intro outlet houtlet
    obtain ⟨position, hposition, rfl⟩ := List.mem_mapIdx.1 houtlet
    exact Outlet.tidy_tidied node.id position _
  actions := Json.settled_orElse_null _
  metadata := Json.settled_orElse_null _

theorem autoAdvanceOf_arranged (node : Node) (style : Json.Style) :
    autoAdvanceOf (node.toFields.arranged style) = node.autoAdvance := by
  obtain ⟨hnew, hold⟩ := node.autoAdvance_toFields
  have hget := Fields.get?_arranged style node.nodup_keys_toFields
  unfold autoAdvanceOf
  rw [hget, hnew, Fields.get, hget, hold]
  cases node.autoAdvance <;> simp [Json.bool?]

theorem itemsOf_outlets_arranged (node : Node) (style : Json.Style) :
    (Fields.get "outlets".toList (node.toFields.arranged style)).itemsOf =
      node.outlets.map fun o => .obj (o.toFields.arranged style) := by
  rw [node.outlets_arranged style]
  split
  · rename_i hnone
    rw [hnone]
    rfl
  · rfl

theorem ofFields_arranged (style : Json.Style) (node : Node) :
    ofFields (node.toFields.arranged style) = .ok (node.tidied.arranged style) := by
  obtain ⟨htitle, hcontent, hactions, hmetadata⟩ := node.get_toFields
  have hget := Fields.get_arranged style node.nodup_keys_toFields
  have hrequire : Fields.require "id".toList (node.toFields.arranged style) = .ok node.id :=
    Fields.require_of_get (by rw [hget, node.id_toFields, Json.arranged_str])
  unfold ofFields
  simp only [hrequire, bind, Except.bind, node.itemsOf_outlets_arranged style,
    Outlet.listOfFields_arranged, Nat.zero_add, node.autoAdvanceOf_arranged style]
  simp only [hget, htitle, hcontent, hactions, hmetadata, tidied, arranged, Json.arranged_orElse,
    Json.arranged_null, Json.arranged_str, Json.orElse_orElse_null]
  rfl

theorem mapM_ofFields_arranged (style : Json.Style) (nodes : List Node) :
    (nodes.map fun node => Json.obj (node.toFields.arranged style)).mapM
      (fun value => ofFields value.fieldsOf) = .ok ((nodes.map tidied).map (arranged style)) := by
  induction nodes with
  | nil => rfl
  | cons node nodes ih =>
      rw [List.map_cons, List.mapM_cons, Json.fieldsOf, Json.fields?, Option.getD_some,
        ofFields_arranged, ih]
      rfl

end Node

namespace Flow

def tidied (flow : Flow) : Flow where
  id := flow.id
  title := flow.title.orElse (.str [])
  start := flow.start
  nodes := flow.nodes.map Node.tidied
  description := flow.description.orElse .null
  globalState := flow.globalState
  metadata := flow.metadata.orElse .null

/-- Titles are void as empty texts only, ids of outlets are not void at all, and what else is void
is null. Contents and the global state may be anything. -/
structure Tidy (flow : Flow) : Prop where
  titled : flow.title.isVoid = true → flow.title = .str []
  nodes : ∀ node ∈ flow.nodes, node.Tidy
  description : flow.description.Settled
  metadata : flow.metadata.Settled

variable {flow : Flow}

theorem Settled.tidy (h : flow.Settled) : flow.Tidy where
  titled hvoid := absurd (h.titled.symm.trans hvoid) Bool.false_ne_true
  nodes node hnode := (h.nodes node hnode).tidy
  description := h.description
  metadata := h.metadata

theorem tidied_eq_self_iff : flow.tidied = flow ↔ flow.Tidy := by
  have hnodes : flow.nodes.map Node.tidied = flow.nodes ↔ ∀ node ∈ flow.nodes, node.Tidy := by
    simp only [← Node.tidied_eq_self_iff]
    conv_lhs => rhs; rw [← List.map_id flow.nodes]
    exact List.map_inj_left
  have hfields : flow.tidied = flow ↔
      flow.title.orElse (.str []) = flow.title ∧
      flow.nodes.map Node.tidied = flow.nodes ∧
      flow.description.orElse .null = flow.description ∧
      flow.metadata.orElse .null = flow.metadata := by
    cases flow
    simp [tidied]
  rw [hfields, hnodes, Json.orElse_eq_self_iff]
  simp only [Json.orElse_null_eq_self_iff]
  constructor
  · rintro ⟨htitle, hnodes, hdescription, hmetadata⟩
    exact ⟨fun hvoid => (htitle hvoid).symm, hnodes, hdescription, hmetadata⟩
  · intro h
    exact ⟨fun hvoid => (h.titled hvoid).symm, h.nodes, h.description, h.metadata⟩

theorem tidy_tidied (flow : Flow) : flow.tidied.Tidy where
  titled := Json.orElse_eq_of_void
  nodes := List.forall_mem_map.2 fun node _ => node.tidy_tidied
  description := Json.settled_orElse_null _
  metadata := Json.settled_orElse_null _

theorem ofFields_arranged (style : Json.Style) (flow : Flow) :
    ofFields (flow.toFields.arranged style) = .ok (flow.tidied.arranged style) := by
  obtain ⟨hid, hstart, -⟩ := flow.get_toFields
  obtain ⟨htitle, hdescription, hstate, hmetadata⟩ := flow.payload_toFields
  have hget := Fields.get_arranged style flow.nodup_keys_toFields
  have hrequire : Fields.require "id".toList (flow.toFields.arranged style) = .ok flow.id :=
    Fields.require_of_get (by rw [hget, hid, Json.arranged_str])
  have hstarted : ((Json.str flow.start).orElse (.str [])).display = flow.start := by
    cases flow.start <;> rfl
  unfold ofFields
  simp only [hrequire, bind, Except.bind, flow.nodes_arranged style, Json.itemsOf, Json.items?,
    Option.getD_some, Node.mapM_ofFields_arranged]
  simp only [hget, htitle, hdescription, hstart, hstate, hmetadata, tidied, arranged,
    Json.arranged_orElse, Json.arranged_null, Json.arranged_str, Json.orElse_orElse_null, hstarted]
  rfl

theorem ofFields_toFields (flow : Flow) : ofFields flow.toFields = .ok flow.tidied := by
  have harranged := flow.ofFields_arranged { indent := none, sortKeys := false }
  rwa [arranged_of_unsorted rfl] at harranged

/-- Every flow is read back from its fields, tidied up. Just the tidy flows come back as they were,
and what came back once comes back the same from then on. -/
theorem fields_read_back (flow : Flow) :
    ofFields flow.toFields = .ok flow.tidied ∧
      (ofFields flow.toFields = .ok flow ↔ flow.Tidy) ∧
      ofFields flow.tidied.toFields = .ok flow.tidied := by
  refine ⟨flow.ofFields_toFields, ?_, ?_⟩
  · rw [ofFields_toFields, Except.ok.injEq, tidied_eq_self_iff]
  · rw [ofFields_toFields, tidied_eq_self_iff.2 flow.tidy_tidied]

/-- Empty metadata is lost, an empty text of a node and an empty global state are not. -/
example :
    let flow : Flow :=
      { id := "f".toList, title := .str [], metadata := .obj [], globalState := .obj [],
        nodes := [{ id := "a".toList, title := .str [], content := .str [] }] }
    ofFields flow.toFields = .ok { flow with metadata := .null } := by
  decide

end Flow

end Flowchart
