import Flowchart.Proofs.Flow.Fields
import Flowchart.Proofs.Record.Soundness

/-!
# Rules and violations

The rules for records and the violations of flows say the same. Records are checked field by field
up to the first rule that they break, flows are searched for all violations: the check of a written
flow stops exactly if the flow has violations, and the rule it stops at is one of them.
-/

namespace Flowchart

theorem Fields.name?_get_arranged (style : Json.Style) {fields : Fields} (h : fields.keys.Nodup)
    {key s : Text} (hvalue : fields.get key = .str s) :
    ((fields.arranged style).get key).name? = if s = [] then none else some s := by
  rw [get_arranged style h, hvalue, Json.arranged_str]
  cases s <;> rfl

structure Flow.Filled (flow : Flow) : Prop where
  named : flow.id ≠ []
  nodes : ∀ node ∈ flow.nodes, node.id ≠ []
  targets : ∀ node ∈ flow.nodes, ∀ outlet ∈ node.outlets, outlet.target ≠ []

namespace Record

theorem targets_arranged {outlets : List Outlet} (h : ∀ outlet ∈ outlets, outlet.target ≠ [])
    (style : Json.Style) (node : Text) (position : Nat) :
    targets node position (outlets.map fun o => .obj (o.toFields.arranged style)) =
      .ok (outlets.map Outlet.target) := by
  induction outlets generalizing position with
  | nil => rfl
  | cons outlet outlets ih =>
      obtain ⟨htarget, htargets⟩ := List.forall_mem_cons.1 h
      rw [List.map_cons, targets, Json.fieldsOf, Json.fields?, Option.getD_some,
        Fields.name?_get_arranged style outlet.nodup_keys_toFields outlet.target_toFields,
        if_neg htarget]
      simp only [ih htargets (position + 1)]
      rfl

theorem nodeTargets_arranged {node : Node} (h : ∀ outlet ∈ node.outlets, outlet.target ≠ [])
    (style : Json.Style) :
    nodeTargets node.id (node.toFields.arranged style) = .ok (node.outlets.map Outlet.target) := by
  unfold nodeTargets
  rw [node.outlets_arranged style]
  by_cases hnone : node.outlets = []
  · simp [hnone]
  · rw [if_neg hnone]
    exact targets_arranged h style node.id 0

theorem wirings_cons_arranged {node : Node} (hid : node.id ≠ [])
    (htargets : ∀ outlet ∈ node.outlets, outlet.target ≠ []) (style : Json.Style)
    (seen : List Text) (position : Nat) (values : List Json) :
    wirings seen position (.obj (node.toFields.arranged style) :: values) =
      if seen.contains node.id then .error (.repeatedNodeId node.id position)
      else (wirings (node.id :: seen) (position + 1) values).map (wiringOf node :: ·) := by
  rw [wirings]
  simp only [Fields.name?_get_arranged style node.nodup_keys_toFields node.id_toFields, if_neg hid,
    nodeTargets_arranged htargets style]
  cases wirings (node.id :: seen) (position + 1) values <;> rfl

/-- The nodes are gone through to the end, unless an id comes again: then up to the first such. -/
theorem wirings_arranged {nodes : List Node} (hids : ∀ node ∈ nodes, node.id ≠ [])
    (htargets : ∀ node ∈ nodes, ∀ outlet ∈ node.outlets, outlet.target ≠ []) (style : Json.Style)
    (seen : List Text) (position : Nat) :
    (Flow.repeated seen (nodes.map Node.id) = [] ∧
      wirings seen position (nodes.map fun node => .obj (node.toFields.arranged style)) =
        .ok (nodes.map wiringOf)) ∨
    ∃ id ∈ Flow.repeated seen (nodes.map Node.id), ∃ place,
      wirings seen position (nodes.map fun node => .obj (node.toFields.arranged style)) =
        .error (.repeatedNodeId id place) := by
  induction nodes generalizing seen position with
  | nil => exact .inl ⟨rfl, rfl⟩
  | cons node nodes ih =>
      obtain ⟨hid, hids⟩ := List.forall_mem_cons.1 hids
      obtain ⟨hown, htargets⟩ := List.forall_mem_cons.1 htargets
      rw [List.map_cons, List.map_cons, wirings_cons_arranged hid hown, Flow.repeated]
      split
      · exact .inr ⟨node.id, List.mem_cons_self, position, rfl⟩
      · rcases ih hids htargets (node.id :: seen) (position + 1) with ⟨hnone, hrest⟩ | hagain
        · refine .inl ⟨hnone, ?_⟩
          rw [hrest]
          rfl
        · obtain ⟨id, hid, place, hrest⟩ := hagain
          refine .inr ⟨id, hid, place, ?_⟩
          rw [hrest]
          rfl

theorem exists_of_unknownTarget? {ids : List Text} {wiring : Wiring} {breach : Breach}
    (h : unknownTarget? ids wiring = some breach) :
    ∃ position, ∃ target ∈ wiring.2, target ∉ ids ∧
      breach = .unknownTarget position wiring.1 target := by
  obtain ⟨⟨target, position⟩, hmem, hbreach⟩ := List.exists_of_findSome?_eq_some h
  obtain ⟨hunknown, hsame⟩ := Option.ite_none_left_eq_some.1 hbreach
  exact ⟨position, target, List.fst_mem_of_mem_zipIdx hmem, by simpa using hunknown,
    (Option.some.inj hsame).symm⟩

/-- A rule and the violation that it finds. -/
inductive Breach.Tells : Breach → Violation → Prop
  | repeatedNodeId (id : Text) (position : Nat) :
      Tells (.repeatedNodeId id position) (.duplicateNode id)
  | badStart : Tells .badStart (.startMissing [])
  | startMissing (start : Text) : Tells (.startMissing start) (.startMissing start)
  | unknownTarget (position : Nat) (outlet : Json) (node target : Text) :
      Tells (.unknownTarget position node target) (.unknownTarget outlet node target)

section Flow

variable {flow : Flow}

theorem checkLinks_wirings (hne : flow.nodes ≠ []) :
    (flow.start ∈ flow.nodeIds ∧
      (∀ node ∈ flow.nodes, ∀ outlet ∈ node.outlets, outlet.target ∈ flow.nodeIds) ∧
      checkLinks flow.start (flow.nodes.map wiringOf) = .ok ()) ∨
    ∃ breach, checkLinks flow.start (flow.nodes.map wiringOf) = .error breach ∧
      ∃ violation ∈ flow.violations, breach.Tells violation := by
  have hids : (flow.nodes.map wiringOf).map Prod.fst = flow.nodeIds := by
    rw [List.map_map]
    rfl
  unfold checkLinks
  simp only [hids]
  by_cases hstart : flow.start ∈ flow.nodeIds
  · rw [if_neg (by simpa using hstart)]
    cases hlinks : (flow.nodes.map wiringOf).findSome? (unknownTarget? flow.nodeIds) with
    | none =>
        refine .inl ⟨hstart, fun node hnode outlet houtlet => ?_, rfl⟩
        have hnone := List.findSome?_eq_none_iff.1 hlinks _ (List.mem_map_of_mem hnode)
        exact unknownTarget?_eq_none_iff.1 hnone _ (List.mem_map_of_mem houtlet)
    | some breach =>
        obtain ⟨wiring, hwiring, hbreach⟩ := List.exists_of_findSome?_eq_some hlinks
        obtain ⟨node, hnode, rfl⟩ := List.mem_map.1 hwiring
        obtain ⟨position, target, htarget, hunknown, rfl⟩ := exists_of_unknownTarget? hbreach
        obtain ⟨outlet, houtlet, rfl⟩ := List.mem_map.1 htarget
        exact .inr ⟨_, rfl, _, Flow.unknownTarget_mem hnode houtlet hunknown,
          .unknownTarget position _ _ _⟩
  · rw [if_pos (by simpa using hstart)]
    exact .inr ⟨_, rfl, _, Flow.startMissing_mem hne hstart, .startMissing _⟩

theorem check_arranged (h : flow.Filled) (hne : flow.nodes ≠ []) (style : Json.Style) :
    (flow.violations = [] ∧ check (flow.toFields.arranged style) = .ok ()) ∨
    ∃ breach, check (flow.toFields.arranged style) = .error breach ∧
      ∃ violation ∈ flow.violations, breach.Tells violation := by
  obtain ⟨hid, hstart, -⟩ := flow.get_toFields
  have hname : ∀ {key s : Text}, flow.toFields.get key = .str s →
      ((flow.toFields.arranged style).get key).name? = if s = [] then none else some s :=
    Fields.name?_get_arranged style flow.nodup_keys_toFields
  unfold check
  rw [hname hid, if_neg h.named, hname hstart, flow.nodes_arranged style]
  by_cases hempty : flow.start = []
  · rw [if_pos hempty]
    have hunknown : flow.start ∉ flow.nodeIds := by
      rw [hempty]
      intro hmem
      obtain ⟨node, hnode, hnil⟩ := List.mem_map.1 hmem
      exact h.nodes node hnode hnil
    refine .inr ⟨_, rfl, .startMissing [], ?_, .badStart⟩
    exact hempty ▸ Flow.startMissing_mem hne hunknown
  · rw [if_neg hempty]
    simp only [Json.items?]
    rcases wirings_arranged h.nodes h.targets style [] 0 with ⟨hnone, hwirings⟩ | hagain
    · rw [hwirings]
      rcases checkLinks_wirings hne with ⟨hstarted, hresolved, hlinks⟩ | hbroken
      · exact .inl ⟨Flow.violations_eq_nil_iff.2 ⟨(Flow.repeated_eq_nil_iff.1 hnone).1,
          ⟨fun hnil => absurd hnil hne, fun _ => hstarted⟩, hresolved⟩, hlinks⟩
      · exact .inr hbroken
    · obtain ⟨id, hid, place, hwirings⟩ := hagain
      rw [hwirings]
      exact .inr ⟨_, rfl, _, Flow.duplicateNode_mem hid, .repeatedNodeId id place⟩

theorem check_eq_ok_iff (h : flow.Filled) (hne : flow.nodes ≠ []) (style : Json.Style) :
    check (flow.toFields.arranged style) = .ok () ↔ flow.violations = [] := by
  rcases check_arranged h hne style with ⟨hnone, hcheck⟩ | ⟨breach, hcheck, violation, hmem, -⟩
  · exact iff_of_true hcheck hnone
  · rw [hcheck]
    exact iff_of_false (fun hok => by cases hok) (List.ne_nil_of_mem hmem)

end Flow

end Record

end Flowchart
