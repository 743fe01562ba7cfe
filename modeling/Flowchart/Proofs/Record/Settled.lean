import Flowchart.Flow.Fields
import Flowchart.Proofs.Flow.Settled
import Flowchart.Proofs.Record.Soundness

/-!
# Settled flows of records

A record may carry any values. Reading makes null of what is void, and the values keep the
regularity that they were read with.
-/

namespace Flowchart

theorem Fields.mem_of_get? {fields : Fields} {key : Text} {value : Json}
    (h : fields.get? key = some value) : (key, value) ∈ fields := by
  induction fields with
  | nil => cases h
  | cons field fields ih =>
      obtain ⟨name, found⟩ := field
      by_cases hkey : key = name
      · subst hkey
        simp only [get?, List.lookup_cons, beq_self_eq_true, Option.some.injEq] at h
        exact h ▸ List.mem_cons_self
      · have hbeq : (key == name) = false := by simpa using hkey
        exact List.mem_cons_of_mem _ (ih (by simpa [get?, List.lookup_cons, hbeq] using h))

namespace Json

theorem Regular.get {fields : Fields} (h : Regular (.obj fields)) (key : Text) :
    (fields.get key).Regular := by
  unfold Fields.get
  cases hfound : fields.get? key with
  | none => trivial
  | some value => exact regularFields_iff.1 h.2 _ (Fields.mem_of_get? hfound)

theorem Regular.fieldsOf {value : Json} (h : value.Regular) : Regular (.obj value.fieldsOf) := by
  cases value with
  | obj fields => exact h
  | _ => exact ⟨List.nodup_nil, trivial⟩

theorem Regular.of_mem_itemsOf {value item : Json} (h : value.Regular)
    (hitem : item ∈ value.itemsOf) : item.Regular := by
  cases value with
  | arr items => exact regularItems_iff.1 h item hitem
  | _ => cases hitem

theorem Regular.orElse_null {value : Json} (h : value.Regular) : (value.orElse .null).Regular :=
  regular_orElse h trivial

end Json

namespace Outlet

theorem settled_of_fields {fields : Fields} (hregular : Json.Regular (.obj fields)) {source : Text}
    {position : Nat} {outlet : Outlet} (h : ofFields source position fields = .ok outlet) :
    outlet.Settled := by
  obtain ⟨target, -, h⟩ := Except.exists_of_bind_eq_ok h
  cases h
  refine ⟨?_, Json.isVoid_orElse (isVoid_outletId _ _ _) _, Json.settled_orElse_null _,
    Json.settled_orElse_null _, Json.settled_orElse_null _, Json.settled_orElse_null _⟩
  simp only [payload, List.forall_mem_cons]
  exact ⟨Json.regular_orElse (hregular.get _) trivial, (hregular.get _).orElse_null,
    (hregular.get _).orElse_null, (hregular.get _).orElse_null, (hregular.get _).orElse_null,
    by simp⟩

theorem settled_of_listOfFields {values : List Json} (hregular : ∀ value ∈ values, value.Regular)
    {source : Text} {position : Nat} {outlets : List Outlet}
    (h : listOfFields source position values = .ok outlets) :
    ∀ outlet ∈ outlets, outlet.Settled := by
  induction values generalizing position outlets with
  | nil =>
      cases h
      simp
  | cons value values ih =>
      obtain ⟨hvalue, hvalues⟩ := List.forall_mem_cons.1 hregular
      obtain ⟨outlet, houtlet, h⟩ := Except.exists_of_bind_eq_ok h
      obtain ⟨more, hmore, h⟩ := Except.exists_of_bind_eq_ok h
      cases h
      exact List.forall_mem_cons.2 ⟨settled_of_fields hvalue.fieldsOf houtlet, ih hvalues hmore⟩

end Outlet

namespace Node

theorem settled_of_fields {fields : Fields} (hregular : Json.Regular (.obj fields)) {node : Node}
    (h : ofFields fields = .ok node) (hid : node.id ≠ []) : node.Settled := by
  obtain ⟨id, -, h⟩ := Except.exists_of_bind_eq_ok h
  obtain ⟨outlets, houtlets, h⟩ := Except.exists_of_bind_eq_ok h
  cases h
  have hsettled := Outlet.settled_of_listOfFields
    (fun _ => (hregular.get "outlets".toList).of_mem_itemsOf) houtlets
  refine ⟨?_, hid, Json.orElse_eq_of_void, Json.settled_orElse_null _,
    Json.settled_orElse_null _, hsettled⟩
  intro value hvalue
  rcases List.mem_append.1 hvalue with hvalue | hvalue
  · simp only [List.mem_cons, List.not_mem_nil, or_false] at hvalue
    rcases hvalue with rfl | rfl | rfl | rfl
    · exact Json.regular_orElse (hregular.get _) trivial
    · exact hregular.get _
    · exact (hregular.get _).orElse_null
    · exact (hregular.get _).orElse_null
  · obtain ⟨outlet, houtlet, hvalue⟩ := List.mem_flatMap.1 hvalue
    exact (hsettled outlet houtlet).regular value hvalue

theorem settled_of_mapM {values : List Json} (hregular : ∀ value ∈ values, value.Regular)
    {nodes : List Node} (h : values.mapM (fun value => ofFields value.fieldsOf) = .ok nodes)
    (hids : ∀ node ∈ nodes, node.id ≠ []) : ∀ node ∈ nodes, node.Settled := by
  induction values generalizing nodes with
  | nil =>
      cases h
      simp
  | cons value values ih =>
      obtain ⟨hvalue, hvalues⟩ := List.forall_mem_cons.1 hregular
      rw [List.mapM_cons] at h
      obtain ⟨node, hnode, h⟩ := Except.exists_of_bind_eq_ok h
      obtain ⟨more, hmore, h⟩ := Except.exists_of_bind_eq_ok h
      cases h
      obtain ⟨hid, hids⟩ := List.forall_mem_cons.1 hids
      exact List.forall_mem_cons.2
        ⟨settled_of_fields hvalue.fieldsOf hnode hid, ih hvalues hmore hids⟩

end Node

namespace Record

theorem settled_of_ofFields {fields : Fields} (hregular : Json.Regular (.obj fields)) {flow : Flow}
    (h : Flow.ofFields fields = .ok flow) {id : Text}
    (hid : (fields.get "id".toList).name? = some id) (hids : ∀ node ∈ flow.nodes, node.id ≠ []) :
    Flow.Settled { flow with title := flow.title.orElse defaultTitle } := by
  obtain ⟨id', hrequire, h⟩ := Except.exists_of_bind_eq_ok h
  obtain rfl : id = id' := Except.ok.inj ((Fields.require_of_name? hid).symm.trans hrequire)
  obtain ⟨nodes, hnodes, h⟩ := Except.exists_of_bind_eq_ok h
  cases h
  have hsettled := Node.settled_of_mapM
    (fun _ => (hregular.get "nodes".toList).of_mem_itemsOf) hnodes hids
  refine ⟨?_, (Json.eq_str_of_name? hid).2, Json.isVoid_orElse rfl _, Json.settled_orElse_null _,
    Json.settled_orElse_null _, hsettled⟩
  intro value hvalue
  rcases List.mem_append.1 hvalue with hvalue | hvalue
  · simp only [List.mem_cons, List.not_mem_nil, or_false] at hvalue
    rcases hvalue with rfl | rfl | rfl | rfl
    · exact Json.regular_orElse (Json.regular_orElse (hregular.get _) trivial) trivial
    · exact (hregular.get _).orElse_null
    · exact hregular.get _
    · exact (hregular.get _).orElse_null
  · obtain ⟨node, hnode, hvalue⟩ := List.mem_flatMap.1 hvalue
    exact (hsettled node hnode).regular value hvalue

theorem settled_of_read {s : Text} {flow : Flow} (h : read s = .ok flow) : flow.Settled := by
  unfold read at h
  split at h
  · cases h
  · rename_i value hvalue
    unfold ofJson at h
    split at h
    · split at h
      · cases h
      · rename_i fields hcheck
        obtain ⟨id, start, checked, hchecked⟩ := exists_checked hcheck
        obtain ⟨flow', hflow', -, hnodes⟩ := hchecked.exists_flow
        obtain ⟨values, -, hwirings⟩ := hchecked.wired
        rw [hflow'] at h
        rw [← Except.ok.inj h]
        refine settled_of_ofFields (Json.regular_of_read hvalue) hflow' hchecked.named ?_
        intro node hnode
        have hmem : node.id ∈ checked.map Prod.fst := by
          rw [← hnodes, List.map_map]
          exact List.mem_map_of_mem hnode
        exact ((ids_of_wirings hwirings).2 _ hmem).2
    · cases h

end Record

end Flowchart
