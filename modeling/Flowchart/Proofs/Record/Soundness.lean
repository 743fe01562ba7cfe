import Flowchart.Proofs.Flow.Sound
import Flowchart.Record.Reader

/-!
# Soundness of records

What the rules let through is read into the very wiring that they were checked on: no field turns
out to be missing afterwards, and the ids and targets of the flow are those of the check.
-/

namespace Flowchart

theorem Json.eq_str_of_name? {value : Json} {s : Text} (h : value.name? = some s) :
    value = .str s ∧ s ≠ [] := by
  cases value with
  | str t =>
      cases t with
      | nil => simp [name?] at h
      | cons c t =>
          obtain rfl : c :: t = s := by simpa [name?] using h
          exact ⟨rfl, by simp⟩
  | _ => simp [name?] at h

theorem Fields.require_of_name? {fields : Fields} {key s : Text}
    (h : (fields.get key).name? = some s) : fields.require key = .ok s := by
  obtain ⟨hvalue, -⟩ := Json.eq_str_of_name? h
  cases hfound : fields.get? key with
  | none => simp [get, hfound] at hvalue
  | some value =>
      obtain rfl : value = .str s := by simpa [get, hfound] using hvalue
      simp [require, hfound, Json.display]

namespace Record

def wiringOf (node : Node) : Wiring := (node.id, node.outlets.map Outlet.target)

theorem exists_outlet {source target : Text} (position : Nat) {fields : Fields}
    (h : (fields.get "to".toList).name? = some target) :
    ∃ outlet, Outlet.ofFields source position fields = .ok outlet ∧ outlet.target = target := by
  unfold Outlet.ofFields
  rw [Fields.require_of_name? h]
  exact ⟨_, rfl, rfl⟩

theorem exists_outlets {node : Text} {values : List Json} {position : Nat} {targets' : List Text}
    (h : targets node position values = .ok targets') :
    ∃ outlets, Outlet.listOfFields node position values = .ok outlets ∧
      outlets.map Outlet.target = targets' := by
  induction values generalizing position targets' with
  | nil => exact ⟨[], rfl, Except.ok.inj h⟩
  | cons value values ih =>
      unfold targets at h
      split at h
      · cases h
      · rename_i target htarget
        cases hrest : targets node (position + 1) values with
        | error breach =>
            rw [hrest] at h
            cases h
        | ok rest =>
            rw [hrest] at h
            obtain ⟨outlet, houtlet, rfl⟩ := exists_outlet position htarget
            obtain ⟨outlets, houtlets, hmap⟩ := ih hrest
            refine ⟨outlet :: outlets, ?_, ?_⟩
            · rw [Outlet.listOfFields, houtlet, houtlets]
              rfl
            · rw [← Except.ok.inj h, List.map_cons, hmap]

theorem exists_node {id : Text} {fields : Fields} {targets : List Text}
    (hid : (fields.get "id".toList).name? = some id)
    (h : nodeTargets id fields = .ok targets) :
    ∃ node, Node.ofFields fields = .ok node ∧ wiringOf node = (id, targets) := by
  have houtlets : ∃ outlets,
      Outlet.listOfFields id 0 (fields.get "outlets".toList).itemsOf = .ok outlets ∧
        outlets.map Outlet.target = targets := by
    unfold nodeTargets at h
    split at h
    · rename_i hnull
      rw [hnull]
      exact ⟨[], rfl, Except.ok.inj h⟩
    · rename_i values harr
      rw [harr]
      exact exists_outlets h
    · cases h
  obtain ⟨outlets, houtlets, rfl⟩ := houtlets
  unfold Node.ofFields
  rw [Fields.require_of_name? hid]
  simp only [bind, Except.bind, houtlets]
  exact ⟨_, rfl, rfl⟩

theorem exists_of_wirings_cons {seen : List Text} {value : Json} {values : List Json}
    {position : Nat} {checked : List Wiring}
    (h : wirings seen position (value :: values) = .ok checked) :
    ∃ fields id targets rest, value = .obj fields ∧
      (Fields.get "id".toList fields).name? = some id ∧ id ∉ seen ∧
      nodeTargets id fields = .ok targets ∧
      wirings (id :: seen) (position + 1) values = .ok rest ∧ checked = (id, targets) :: rest := by
  unfold wirings at h
  split at h
  · rename_i fields
    split at h
    · cases h
    · rename_i id hid
      split at h
      · cases h
      · rename_i hseen
        cases htargets : nodeTargets id fields with
        | error breach =>
            rw [htargets] at h
            cases h
        | ok targets =>
            cases hrest : wirings (id :: seen) (position + 1) values with
            | error breach =>
                rw [htargets, hrest] at h
                cases h
            | ok rest =>
                rw [htargets, hrest] at h
                exact ⟨fields, id, targets, rest, rfl, hid, by simpa using hseen, htargets, hrest,
                  (Except.ok.inj h).symm⟩
  · cases h

theorem exists_nodes {seen : List Text} {values : List Json} {position : Nat}
    {checked : List Wiring} (h : wirings seen position values = .ok checked) :
    ∃ nodes, (values.mapM fun value => Node.ofFields value.fieldsOf) = .ok nodes ∧
      nodes.map wiringOf = checked := by
  induction values generalizing seen position checked with
  | nil => exact ⟨[], rfl, Except.ok.inj h⟩
  | cons value values ih =>
      obtain ⟨fields, id, targets, rest, rfl, hid, -, htargets, hrest, rfl⟩ :=
        exists_of_wirings_cons h
      obtain ⟨node, hnode, hwiring⟩ := exists_node hid htargets
      obtain ⟨nodes, hnodes, rfl⟩ := ih hrest
      refine ⟨node :: nodes, ?_, by rw [List.map_cons, hwiring]⟩
      rw [List.mapM_cons, hnodes]
      change (Node.ofFields fields >>= fun _ => _) = _
      rw [hnode]
      rfl

theorem ids_of_wirings {seen : List Text} {values : List Json} {position : Nat}
    {checked : List Wiring} (h : wirings seen position values = .ok checked) :
    (checked.map Prod.fst).Nodup ∧ ∀ id ∈ checked.map Prod.fst, id ∉ seen ∧ id ≠ [] := by
  induction values generalizing seen position checked with
  | nil =>
      rw [← Except.ok.inj h]
      simp
  | cons value values ih =>
      obtain ⟨fields, id, targets, rest, -, hid, hseen, -, hrest, rfl⟩ := exists_of_wirings_cons h
      obtain ⟨hnodup, hfresh⟩ := ih hrest
      rw [List.map_cons, List.nodup_cons]
      refine ⟨⟨fun hmem => (hfresh id hmem).1 List.mem_cons_self, hnodup⟩, ?_⟩
      intro other hother
      rcases List.mem_cons.1 hother with rfl | hother
      · exact ⟨hseen, (Json.eq_str_of_name? hid).2⟩
      · obtain ⟨hnew, hne⟩ := hfresh other hother
        exact ⟨fun hmem => hnew (List.mem_cons_of_mem _ hmem), hne⟩

theorem unknownTarget?_eq_none_iff {ids : List Text} {wiring : Wiring} :
    unknownTarget? ids wiring = none ↔ ∀ target ∈ wiring.2, target ∈ ids := by
  rw [unknownTarget?, List.findSome?_eq_none_iff]
  constructor
  · intro h target htarget
    obtain ⟨position, hposition⟩ := List.mem_iff_getElem?.1 htarget
    simpa using h (target, position) (List.mk_mem_zipIdx_iff_getElem?.2 hposition)
  · rintro h ⟨target, position⟩ hmem
    have : target ∈ wiring.2 := List.fst_mem_of_mem_zipIdx hmem
    simp [h target this]

theorem links_of_checkLinks {start : Text} {checked : List Wiring}
    (h : checkLinks start checked = .ok ()) :
    start ∈ checked.map Prod.fst ∧
      ∀ wiring ∈ checked, ∀ target ∈ wiring.2, target ∈ checked.map Prod.fst := by
  unfold checkLinks at h
  simp only at h
  split at h
  · cases h
  · rename_i hstart
    split at h
    · cases h
    · rename_i hnone
      refine ⟨by simpa using hstart, fun wiring hwiring => ?_⟩
      exact unknownTarget?_eq_none_iff.1 (List.findSome?_eq_none_iff.1 hnone wiring hwiring)

/-- What the check says about fields that it lets through. -/
structure Checked (fields : Fields) (id start : Text) (checked : List Wiring) : Prop where
  named : (fields.get "id".toList).name? = some id
  wired : ∃ values, fields.get "nodes".toList = .arr values ∧ wirings [] 0 values = .ok checked
  started : (fields.get "startNodeId".toList).name? = some start
  linked : checkLinks start checked = .ok ()

theorem exists_checked {fields : Fields} (h : check fields = .ok ()) :
    ∃ id start checked, Checked fields id start checked := by
  unfold check at h
  split at h
  · cases h
  · cases h
  · cases h
  · rename_i id values start hid hvalues hstart
    have harr : fields.get "nodes".toList = .arr values := by
      revert hvalues
      cases fields.get "nodes".toList <;> simp [Json.items?]
    cases hwirings : wirings [] 0 values with
    | error breach =>
        rw [hwirings] at h
        cases h
    | ok checked =>
        rw [hwirings] at h
        exact ⟨id, start, checked, hid, ⟨values, harr, hwirings⟩, hstart, h⟩

theorem Checked.exists_flow {fields : Fields} {id start : Text} {checked : List Wiring}
    (h : Checked fields id start checked) :
    ∃ flow, Flow.ofFields fields = .ok flow ∧ flow.start = start ∧
      flow.nodes.map wiringOf = checked := by
  obtain ⟨values, harr, hwirings⟩ := h.wired
  obtain ⟨nodes, hnodes, hwiring⟩ := exists_nodes hwirings
  obtain ⟨hstart, hne⟩ := Json.eq_str_of_name? h.started
  unfold Flow.ofFields
  rw [Fields.require_of_name? h.named, harr]
  simp only [Json.itemsOf, Json.items?, Option.getD_some, bind, Except.bind, hnodes]
  refine ⟨_, rfl, ?_, hwiring⟩
  rw [hstart]
  simp [Json.orElse, Json.isVoid, hne, Json.display]

theorem Checked.sound {fields : Fields} {start id : Text} {checked : List Wiring}
    (h : Checked fields id start checked) {flow : Flow} (hstart : flow.start = start)
    (hnodes : flow.nodes.map wiringOf = checked) : flow.Sound := by
  obtain ⟨values, -, hwirings⟩ := h.wired
  obtain ⟨hdistinct, hfresh⟩ := ids_of_wirings hwirings
  obtain ⟨hmem, hlinks⟩ := links_of_checkLinks h.linked
  have hids : flow.nodeIds = checked.map Prod.fst := by
    rw [← hnodes, List.map_map]
    rfl
  apply Flow.Sound.of_filled
  case distinct => rwa [hids]
  case filled =>
    intro id hid
    exact (hfresh id (hids ▸ hid)).2
  case startless =>
    intro hempty
    simp [← hnodes, hempty] at hmem
  case started =>
    intro _
    rwa [hids, hstart]
  case resolved =>
    intro node hnode target htarget
    rw [hids]
    exact hlinks (wiringOf node) (hnodes ▸ List.mem_map_of_mem hnode) target htarget

theorem sound_of_read {s : Text} {flow : Flow} (h : read s = .ok flow) : flow.Sound := by
  unfold read at h
  split at h
  · cases h
  · rename_i value _
    unfold ofJson at h
    split at h
    · split at h
      · cases h
      · rename_i hcheck
        obtain ⟨id, start, checked, hchecked⟩ := exists_checked hcheck
        obtain ⟨flow', hflow', hstart, hnodes⟩ := hchecked.exists_flow
        rw [hflow'] at h
        rw [← Except.ok.inj h]
        exact hchecked.sound hstart hnodes
    · cases h

end Record

end Flowchart
