import Flowchart.Activity.Reader
import Flowchart.Proofs.Activity.Grounded
import Flowchart.Proofs.Flow.Sound
import Mathlib.Data.List.Nodup

/-!
# Soundness of activity diagrams

The vertices of a grounded machine are numbered in order, so their ids differ, and its edges lead to
vertices.  Any order of statements leaves a grounded machine, balanced or not, and so a sound flow.
-/

namespace Flowchart.Activity

@[simp] theorem Place.id_toNode (place : Place) : place.toNode.id = place.vertex.id := by
  rw [toNode, Node.kept_foldl Node.id fun _ _ => Node.id_addOutlet ..]

@[simp] theorem Place.targets_toNode (place : Place) :
    place.toNode.outlets.map Outlet.target = place.edges.map fun edge => edge.1.id := by
  rw [toNode, Node.map_outlets_foldl Outlet.target fun edge => edge.1.id]
  · rfl
  · exact fun _ _ => Node.targets_addOutlet ..

theorem Vertex.id_ne_nil (v : Vertex) : v.id ≠ [] := by
  simp [Vertex.id]

namespace Machine

variable {m : Machine}

theorem nodeIds_toFlow (m : Machine) (title : Option Text) :
    (m.toFlow title).nodeIds = m.vertices.map Vertex.id := by
  change (m.places.map Place.toNode).map Node.id = (m.places.map Place.vertex).map Vertex.id
  rw [List.map_map, List.map_map]
  exact List.map_congr_left fun place _ => place.id_toNode

theorem Grounded.nodup_vertices (h : m.Grounded) : m.vertices.Nodup := by
  have hnumbers : (m.vertices.map Vertex.number).Nodup := by
    rw [h.numbered]
    exact List.nodup_range'
  exact hnumbers.of_map _

theorem Grounded.nodup_ids (h : m.Grounded) : (m.vertices.map Vertex.id).Nodup :=
  h.nodup_vertices.map fun _ _ => Vertex.id_injective

theorem startId_of_no_places (h : m.places = []) : m.startId = [] := by
  simp [startId, h]

theorem startId_mem (h : m.places ≠ []) : m.startId ∈ m.vertices.map Vertex.id := by
  unfold startId
  cases hfound : m.places.find? (·.vertex.kind = .start) with
  | some place =>
      have hplace := List.mem_of_find?_eq_some hfound
      exact List.mem_map_of_mem (List.mem_map_of_mem hplace)
  | none =>
      obtain ⟨place, places, hplaces⟩ := List.exists_cons_of_ne_nil h
      simp [hplaces, vertices]

theorem Grounded.sound_toFlow (h : m.Grounded) (title : Option Text) : (m.toFlow title).Sound := by
  have hids := nodeIds_toFlow m title
  have hnodes : (m.toFlow title).nodes = [] ↔ m.places = [] := List.map_eq_nil_iff
  apply Flow.Sound.of_filled
  case distinct =>
    rw [hids]
    exact h.nodup_ids
  case filled =>
    intro id hid
    rw [hids] at hid
    obtain ⟨v, -, rfl⟩ := List.mem_map.1 hid
    exact v.id_ne_nil
  case startless =>
    intro hempty
    exact startId_of_no_places (hnodes.1 hempty)
  case started =>
    intro hplaces
    rw [hids]
    exact startId_mem fun hempty => hplaces (hnodes.2 hempty)
  case resolved =>
    intro node hnode target htarget
    obtain ⟨place, hplace, rfl⟩ := List.mem_map.1 hnode
    rw [Place.targets_toNode] at htarget
    obtain ⟨edge, hedge, rfl⟩ := List.mem_map.1 htarget
    rw [hids]
    exact List.mem_map_of_mem (h.leads place hplace edge hedge)

end Machine

theorem Script.grounded_run (script : Script) : script.run.Grounded :=
  (Machine.grounded_empty.run _).finish

theorem exists_script_of_read {s : Text} {flow : Flow} (h : read s = .ok flow) :
    ∃ script, Script.read s = .ok script ∧ script.run.toFlow script.title = flow := by
  unfold read at h
  split at h
  · split at h
    · rename_i script hscript
      exact ⟨script, hscript, Except.ok.inj h⟩
    · cases h
  · cases h

theorem sound_of_read {s : Text} {flow : Flow} (h : read s = .ok flow) : flow.Sound := by
  obtain ⟨script, -, rfl⟩ := exists_script_of_read h
  exact script.grounded_run.sound_toFlow script.title

end Flowchart.Activity
