import Flowchart.Proofs.Catalog.Soundness
import Flowchart.Proofs.Flow.Settled
import Flowchart.Proofs.Record.RoundTrip
import Flowchart.Proofs.Record.Settled

/-!
# Records of what was read

Readers of graph notations carry texts only, beside metadata of their own that is never empty.  So
whatever a built-in reader makes of a text, its record is read back as the same flow.
-/

namespace Flowchart

namespace Digraph

theorem Draft.settled_node {draft : Draft} {ids : UniqueIds} {name : Text}
    (h : ids.idOf name ≠ []) (label : Option Text) : (draft.node ids name label).Settled :=
  List.foldlRecOn _ _ (Node.settled_bare h trivial Json.settled_null)
    fun _ hnode _ _ => hnode.addOutlet _ _

theorem Drawing.settled_toFlow (drawing : Drawing) : drawing.toFlow.Settled := by
  apply Flow.settled_of_nodes
  case htitle => rfl
  case hmetadata => rfl
  case hstate => rfl
  case hid => exact show "dot-digraph".toList ≠ [] by decide
  case hne =>
    cases htitle : drawing.label with
    | none => decide
    | some title =>
        rintro rfl
        simp [label, Option.filter_eq_some_iff] at htitle
  case hdescription => exact Json.settled_null
  case hplain => trivial
  case hfilled => simp
  case hregular =>
    cases (drawing.name.map unquote).filter (!·.isEmpty) <;> cases drawing.label <;>
      simp [Json.Regular, Json.RegularFields, Fields.keys]
  case hnodes =>
    intro node hnode
    obtain ⟨entry, -, rfl⟩ := List.mem_map.1 hnode
    refine Draft.settled_node ?_ entry.2
    rw [← drawing.draft.id_node _ entry.1 entry.2]
    exact Draft.id_ne_nil (List.mem_map_of_mem hnode)

theorem settled_of_read {s : Text} {flow : Flow} (h : read s = .ok flow) : flow.Settled := by
  obtain ⟨drawing, -, rfl⟩ := exists_drawing_of_read h
  exact drawing.settled_toFlow

end Digraph

namespace Chart

theorem Sheet.settled_addLink {node : Node} (h : node.Settled) (link : Link) :
    (addLink node link).Settled := by
  have houtlet := node.settled_nextOutlet link.target link.label
  refine h.append_outlet (houtlet.withMetadata ?_ ?_)
  · split
    · trivial
    · simp [Json.Regular, Json.RegularFields, Fields.keys]
  · split
    · exact Json.settled_null
    · simp [Json.Settled, Json.isVoid]

theorem Sheet.settled_node (sheet : Sheet) {mention : Mention} (h : mention.id ≠ []) :
    (sheet.node mention).Settled := by
  refine List.foldlRecOn _ _ (Node.settled_bare h ?_ ?_) fun _ hnode _ _ => settled_addLink hnode _
  · split
    · trivial
    · simp [Json.Regular, Json.RegularFields, Fields.keys]
  · split
    · exact Json.settled_null
    · simp [Json.Settled, Json.isVoid]

theorem Sheet.settled_toFlow {sheet : Sheet} (h : sheet.Resolved) {title description : Option Text}
    (htitle : title ≠ some []) (hdescription : description ≠ some []) :
    (sheet.toFlow title description).Settled := by
  apply Flow.settled_of_nodes
  case htitle => rfl
  case hmetadata => rfl
  case hstate => rfl
  case hid => exact show "mermaid-flowchart".toList ≠ [] by decide
  case hne =>
    cases title with
    | none => decide
    | some title => simpa using htitle
  case hdescription =>
    cases description with
    | none => exact Json.settled_null
    | some description =>
        have hne : description ≠ [] := by simpa using hdescription
        exact show (Json.str description).Settled by simp [Json.Settled, Json.isVoid, hne]
  case hplain => exact Json.regular_ofText? description
  case hfilled => simp
  case hregular => cases title <;> simp [Json.Regular, Json.RegularFields, Fields.keys]
  case hnodes =>
    intro node hnode
    obtain ⟨mention, hmention, rfl⟩ := List.mem_map.1 hnode
    exact sheet.settled_node (h.filled mention hmention)

theorem settled_of_read {s : Text} {flow : Flow} (h : read s = .ok flow) : flow.Settled := by
  obtain ⟨body, sheet, title, description, hsheet, htitle, hdescription, rfl⟩ :=
    exists_sheet_of_read h
  exact Sheet.settled_toFlow (Sheet.resolved_of_read hsheet) htitle hdescription

end Chart

namespace Activity

theorem Place.settled_toNode (place : Place) : place.toNode.Settled :=
  List.foldlRecOn _ _ (Node.settled_bare place.vertex.id_ne_nil trivial Json.settled_null)
    fun _ hnode _ _ => hnode.addOutlet _ _

theorem Machine.settled_toFlow (m : Machine) (title : Option Text) : (m.toFlow title).Settled := by
  apply Flow.settled_of_nodes
  case htitle => rfl
  case hmetadata => rfl
  case hstate => rfl
  case hid => exact show "plantuml-activity".toList ≠ [] by decide
  case hne =>
    cases hnamed : title.filter (!·.isEmpty) with
    | none => decide
    | some title =>
        rintro rfl
        simp [Option.filter_eq_some_iff] at hnamed
  case hdescription => exact Json.settled_null
  case hplain => trivial
  case hfilled => simp
  case hregular =>
    cases title.filter (!·.isEmpty) <;> cases m.warnings <;>
      simp [Json.Regular, Json.RegularFields, Json.regularItems_iff, Fields.keys,
        Fields.unlessVoid, Json.isVoid]
  case hnodes =>
    intro node hnode
    obtain ⟨place, -, rfl⟩ := List.mem_map.1 hnode
    exact place.settled_toNode

theorem settled_of_read {s : Text} {flow : Flow} (h : read s = .ok flow) : flow.Settled := by
  obtain ⟨script, -, rfl⟩ := exists_script_of_read h
  exact script.run.settled_toFlow script.title

end Activity

theorem Format.settled_of_read {format : Format Binary64} (hformat : format ∈ Format.builtin)
    {text : Text} {flow : Flow} (h : format.read text = .ok flow) : flow.Settled := by
  simp only [Format.builtin, List.mem_cons, List.not_mem_nil, or_false] at hformat
  rcases hformat with rfl | rfl | rfl | rfl
  case inl => exact Digraph.settled_of_read (Except.mapError_eq_ok_iff.1 h)
  case inr.inl => exact Chart.settled_of_read (Except.mapError_eq_ok_iff.1 h)
  case inr.inr.inl => exact Activity.settled_of_read (Except.mapError_eq_ok_iff.1 h)
  case inr.inr.inr => exact Record.settled_of_read (Except.mapError_eq_ok_iff.1 h)

namespace Record

/-- Records lose nothing of what the built-in readers make, but for the order of keys if those are
sorted. -/
theorem lossless {format : Format Binary64} (hformat : format ∈ Format.builtin) {text : Text}
    {flow : Flow} (h : format.read text = .ok flow) (hne : flow.nodes ≠ [])
    (hfloat : ∀ value ∈ flow.payload, value.Floatless) (indent : Option Int) :
    read (write (styleOf indent false) flow) = .ok flow ∧
      ∃ again, read (write (styleOf indent true) flow) = .ok again ∧ flow.Alike again := by
  have hread := fun sortKeys => read_write_settled (Format.settled_of_read hformat h)
    (Format.sound_of_read hformat h) hne hfloat (spaced_styleOf indent sortKeys)
  refine ⟨?_, _, hread true, flow.alike_arranged _⟩
  rw [hread false, Flow.arranged_of_unsorted rfl]

/-- A flow with escapes, nested values and keys that are not in order. -/
theorem lossless_sample :
    ∃ text flow, Format.record.read text = .ok flow ∧ flow.nodes ≠ [] ∧
      (∀ value ∈ flow.payload, value.Floatless) ∧
      read (write (styleOf (some 2) false) flow) = .ok flow ∧
      ∃ again, read (write (styleOf (some 2) true) flow) = .ok again ∧ flow.Alike again := by
  let text := ("\x7b\"id\": \"f\", \"startNodeId\": \"a\", \"nodes\": [" ++
    "\x7b\"id\": \"a\", \"outlets\": [\x7b\"to\": \"b\", \"label\": \"\\u00e9\\n\"\x7d]\x7d, " ++
    "\x7b\"id\": \"b\", \"isAutoAdvance\": false\x7d], " ++
    "\"globalState\": \x7b\"z\": [1, -20, null], \"a\": \x7b\x7d\x7d\x7d").toList
  let outlet : Outlet :=
    { id := .str "a-b-0".toList, target := "b".toList, label := .str "é\n".toList }
  let flow : Flow :=
    { id := "f".toList
      title := defaultTitle
      start := "a".toList
      nodes := [{ id := "a".toList, title := .str [], outlets := [outlet] },
        { id := "b".toList, title := .str [], autoAdvance := some false }]
      globalState := .obj [("z".toList, .arr [.int 1, .int (-20), .null]), ("a".toList, .obj [])] }
  have hread : Format.record.read text = .ok flow := by decide +kernel
  have hfloat : ∀ value ∈ flow.payload, value.Floatless := by
    simp [flow, outlet, Flow.payload, Node.payload, Outlet.payload, defaultTitle, Json.Floatless,
      Json.FloatlessItems, Json.FloatlessFields]
  have hformat : Format.record ∈ Format.builtin := by simp [Format.builtin]
  exact ⟨text, flow, hread, by simp [flow], hfloat,
    lossless hformat hread (by simp [flow]) hfloat (some 2)⟩

end Record

end Flowchart
