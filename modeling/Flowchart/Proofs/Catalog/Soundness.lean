import Flowchart.Catalog.Builtin
import Flowchart.Catalog.Validation
import Flowchart.Proofs.Activity.Soundness
import Flowchart.Proofs.Chart.Soundness
import Flowchart.Proofs.Digraph.Soundness
import Flowchart.Proofs.Outcome
import Flowchart.Proofs.Record.Soundness

/-!
# Soundness of the built-in formats

Each reader makes sound flows by an argument of its own.  For a validation it follows that nothing
is left to be found in a text that was read.
-/

namespace Flowchart

/-- Every flow that a built-in reader makes of a text is sound. -/
theorem Format.sound_of_read {format : Format Binary64} (hformat : format ∈ Format.builtin)
    {text : Text} {flow : Flow} (h : format.read text = .ok flow) : flow.Sound := by
  simp only [Format.builtin, List.mem_cons, List.not_mem_nil, or_false] at hformat
  rcases hformat with rfl | rfl | rfl | rfl
  case inl => exact Digraph.sound_of_read (Except.mapError_eq_ok_iff.1 h)
  case inr.inl => exact Chart.sound_of_read (Except.mapError_eq_ok_iff.1 h)
  case inr.inr.inl => exact Activity.sound_of_read (Except.mapError_eq_ok_iff.1 h)
  case inr.inr.inr => exact Record.sound_of_read (Except.mapError_eq_ok_iff.1 h)

theorem Validation.errors_ofFlow {extra : Flow → List Text} {flow : Flow} {validation : Validation}
    (h : Validation.ofFlow extra flow = .ok validation) :
    validation.errors = flow.violations.map Violation.message := by
  unfold Validation.ofFlow at h
  cases hwarnings : flow.warnings with
  | error misfit =>
      rw [hwarnings] at h
      cases h
  | ok warnings =>
      cases hgraph : flow.graph with
      | error misfit =>
          rw [hwarnings, hgraph] at h
          cases h
      | ok graph =>
          rw [hwarnings, hgraph] at h
          rw [← Except.ok.inj h]

theorem Validation.isValid_iff_read {read : Text → Except ReadFault Flow}
    (hread : ∀ text flow, read text = .ok flow → flow.Sound) {extra : Flow → List Text}
    {text : Text} {validation : Validation}
    (h : Validation.ofText read extra text = .ok validation) :
    validation.isValid = true ↔ ∃ flow, read text = .ok flow := by
  unfold Validation.ofText at h
  cases hresult : read text with
  | ok flow =>
      rw [hresult] at h
      have herrors := Validation.errors_ofFlow (Except.mapError_eq_ok_iff.1 h)
      rw [(hread text flow hresult).violations_eq_nil] at herrors
      simp [Validation.isValid, herrors]
  | error fault =>
      rw [hresult] at h
      by_cases hrefusal : fault.isRefusal = true
      · simp only [hrefusal, if_true] at h
        simp [← Except.ok.inj h, Validation.isValid]
      · simp only [hrefusal] at h
        cases h

theorem Activity.Machine.exists_place (statements : List Activity.Statement) {v : Activity.Vertex}
    (h : v ∈ (Activity.Machine.run {} statements).held) :
    ∃ place ∈ (Activity.Machine.run {} statements).places, place.vertex = v :=
  List.mem_map.1 ((Activity.Machine.grounded_empty.run statements).holds v h)

theorem Chart.Sheet.exists_ends {body : Text} {sheet : Chart.Sheet}
    (h : Chart.Sheet.read body = .ok sheet) {link : Chart.Link} (hlink : link ∈ sheet.links) :
    (∃ mention ∈ sheet.mentions, mention.id = link.source) ∧
      ∃ mention ∈ sheet.mentions, mention.id = link.target := by
  have hresolved := Chart.Sheet.resolved_of_read h
  exact ⟨List.mem_map.1 (hresolved.sources link hlink), List.mem_map.1 (hresolved.targets link hlink)⟩

theorem Digraph.Draft.exists_node {draft : Digraph.Draft} {name : Text} (h : name ∈ draft.names) :
    ∃ id, draft.idsOf.id? name = some id ∧ ∃ node ∈ draft.toNodes, node.id = id := by
  obtain ⟨id, hid⟩ := Digraph.Draft.exists_id_of_mem h
  have hmem : id ∈ draft.toNodes.map Node.id := by
    rw [Digraph.Draft.ids_toNodes]
    exact List.mem_map.2 ⟨name, h, by rw [UniqueIds.idOf, hid]; rfl⟩
  exact ⟨id, hid, List.mem_map.1 hmem⟩

/-- Built-in readers make sound flows of whatever they read, no lookup on the way fails, and a text
is valid if and only if it is read. -/
theorem Format.builtin_sound :
    (∀ format ∈ Format.builtin, ∀ text flow, format.read text = .ok flow →
      flow.violations = [] ∧ flow.Sound) ∧
    (∀ format ∈ Format.builtin, ∀ extra text validation,
      Validation.ofText format.read extra text = .ok validation →
        (validation.isValid = true ↔ ∃ flow, format.read text = .ok flow)) ∧
    (∀ statements, ∀ v ∈ (Activity.Machine.run {} statements).held,
      ∃ place ∈ (Activity.Machine.run {} statements).places, place.vertex = v) ∧
    (∀ body sheet, Chart.Sheet.read body = .ok sheet → ∀ link ∈ sheet.links,
      (∃ mention ∈ sheet.mentions, mention.id = link.source) ∧
        ∃ mention ∈ sheet.mentions, mention.id = link.target) ∧
    ∀ drawing : Digraph.Drawing, ∀ link ∈ drawing.draft.links, ∀ name ∈ [link.source, link.target],
      ∃ id, drawing.draft.idsOf.id? name = some id ∧
        ∃ node ∈ drawing.draft.toNodes, node.id = id := by
  refine ⟨?_, ?_, ?_, ?_, ?_⟩
  case refine_1 =>
    intro format hformat text flow h
    have hsound := Format.sound_of_read hformat h
    exact ⟨hsound.violations_eq_nil, hsound⟩
  case refine_2 =>
    intro format hformat extra text validation h
    have hread : ∀ text flow, format.read text = .ok flow → flow.Sound :=
      fun _ _ => Format.sound_of_read hformat
    exact Validation.isValid_iff_read hread h
  case refine_3 => exact fun statements v hv => Activity.Machine.exists_place statements hv
  case refine_4 => exact fun body sheet h link hlink => Chart.Sheet.exists_ends h hlink
  case refine_5 =>
    intro drawing link hlink name hname
    have hdraft := drawing.resolved_draft
    rcases List.mem_cons.1 hname with rfl | hname
    · exact Digraph.Draft.exists_node (hdraft.sources link hlink)
    · rw [List.mem_singleton.1 hname]
      exact Digraph.Draft.exists_node (hdraft.targets link hlink)

/-- An unbalanced script with a jump ahead is read, and what it makes is sound and valid. -/
theorem Format.builtin_sound_sample :
    ∃ text flow validation, Format.activity.read text = .ok flow ∧
      Validation.ofText Format.activity.read (fun _ => []) text = .ok validation ∧
      flow.violations = [] ∧ validation.isValid = true := by
  have hformat : Format.activity ∈ Format.builtin := by simp [Format.builtin]
  obtain ⟨hsound, hvalid, -⟩ := Format.builtin_sound
  let text := "start\nelse\n:a;\ngoto b\nif (c) then\nlabel b\n:d;".toList
  have hread : (Format.activity.read text).toOption.isSome = true := by decide +kernel
  have hvalidated : (Validation.ofText Format.activity.read (fun _ => []) text).toOption.isSome =
      true := by
    decide +kernel
  cases hflow : Format.activity.read text with
  | error fault => simp [hflow, Except.toOption] at hread
  | ok flow =>
      cases hvalidation : Validation.ofText Format.activity.read (fun _ => []) text with
      | error cause => simp [hvalidation, Except.toOption] at hvalidated
      | ok validation =>
          exact ⟨text, flow, validation, hflow, hvalidation,
            (hsound Format.activity hformat text flow hflow).1,
            (hvalid Format.activity hformat _ text validation hvalidation).2 ⟨flow, hflow⟩⟩

end Flowchart
