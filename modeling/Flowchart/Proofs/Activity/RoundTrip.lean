import Flowchart.Proofs.Activity.Framing
import Flowchart.Proofs.Activity.Tour

/-!
# Writing and reading activity diagrams

A plain flow that is written as an activity diagram and read back is the same graph, up to the ids
of its nodes and to what the notation cannot say otherwise: a start of its own, an end behind each
node without outlets, and a ladder of conditions in the place of a node with several outlets.
-/

namespace Flowchart.Activity

theorem exists_plainLines {outline : List Line} (h : ∀ line ∈ outline, line.phrase.Plain) :
    ∃ lines : List (Nat × Text), outline.mapM Line.text = .ok (lines.map indented) ∧
      (∀ line ∈ lines, Tidy line.2) ∧
      (lines.map Prod.snd).filterMap Statement.read? =
        outline.map fun line => line.phrase.statement := by
  obtain ⟨lines, hlines, hall⟩ := exists_lines (Q := fun phrase text => Spells text phrase)
    fun line hline => (exists_spells (h line hline)).imp fun _ hspells => ⟨hspells.written, hspells⟩
  refine ⟨lines, hlines, ?_⟩
  clear hlines h
  induction hall with
  | nil => exact ⟨by simp, rfl⟩
  | cons hspells _ ih =>
      exact ⟨List.forall_mem_cons.2 ⟨hspells.tidy, ih.1⟩, by simp [hspells.read, ih.2]⟩

theorem toNode_place {flow : Flow} {plan : Plan} {site : Site}
    (h : plan.edges site = site.edges flow) :
    (plan.place flow site).toNode = site.node flow fun other => (plan.vertex other).id := by
  rw [Place.toNode, Plan.place, Site.node, h, List.foldl_map]

theorem Traces.nodes {flow : Flow} {targets : List Text} {walk : Walk} {plan : Plan}
    (h : Traces flow targets walk plan none fun _ => []) :
    (walk.machine targets).nodes =
      plan.sites.map (Site.node flow fun site => (plan.vertex site).id) := by
  rw [Machine.nodes, h.draws.places, Plan.places_sketch h.accounts.closed, List.map_map]
  apply List.map_congr_left
  intro site hsite
  have hedges := h.accounts.balanced site hsite
  rw [List.append_nil] at hedges
  exact toNode_place hedges

theorem Traces.startId {flow : Flow} {targets : List Text} {walk : Walk} {plan : Plan}
    {gate : Option Loose} {debts : Debts} (h : Traces flow targets walk plan gate debts)
    (hfirst : plan.sites.head? = some .start) :
    (walk.machine targets).startId = (plan.vertex .start).id := by
  obtain ⟨rest, hsites⟩ : ∃ rest, plan.sites = .start :: rest := by
    cases hcons : plan.sites with
    | nil => simp [hcons] at hfirst
    | cons site rest => exact ⟨rest, by simpa [hcons] using hfirst⟩
  rw [Machine.startId, h.draws.places, Plan.places_sketch h.accounts.closed, hsites,
    List.map_cons, List.find?_cons_of_pos (by rfl)]
  rfl

theorem graph_of_plain {flow : Flow} (h : PlainFlow flow) :
    flow.graph = .ok (Graph.ofFlow flow) :=
  Flow.graph_eq_ok fun node hnode => (h.nodes node hnode).keyed

theorem write_eq_framed {flow : Flow} (h : PlainFlow flow) {lines : List (Nat × Text)}
    (hlines : (walkAll flow (Graph.ofFlow flow)).outline.mapM Line.text =
      .ok (lines.map indented)) : write flow = .ok (Text.join ['\n'] (framed [] lines)) := by
  refine write_eq (if_pos h.untitled) (fun hempty => ?_) (graph_of_plain h) hlines
  exact absurd h.started (by simp [Flow.nodeIds, hempty])

theorem warnings_toFlow {m : Machine} (h : m.warnings = []) :
    (m.toFlow none).warnings = .ok [] := by
  have hfields : (m.toFlow none).metadata = .obj ([("format".toList, .str "plantuml".toList)] ++
      Fields.unlessVoid "warnings".toList (.arr (m.warnings.map fun w => .str w.message))) := rfl
  rw [h] at hfields
  have hmetadata : (m.toFlow none).metadata = .obj [("format".toList, .str "plantuml".toList)] :=
    hfields
  have hget : Fields.get "warnings".toList [("format".toList, .str "plantuml".toList)] = .null :=
    rfl
  simp only [Flow.warnings, hmetadata, hget]
  rfl

/-- A plain flow comes back from its diagram as the same graph under other ids: the nodes read are
those of its sites, in some order, each with the edges of its site in their order, and nothing is
warned of. -/
theorem read_write (flow : Flow) (h : PlainFlow flow) :
    ∃ text again rename, write flow = .ok text ∧ read text = .ok again ∧
      again.warnings = .ok [] ∧
      (∀ site ∈ sites flow, ∀ other ∈ sites flow, rename site = rename other → site = other) ∧
      again.start = rename .start ∧
      again.nodes.Perm ((sites flow).map (Site.node flow rename)) := by
  obtain ⟨plan, htraces, hsites, hfirst, hframes⟩ := walkAll_traces h (Graph.ofFlow flow)
  obtain ⟨lines, hlines, htidy, hread⟩ :=
    exists_plainLines (h.utters.outline_walkAll (Graph.ofFlow flow))
  have hwrite := write_eq_framed h hlines
  have hnodes := htraces.nodes
  have hstart := htraces.startId hfirst
  generalize walkAll flow (Graph.ofFlow flow) = walk at *
  obtain ⟨hlabels, hgotos, hwarnings⟩ := htraces.registers.settled
  have hrun : (⟨none, lines.map Prod.snd⟩ : Script).run = walk.machine walk.targets := by
    have hmachine : Machine.run {} ((lines.map Prod.snd).filterMap Statement.read?) =
        walk.machine walk.targets := by
      rw [hread, Walk.machine, outline_eq]
    rw [Script.run, hmachine]
    exact Machine.finish_of_settled hgotos hlabels hframes
  generalize walk.machine walk.targets = m at *
  refine ⟨_, m.toFlow none, fun site => (plan.vertex site).id, hwrite, ?_,
    warnings_toFlow hwarnings, ?_, hstart, ?_⟩
  · rw [read, isDiagram_framed, read_framed (by simp) htidy, List.map_nil, List.nil_append,
      ofLines_of_tidy (List.forall_mem_map.2 htidy), ← hrun]
    rfl
  · intro site hsite other _ heq
    exact Plan.vertex_injective (hsites.mem_iff.2 hsite) (Vertex.id_injective heq)
  · change m.nodes.Perm _
    rw [hnodes]
    exact hsites.map _

def sampleOutlet (source target : String) (label : Json) : Outlet where
  id := .str (source ++ target).toList
  target := target.toList
  label := label

/-- A choice of three with a way back to it, a choice of two without labels, an end, and a node
that nothing leads to. -/
def sampleFlow : Flow where
  id := "sample".toList
  title := .null
  start := "ask".toList
  nodes :=
    [{ id := "ask".toList, title := .str "Which way?".toList
       outlets := [sampleOutlet "ask" "try" (.str "left: a".toList), sampleOutlet "ask" "ask" .null,
         sampleOutlet "ask" "done" (.str "right".toList)] },
      { id := "try".toList, title := .str "Try; again".toList
        content := .str "Try; again".toList
        outlets := [sampleOutlet "try" "ask" .null, sampleOutlet "try" "done" .null] },
      { id := "done".toList, title := .str "Done".toList },
      { id := "lost".toList, title := .str "Lost".toList
        outlets := [sampleOutlet "lost" "try" (.str "unsaid".toList)] }]

theorem plainFlow_sample : PlainFlow sampleFlow := by decide

theorem read_write_sample :
    PlainFlow sampleFlow ∧
      ∃ text again rename, write sampleFlow = .ok text ∧ read text = .ok again ∧
        again.warnings = .ok [] ∧
        (∀ site ∈ sites sampleFlow, ∀ other ∈ sites sampleFlow,
          rename site = rename other → site = other) ∧
        again.start = rename .start ∧
        again.nodes.Perm ((sites sampleFlow).map (Site.node sampleFlow rename)) :=
  ⟨plainFlow_sample, read_write sampleFlow plainFlow_sample⟩

end Flowchart.Activity
