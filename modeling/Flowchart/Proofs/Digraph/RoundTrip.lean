import Flowchart.Proofs.Digraph.Drawn

/-!
# Digraphs and back

The nodes of a drawn flow come back under ids of their own, whatever their ids were made of, and
each outlet leads from the image of its node to the image of its target. Labels, texts and titles
come back but for the letters that their own backslashes make breaks. Where the ids are names and
nothing holds a backslash, all comes back as it was, in the same order.
-/

namespace Flowchart.Digraph

/-- Spaces, a keyword, a numeral and dashes in ids, and backslashes, quotes and breaks in labels. -/
def mixedFlow : Flow where
  id := "week 7".toList
  title := .str "Copy \"all\" to C:\\temp".toList
  nodes :=
    [{ id := "pick a file".toList, title := .str "Pick".toList,
        outlets :=
          [{ id := .str ['1'], target := "graph".toList, label := .str "C:\\new\\\\".toList },
            { id := .str ['2'], target := "7.".toList, label := .str "either\nor".toList }] },
      { id := "graph".toList, title := .null
        content := .str "read\\write".toList
        outlets := [{ id := .str ['3'], target := "graph".toList }] },
      { id := "7.".toList, title := .null
        outlets := [{ id := .str ['4'], target := "pick a file".toList }] },
      { id := "a:b-c".toList, title := .null }]

theorem wired_mixedFlow : Wired mixedFlow where
  headed := ⟨by decide, by decide, by decide⟩
  titled := by decide
  distinct := by decide
  ends := by decide
  nodes := by
    intro node hnode
    simp only [mixedFlow, List.mem_cons, List.not_mem_nil, or_false] at hnode
    rcases hnode with rfl | rfl | rfl | rfl <;>
      exact ⟨⟨by decide, by decide, by decide⟩, ⟨_, rfl⟩, by decide, by decide⟩

/-- Each node of a flow has its own image among the nodes that come back, and each outlet leads
from the image of its node to the image of its target. -/
theorem read_wired (flow : Flow) (h : Wired flow) :
    ∃ text again, write ({} : Options).direction flow = .ok text ∧ read text = .ok again ∧
      again.nodes.length = flow.nodes.length ∧
      (again.nodes.map fun node => (node.id, node.outlets.map Outlet.target)) =
        (flow.nodes.map fun node => (imageOf flow node.id,
          node.outlets.map fun outlet => imageOf flow outlet.target)) ∧
      ∀ id ∈ flow.nodeIds, ∀ other ∈ flow.nodeIds,
        imageOf flow id = imageOf flow other → id = other := by
  refine ⟨_, _, h.write_eq, h.read_drawnText, ?_, ?_, fun id hid other hother =>
    imageOf_injective hid hother⟩
  · rw [h.nodes_toFlow, List.length_map]
  · rw [h.nodes_toFlow, List.map_map]
    refine List.map_congr_left fun node hnode => ?_
    rw [Function.comp_apply, Draft.id_node, Draft.targets_node, h.links_of_node hnode,
      List.map_map, ← Node.map_fst_branches, List.map_map]
    rfl

theorem read_wired_mixed :
    Wired mixedFlow ∧
    ∃ text again, write ({} : Options).direction mixedFlow = .ok text ∧ read text = .ok again ∧
      again.nodes.length = mixedFlow.nodes.length ∧
      (again.nodes.map fun node => (node.id, node.outlets.map Outlet.target)) =
        (mixedFlow.nodes.map fun node => (imageOf mixedFlow node.id,
          node.outlets.map fun outlet => imageOf mixedFlow outlet.target)) ∧
      ∀ id ∈ mixedFlow.nodeIds, ∀ other ∈ mixedFlow.nodeIds,
        imageOf mixedFlow id = imageOf mixedFlow other → id = other :=
  ⟨wired_mixedFlow, read_wired mixedFlow wired_mixedFlow⟩

/-- What is read of a written label is the label as `misread` tells it: the same exactly if no
letter for a break stands directly behind a backslash. So it is with the labels, the texts and the
title of a flow that is drawn and read. -/
theorem read_labels (flow : Flow) (h : Wired flow) :
    (∀ s : Text, unescape (unquote (writtenLabel s)) = misread s ∧
      (misread s = s ↔ ∀ c, isBreakLetter c = true → ¬ ['\\', c] <:+: s)) ∧
    ∃ text again, write ({} : Options).direction flow = .ok text ∧ read text = .ok again ∧
      again.title = (misreadLabel flow.title).orElse (.str "DOT Digraph".toList) ∧
      again.nodes.map Node.content =
        (flow.nodes.map fun node => .str (Caption.ofText (misread (wordOf node))).content) ∧
      (again.nodes.map fun node => node.outlets.map Outlet.label) =
        (flow.nodes.map fun node => node.branches.map fun branch =>
          (misreadLabel branch.2).orElse .null) := by
  refine ⟨fun s => ⟨by rw [unquote_writtenLabel, unescape_escaped], misread_eq_self_iff⟩, _, _,
    h.write_eq, h.read_drawnText, h.title_toFlow, h.contents_toFlow, ?_⟩
  have hlabels := congrArg (List.map (List.map Prod.snd)) h.outlets_toFlow
  simpa only [List.map_map, Function.comp_def] using hlabels

theorem read_labels_mixed :
    Wired mixedFlow ∧
    (∀ s : Text, unescape (unquote (writtenLabel s)) = misread s ∧
      (misread s = s ↔ ∀ c, isBreakLetter c = true → ¬ ['\\', c] <:+: s)) ∧
    ∃ text again, write ({} : Options).direction mixedFlow = .ok text ∧ read text = .ok again ∧
      again.title = (misreadLabel mixedFlow.title).orElse (.str "DOT Digraph".toList) ∧
      again.nodes.map Node.content =
        (mixedFlow.nodes.map fun node => .str (Caption.ofText (misread (wordOf node))).content) ∧
      (again.nodes.map fun node => node.outlets.map Outlet.label) =
        (mixedFlow.nodes.map fun node => node.branches.map fun branch =>
          (misreadLabel branch.2).orElse .null) :=
  ⟨wired_mixedFlow, read_labels mixedFlow wired_mixedFlow⟩

namespace PlainLabel

variable {label : Json} (h : PlainLabel label)

include h

theorem name?_misread : label.name?.map misread = label.name? := by
  rcases h with hvoid | ⟨s, rfl, hs⟩
  · rcases TextLabel.cases (.inl hvoid) with ⟨-, hname⟩ | ⟨-, -, hspoken, -⟩
    · rw [hname]
      rfl
    · rw [hvoid] at hspoken
      cases hspoken
  · rw [Json.name?]
    split
    · rfl
    · rw [Option.map_some, misread_of_not_mem hs]

theorem misreadLabel : misreadLabel label = label := by
  rcases h with hvoid | ⟨s, rfl, hs⟩
  · cases label with
    | str s =>
        obtain rfl : s = [] := List.isEmpty_iff.1 hvoid
        rfl
    | null | bool | int | float | arr | obj => rfl
  · rw [Digraph.misreadLabel, misread_of_not_mem hs]

theorem ofText?_name? : (Json.ofText? label.name?).orElse .null = label.orElse .null := by
  have hread := h.textLabel.ofText?_misread
  rwa [h.name?_misread, h.misreadLabel] at hread

end PlainLabel

namespace Drawable

variable {flow : Flow} (h : Drawable flow)

include h

theorem wired : Wired flow where
  headed := by
    have hname : headName flow = flow.id := by
      rw [headName, if_neg]
      simpa using h.ident.word.nonempty
    exact hname ▸ h.ident.headed
  titled := h.titled.textLabel
  distinct := h.distinct
  ends := fun node hnode outlet houtlet =>
    have htarget := h.resolved node hnode outlet houtlet
    ⟨htarget, (h.nodes node hnode).ident.not_colon, (h.ident_of_mem htarget).not_colon⟩
  nodes := fun node hnode =>
    { nameable := (h.nodes node hnode).ident.nameable
      texted := (h.nodes node hnode).worded.imp fun _ hs => hs.1
      keyed := (h.nodes node hnode).keyed
      labelled := fun outlet houtlet => ((h.nodes node hnode).labelled outlet houtlet).textLabel }

theorem misread_wordOf {node : Node} (hnode : node ∈ flow.nodes) :
    misread (wordOf node) = wordOf node := by
  obtain ⟨s, hs, -, hslash, -⟩ := (h.nodes node hnode).worded
  rw [wordOf, hs]
  exact misread_of_not_mem hslash

end Drawable

theorem write_eq {flow : Flow} (h : Drawable flow) :
    write ({} : Options).direction flow = .ok (drawnText flow) := h.wired.write_eq

theorem draft_drawingOf {flow : Flow} (h : Drawable flow) :
    (drawingOf flow).draft =
      { nodes := flow.nodes.map fun node => (node.id, some (wordOf node))
        links := (flow.nodes.flatMap ownBranches).map fun branch =>
          ⟨branch.1, branch.2.1.target, branch.2.2.name?⟩ } := by
  rw [h.wired.draft_drawingOf]
  congr 1
  · exact List.map_congr_left fun node hnode => by rw [h.misread_wordOf hnode]
  · refine List.map_congr_left fun branch hbranch => ?_
    obtain ⟨node, hnode, hmem⟩ := List.mem_flatMap.1 hbranch
    obtain ⟨own, hown, rfl⟩ := List.mem_map.1 hmem
    rw [((h.nodes node hnode).plain_branch hown).name?_misread]

theorem title_toFlow {flow : Flow} (h : Drawable flow) :
    (drawingOf flow).toFlow.title = flow.title.orElse (.str "DOT Digraph".toList) := by
  rw [h.wired.title_toFlow, h.titled.misreadLabel]

theorem links_of_node {flow : Flow} (h : Drawable flow) {node : Node} (hnode : node ∈ flow.nodes) :
    (drawingOf flow).draft.links.filter (·.source = node.id) =
      node.branches.map fun branch => ⟨node.id, branch.1.target, branch.2.name?⟩ := by
  rw [h.wired.links_of_node hnode]
  exact List.map_congr_left fun branch hbranch => by
    rw [((h.nodes node hnode).plain_branch hbranch).name?_misread]

theorem read_drawnText {flow : Flow} (h : Drawable flow) :
    read (drawnText flow) = .ok (drawingOf flow).toFlow := h.wired.read_drawnText

/-- A flow that can be drawn comes back from its digraph: the same ids in the same order, with the
texts they showed, each with its branches in their order, and the title, if there is one. -/
theorem read_drawn (flow : Flow) (h : Drawable flow) :
    ∃ text again, write ({} : Options).direction flow = .ok text ∧ read text = .ok again ∧
      again.nodeIds = flow.nodeIds ∧
      again.nodes.map Node.content = flow.nodes.map shown ∧
      (again.nodes.map fun node => node.outlets.map fun outlet => (outlet.target, outlet.label)) =
        (flow.nodes.map fun node => node.branches.map fun branch =>
          (branch.1.target, branch.2.orElse .null)) ∧
      again.title = flow.title.orElse (.str "DOT Digraph".toList) := by
  have hdraft := draft_drawingOf h
  have hnames : (drawingOf flow).draft.names = flow.nodeIds := by
    rw [Draft.names, hdraft, List.map_map]
    rfl
  have hids : ∀ id ∈ flow.nodeIds, (drawingOf flow).draft.idsOf.idOf id = id :=
    fun id hid => Draft.idOf_idsOf (hnames ▸ fun _ => h.ident_of_mem) (hnames ▸ h.distinct)
      (hnames ▸ hid)
  have hnodes : (drawingOf flow).toFlow.nodes = flow.nodes.map fun node =>
      (drawingOf flow).draft.node (drawingOf flow).draft.idsOf node.id (some (wordOf node)) := by
    change (drawingOf flow).draft.nodes.map _ = _
    rw [hdraft, List.map_map]
    rfl
  refine ⟨_, _, write_eq h, read_drawnText h, ?_, ?_, ?_, ?_⟩
  · rw [Flow.nodeIds, hnodes, List.map_map]
    refine List.map_congr_left fun node hnode => ?_
    rw [Function.comp_apply, Draft.id_node, hids _ (List.mem_map_of_mem hnode)]
  · rw [hnodes, List.map_map]
    refine List.map_congr_left fun node hnode => ?_
    obtain ⟨s, hs, hlined, -, hopen⟩ := (h.nodes node hnode).worded
    rw [Function.comp_apply, Draft.content_node, wordOf, hs, Json.text?, Option.getD_some,
      Draft.caption_of_lined hlined hopen]
  · rw [hnodes, List.map_map]
    refine List.map_congr_left fun node hnode => ?_
    rw [Function.comp_apply, Draft.outlets_node, links_of_node h hnode, List.map_map]
    refine List.map_congr_left fun branch hbranch => ?_
    have htarget := h.resolved node hnode branch.1 (Node.mem_outlets_of_mem_branches hbranch)
    rw [Function.comp_apply, hids _ htarget,
      ((h.nodes node hnode).plain_branch hbranch).ofText?_name?]
  · exact title_toFlow h

def drawnOutlet (source target : String) (label : Json) : Outlet where
  id := .str (source ++ target).toList
  target := target.toList
  label := label

/-- Two branches that run side by side, a two-way split without labels, an id that begins with a
keyword, texts with quotes and breaks, and a label that is a number. -/
def drawnFlow : Flow where
  id := "edges".toList
  title := .str "A \"way\" round".toList
  nodes :=
    [{ id := "graph1".toList, title := .str "Pick \"one\"".toList,
        outlets := [drawnOutlet "graph1" "Split_2" (.str "1.5".toList),
          drawnOutlet "graph1" "_end" .null,
          drawnOutlet "graph1" "Split_2" (.str "again".toList)] },
      { id := "Split_2".toList, title := .null
        content := .str "Done?\nOr not?".toList
        outlets := [drawnOutlet "Split_2" "_end" .null, drawnOutlet "Split_2" "graph1" .null] },
      { id := "_end".toList, title := .null }]

theorem drawable_drawnFlow : Drawable drawnFlow where
  ident := by decide
  titled := by decide
  distinct := by decide
  resolved := by decide
  nodes := by
    intro node hnode
    simp only [drawnFlow, List.mem_cons, List.not_mem_nil, or_false] at hnode
    rcases hnode with rfl | rfl | rfl <;>
      exact ⟨by decide, ⟨_, rfl, by decide, by decide, by decide⟩, by decide, by decide⟩

theorem read_drawn_sample :
    Drawable drawnFlow ∧
    ∃ text again, write ({} : Options).direction drawnFlow = .ok text ∧ read text = .ok again ∧
      again.nodeIds = drawnFlow.nodeIds ∧
      again.nodes.map Node.content = drawnFlow.nodes.map shown ∧
      (again.nodes.map fun node => node.outlets.map fun outlet => (outlet.target, outlet.label)) =
        (drawnFlow.nodes.map fun node => node.branches.map fun branch =>
          (branch.1.target, branch.2.orElse .null)) ∧
      again.title = drawnFlow.title.orElse (.str "DOT Digraph".toList) :=
  ⟨drawable_drawnFlow, read_drawn drawnFlow drawable_drawnFlow⟩

end Flowchart.Digraph
