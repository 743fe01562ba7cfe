import Flowchart.Chart.Reader
import Flowchart.Proofs.Chart.Mentions
import Flowchart.Proofs.Chart.Reading
import Flowchart.Proofs.Chart.Rows

/-!
# Transcripts of rows

Each row of a plain flow has a line, and the line is read as the statement that the row stands for.
-/

namespace Flowchart.Chart

/-- The style that an outlet is drawn in: the one that it names, else an arrow. -/
def drawnStyle (outlet : Outlet) : EdgeStyle :=
  let value := Fields.get "edgeStyle".toList outlet.metadata.fieldsOf
  (EdgeStyle.all.find? fun style => value = .str style.name).getD .arrow

def mentionOf (graph : Graph) (ids : UniqueIds) (node : Node) : Mention where
  id := ids.idOf node.id
  text := node.caption.text?.map oneLine
  shape := shapeOf (graph.kind node.id) node

def linkOf (ids : UniqueIds) (edge : Text × Outlet × Json) : Link where
  source := ids.idOf edge.1
  target := ids.idOf edge.2.1.target
  label := edge.2.2.name?
  style := drawnStyle edge.2.1

def Row.statement (graph : Graph) (ids : UniqueIds) : Row → Statement
  | .node named => { sources := [mentionOf graph ids named] }
  | .edge source outlet label =>
    ⟨[{ id := ids.idOf source }],
      [⟨drawnStyle outlet, label.name?, [{ id := ids.idOf outlet.target }]⟩]⟩

theorem isVoid_of_name? {value : Json} (h : value.isVoid = true) : value.name? = none := by
  cases value with
  | str s => exact if_pos h
  | _ => rfl

theorem styleOf_eq {outlet : Outlet} (h : Styled outlet) :
    styleOf outlet = .ok (drawnStyle outlet) := by
  unfold styleOf drawnStyle
  unfold Styled at h
  split
  · rename_i hvoid
    have hfields : outlet.metadata.fieldsOf = [] := by
      cases hmetadata : outlet.metadata with
      | obj fields =>
          rw [hmetadata] at hvoid
          exact List.isEmpty_iff.1 hvoid
      | _ => rfl
    rw [hfields]
    rfl
  · rename_i hfull
    obtain ⟨fields, hfields⟩ := Option.isSome_iff_exists.1 (h.resolve_left hfull)
    cases hmetadata : outlet.metadata with
    | obj fields => rfl
    | _ =>
        rw [hmetadata] at hfields
        cases hfields

theorem exists_label {limit : Int} {label : Json} (h : PlainLabel limit label) :
    ∃ text, labelOf limit label = .ok text ∧ (text ≠ [] → PlainMark text) ∧
      (if text.isEmpty then none else some text) = label.name? := by
  rcases h with hvoid | ⟨s, rfl, hs, hfits⟩
  · exact ⟨[], if_pos hvoid, fun hne => absurd rfl hne, (isVoid_of_name? hvoid).symm⟩
  · have hfull : Json.isVoid (.str s) = false := by simpa [Json.isVoid] using hs.nonempty
    refine ⟨s, ?_, fun _ => hs, rfl⟩
    rw [labelOf, hfull]
    exact congrArg Except.ok (hs.edgeLabel_eq hfits)

theorem Ident.feed_not_mem {id : Text} (h : Ident id) : '\n' ∉ id :=
  fun hmem => absurd (h.safe _ hmem) (by decide)

theorem PlainText.feed_not_mem {s : Text} (h : PlainText s) {limit : Int}
    (hfits : Fits limit (oneLine s)) : '\n' ∉ nodeText limit s := by
  have hline : '\n' ∉ oneLine s := h.not_mem_oneLine (.inr rfl) (by decide)
  rw [h.nodeText_eq hfits]
  split
  · simp [hline]
  · exact hline

theorem PlainMark.feed_not_mem {s : Text} (h : PlainMark s) : '\n' ∉ s := by
  intro hmem
  exact absurd (h.spaced _ hmem (by decide)) (by decide)

section Lines

variable {names : List Text} {limit : Int} (graph : Graph)
  (hordinary : ∀ name ∈ names, safeId name ∉ skippedWords)

include hordinary

theorem exists_nodeLine {node : Node} (hid : node.id ∈ names) (h : PlainNode limit node) :
    ∃ line, rowLine graph [] (UniqueIds.addAll safeId names) limit (.node node) = .ok line ∧
      '\n' ∉ line ∧ Line.read line =
        { statements := [(Row.node node).statement graph (UniqueIds.addAll safeId names)] } := by
  obtain ⟨s, hcaption, hs, hfits⟩ := h.worded
  have hident := ident_idOf hid (hordinary _ hid)
  have hshape := shapeOf_mem (graph.kind node.id) node
  have hstatement : (Row.node node).statement graph (UniqueIds.addAll safeId names) =
      { sources := [⟨(UniqueIds.addAll safeId names).idOf node.id, some (oneLine s),
        shapeOf (graph.kind node.id) node⟩] } := by
    rw [Row.statement, mentionOf, hcaption]
    rfl
  rw [hstatement]
  generalize (UniqueIds.addAll safeId names) = ids at *
  have hrow : rowLine graph [] ids limit (.node node) =
      .ok (indented (ids.idOf node.id ++ ((shapeOf (graph.kind node.id) node).opener ++
        (nodeText limit s ++ (shapeOf (graph.kind node.id) node).closer)))) := by
    rw [rowLine, nodeLine, hcaption]
    simp only [List.append_assoc]
    rfl
  generalize shapeOf (graph.kind node.id) node = shape at *
  obtain ⟨hopener, hcloser⟩ := feed_not_mem_shape shape
  refine ⟨_, hrow, ?_, ?_⟩
  · apply feed_not_mem_indented
    simp [hident.feed_not_mem, hopener, hcloser, hs.feed_not_mem hfits]
  · exact hident.read_indented (stops_opener hshape _) (Statement.read?_node hident hs hfits hshape)

theorem exists_edgeLine {source : Text} {outlet : Outlet} {label : Json} (hsource : source ∈ names)
    (htarget : outlet.target ∈ names) (hlabel : PlainLabel limit label)
    (hstyled : Styled outlet) :
    ∃ line, rowLine graph [] (UniqueIds.addAll safeId names) limit
        (.edge source outlet label) = .ok line ∧
      '\n' ∉ line ∧ Line.read line =
        { statements := [(Row.edge source outlet label).statement graph
            (UniqueIds.addAll safeId names)] } := by
  obtain ⟨text, htext, hmark, hname⟩ := exists_label hlabel
  have hs := ident_idOf hsource (hordinary _ hsource)
  have ht := ident_idOf htarget (hordinary _ htarget)
  generalize (UniqueIds.addAll safeId names) = ids at *
  have hrow : rowLine graph [] ids limit (.edge source outlet label) =
      .ok (indented (ids.idOf source ++ (' ' :: arrowOf (drawnStyle outlet) ++
        (bars text ++ ' ' :: ids.idOf outlet.target)))) := by
    have htaken : ([] : List (Text × Text)).contains (source, outlet.target) = false := rfl
    rw [rowLine, edgeLine, htaken, styleOf_eq hstyled, htext]
    simp only [List.append_assoc, List.cons_append]
    rfl
  rw [Row.statement, ← hname]
  have hfeed : '\n' ∉ text := by
    intro hmem
    exact (hmark (List.ne_nil_of_mem hmem)).feed_not_mem hmem
  refine ⟨_, hrow, ?_, ?_⟩
  · apply feed_not_mem_indented
    simp [hs.feed_not_mem, ht.feed_not_mem, feed_not_mem_arrowOf, feed_not_mem_bars hfeed]
  · exact hs.read_indented (stops_cons (by decide) (by decide) _)
      (Statement.read?_edge hs ht hmark (drawnStyle outlet))

theorem exists_line {flow : Flow} {rows : List Row} {row : Row} (h : PlainFlow limit flow)
    (harranged : Arranged flow rows) (hnames : flow.nodeIds ⊆ names) (hrow : row ∈ rows) :
    ∃ line, rowLine graph [] (UniqueIds.addAll safeId names) limit row = .ok line ∧
      '\n' ∉ line ∧ Line.read line =
        { statements := [row.statement graph (UniqueIds.addAll safeId names)] } := by
  cases row with
  | node node =>
      have hnode := harranged.mem_nodes node (mem_definedNodes hrow)
      exact exists_nodeLine graph hordinary (hnames (List.mem_map_of_mem hnode)) (h.nodes node hnode)
  | edge source outlet label =>
      obtain ⟨node, hnode, rfl, hbranch⟩ := harranged.exists_branch hrow
      have houtlet := Node.mem_outlets_of_mem_branches hbranch
      have hplain := h.nodes node hnode
      exact exists_edgeLine graph hordinary (hnames (List.mem_map_of_mem hnode))
        (hnames (h.resolved node hnode outlet houtlet)) (hplain.labelled _ hbranch)
        (hplain.styled outlet houtlet)

end Lines

theorem exists_lines {graph : Graph} {ids : UniqueIds} {limit : Int} {rows : List Row}
    (h : ∀ row ∈ rows, ∃ line, rowLine graph [] ids limit row = .ok line ∧ '\n' ∉ line ∧
      Line.read line = { statements := [row.statement graph ids] }) :
    ∃ lines, rows.mapM (rowLine graph [] ids limit) = .ok lines ∧ (∀ line ∈ lines, '\n' ∉ line) ∧
      ∀ number, statementsOf number lines = .ok (rows.map (Row.statement graph ids)) := by
  induction rows with
  | nil => exact ⟨[], rfl, fun _ hline => absurd hline List.not_mem_nil, fun _ => rfl⟩
  | cons row rows ih =>
      obtain ⟨line, hline, hfeed, hread⟩ := h row List.mem_cons_self
      obtain ⟨lines, hlines, hfeeds, hstatements⟩ :=
        ih fun other hother => h other (List.mem_cons_of_mem _ hother)
      refine ⟨line :: lines, ?_, List.forall_mem_cons.2 ⟨hfeed, hfeeds⟩, ?_⟩
      · rw [List.mapM_cons, hline, hlines]
        rfl
      · intro number
        rw [statementsOf, hread, hstatements]
        rfl

theorem map_id_mentionOf (graph : Graph) (ids : UniqueIds) (rows : List Row) :
    ((definedNodes rows).map (mentionOf graph ids)).map Mention.id =
      (definedIds rows).map ids.idOf := by
  rw [← map_id_definedNodes, List.map_map, List.map_map]
  rfl

theorem Arranged.addMentions_eq {flow : Flow} {rows : List Row} {names : List Text}
    (h : Arranged flow rows) (hnames : definedIds rows ⊆ names) (graph : Graph) :
    addMentions [] ((rows.map (Row.statement graph (UniqueIds.addAll safeId names))).flatMap
      Statement.mentions) =
        (definedNodes rows).map (mentionOf graph (UniqueIds.addAll safeId names)) := by
  induction h with
  | nil => rfl
  | @node rows node _ _ hnew ih =>
      -- The name is new, and no other name was given its id.
      rw [definedIds_append_node] at hnames
      obtain ⟨hknown, hid⟩ := List.append_subset.1 hnames
      have hfresh : (UniqueIds.addAll safeId names).idOf node.id ∉
          ((definedNodes rows).map (mentionOf graph (UniqueIds.addAll safeId names))).map
            Mention.id := by
        rw [map_id_mentionOf]
        intro hmem
        obtain ⟨other, hother, heq⟩ := List.mem_map.1 hmem
        have := UniqueIds.idOf_addAll_injective (hknown hother) (hid List.mem_cons_self) heq
        exact hnew (this ▸ hother)
      rw [List.map_append, List.flatMap_append, addMentions_append, ih hknown,
        definedNodes_append_node, List.map_append]
      exact addMention_of_not_mem hfresh
  | @edge rows node branch _ _ _ hsource htarget ih =>
      -- Both ends are mentioned already, and a mention without a text changes nothing.
      rw [definedIds_append_edge] at hnames
      have hmem : ∀ id ∈ definedIds rows, (UniqueIds.addAll safeId names).idOf id ∈
          ((definedNodes rows).map (mentionOf graph (UniqueIds.addAll safeId names))).map
            Mention.id := by
        intro id hid
        rw [map_id_mentionOf]
        exact List.mem_map_of_mem hid
      rw [List.map_append, List.flatMap_append, addMentions_append, ih hnames,
        definedNodes_append_edge]
      change addMention (addMention _ { id := _ }) { id := _ } = _
      rw [addMention_bare (hmem _ hsource), addMention_bare (hmem _ htarget)]

theorem flatMap_links (graph : Graph) (ids : UniqueIds) (rows : List Row) :
    (rows.map (Row.statement graph ids)).flatMap Statement.links =
      (drawnEdges rows).map (linkOf ids) := by
  induction rows with
  | nil => rfl
  | cons row rows ih =>
      rw [List.map_cons, List.flatMap_cons, ih]
      cases row with
      | node node => rfl
      | edge source outlet label => rfl

end Flowchart.Chart
