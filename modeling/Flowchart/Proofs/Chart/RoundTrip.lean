import Flowchart.Proofs.Chart.Soundness
import Flowchart.Proofs.Chart.Transcript

/-!
# Charts and back

A plain flow that is written as a chart and read again is the same graph under other ids.  Content,
labels and styles of edges stay; titles become the first lines, and shapes are recorded.
-/

namespace Flowchart.Chart

/-- Arrows are what is usual, so only another style is recorded. -/
def styleData (style : EdgeStyle) : Json :=
  if style = .arrow then .null else .obj [("edgeStyle".toList, .str style.name)]

def shapeData (shape : Shape) : Json :=
  if shape = .rectangle then .null else .obj [("shape".toList, .str shape.name)]

def imageOutlet (ids : UniqueIds) (source : Text) (position : Nat) (branch : Outlet × Json) :
    Outlet where
  id := .str (outletId (ids.idOf source) (ids.idOf branch.1.target) position)
  target := ids.idOf branch.1.target
  label := branch.2.orElse .null
  metadata := styleData (drawnStyle branch.1)

def imageNode (graph : Graph) (ids : UniqueIds) (node : Node) : Node where
  id := ids.idOf node.id
  title := .str ((Text.split '\n' (node.caption.text?.getD [])).headD [])
  content := node.caption
  outlets := node.branches.mapIdx (imageOutlet ids node.id)
  metadata := shapeData (shapeOf (graph.kind node.id) node)

def linkOutlet (source : Text) (position : Nat) (link : Link) : Outlet where
  id := .str (outletId source link.target position)
  target := link.target
  label := (Json.ofText? link.label).orElse .null
  metadata := styleData link.style

theorem addLink_eq (node : Node) (link : Link) :
    Sheet.addLink node link =
      { node with outlets := node.outlets ++ [linkOutlet node.id node.outlets.length link] } := rfl

theorem foldl_addLink (links : List Link) (node : Node) :
    links.foldl Sheet.addLink node =
      { node with outlets := node.outlets ++ links.mapIdx fun position link =>
          linkOutlet node.id (node.outlets.length + position) link } := by
  induction links generalizing node with
  | nil => simp
  | cons link links ih =>
      rw [List.foldl_cons, ih, addLink_eq, List.mapIdx_cons]
      simp [Nat.add_assoc, Nat.add_comm 1]

theorem linkOutlet_linkOf {limit : Int} (ids : UniqueIds) (source : Text) (position : Nat)
    {branch : Outlet × Json} (h : PlainLabel limit branch.2) :
    linkOutlet (ids.idOf source) position (linkOf ids (source, branch)) =
      imageOutlet ids source position branch := by
  have hlabel : (Json.ofText? branch.2.name?).orElse .null = branch.2.orElse .null := by
    rcases h with hvoid | ⟨s, hs, hmark, -⟩
    · rw [isVoid_of_name? hvoid, Json.orElse, Json.orElse, if_pos hvoid]
      rfl
    · have hempty : s.isEmpty = false := by simpa using hmark.nonempty
      rw [hs, Json.name?, hempty]
      rfl
  rw [linkOutlet, imageOutlet, ← hlabel]
  rfl

theorem mapIdx_linkOutlet {limit : Int} (ids : UniqueIds) (source : Text)
    {branches : List (Outlet × Json)} (h : ∀ branch ∈ branches, PlainLabel limit branch.2) :
    (branches.map fun branch => linkOf ids (source, branch)).mapIdx
        (linkOutlet (ids.idOf source)) =
      branches.mapIdx (imageOutlet ids source) := by
  rw [List.mapIdx_eq_iff]
  intro position
  rw [List.getElem?_mapIdx, List.getElem?_map]
  cases hbranch : branches[position]? with
  | none => rfl
  | some branch =>
      have hlabel := h branch (List.mem_of_getElem? hbranch)
      exact congrArg some (linkOutlet_linkOf ids source position hlabel).symm

section Image

variable {limit : Int} {flow : Flow} {names : List Text}

theorem filter_links (h : PlainFlow limit flow) (hnames : flow.nodeIds ⊆ names) {node : Node}
    (hnode : node ∈ flow.nodes) :
    ((drawnEdges (rows flow)).map (linkOf (UniqueIds.addAll safeId names))).filter
      (·.source = (UniqueIds.addAll safeId names).idOf node.id) =
        node.branches.map fun branch => linkOf (UniqueIds.addAll safeId names) (node.id, branch) := by
  have harranged := arranged_rows flow
  have hsource : ∀ edge ∈ drawnEdges (rows flow), edge.1 ∈ names := by
    intro edge hedge
    obtain ⟨row, hrow, heq⟩ := List.mem_filterMap.1 hedge
    cases row with
    | node node => cases heq
    | edge source outlet label =>
        obtain ⟨other, hother, rfl, -⟩ := harranged.exists_branch hrow
        cases heq
        exact hnames (List.mem_map_of_mem hother)
  have hsame : ∀ edge ∈ drawnEdges (rows flow),
      decide ((linkOf (UniqueIds.addAll safeId names) edge).source =
        (UniqueIds.addAll safeId names).idOf node.id) = decide (edge.1 = node.id) := by
    intro edge hedge
    rw [decide_eq_decide]
    constructor
    · exact UniqueIds.idOf_addAll_injective (hsource edge hedge)
        (hnames (List.mem_map_of_mem hnode))
    · intro heq
      rw [linkOf, heq]
  rw [List.filter_map]
  change ((drawnEdges (rows flow)).filter fun edge => decide
    ((linkOf (UniqueIds.addAll safeId names) edge).source = _)).map _ = _
  rw [List.filter_congr hsame, filter_drawnEdges_rows h.distinct h.resolved hnode,
    nodeEdges, List.map_map]
  rfl

theorem node_mentionOf (h : PlainFlow limit flow) (hnames : flow.nodeIds ⊆ names) {node : Node}
    (hnode : node ∈ flow.nodes) (graph : Graph) {sheet : Sheet}
    (hlinks : sheet.links = (drawnEdges (rows flow)).map (linkOf (UniqueIds.addAll safeId names))) :
    sheet.node (mentionOf graph (UniqueIds.addAll safeId names) node) =
      imageNode graph (UniqueIds.addAll safeId names) node := by
  obtain ⟨s, hcaption, hs, -⟩ := (h.nodes node hnode).worded
  have htext : Sheet.caption (mentionOf graph (UniqueIds.addAll safeId names) node) =
      ⟨(Text.split '\n' s).headD [], s⟩ := by
    rw [← hs.ofText_oneLine, Sheet.caption, mentionOf, hcaption]
    rfl
  have hkept := filter_links h hnames hnode
  rw [← hlinks] at hkept
  have houtlets := mapIdx_linkOutlet (UniqueIds.addAll safeId names) node.id
    (h.nodes node hnode).labelled
  generalize (UniqueIds.addAll safeId names) = ids at *
  have hbare : sheet.node (mentionOf graph ids node) =
      ((sheet.links.filter (·.source = ids.idOf node.id)).foldl Sheet.addLink
        { id := ids.idOf node.id
          title := .str (Sheet.caption (mentionOf graph ids node)).title
          content := .str (Sheet.caption (mentionOf graph ids node)).content
          metadata := shapeData (shapeOf (graph.kind node.id) node) }) := rfl
  rw [hbare, hkept, foldl_addLink, htext, imageNode, hcaption, ← houtlets]
  simp [Json.text?]

end Image

def framed (direction : Direction) (lines : List Text) : List Text :=
  ("flowchart ".toList ++ direction.name) :: lines

theorem write_eq_framed {style : Style} {flow : Flow} {direction : Direction} {lines : List Text}
    (hhighlight : style.highlight = none) (hdirection : Direction.read style.direction = .ok direction)
    (h : PlainFlow style.limit flow)
    (hlines : (rows flow).mapM (rowLine (Graph.ofFlow flow) []
      (UniqueIds.addAll safeId (definedIds (rows flow))) style.limit) = .ok lines) :
    write style flow = .ok (Text.join ['\n'] (framed direction lines)) := by
  have hfront : frontLines flow = [] := by
    rw [frontLines, Fields.unlessVoid, if_pos h.untitled, Fields.unlessVoid, if_pos h.undescribed]
    rfl
  have hgraph : flow.graph = .ok (Graph.ofFlow flow) :=
    Flow.graph_eq_ok fun node hnode => (h.nodes node hnode).keyed
  simp [write, hdirection, hgraph, hhighlight, hlines, hfront, framed, Except.mapError, bind,
    Except.bind, pure, Except.pure]

theorem splitHeader?_framed (direction : Direction) (lines : List Text) :
    splitHeader? (framed direction lines) = some (direction, lines) := by
  cases direction <;> rfl

theorem frontMatter_framed (direction : Direction) (lines : List Text) :
    FrontMatter.read (Text.join ['\n'] (framed direction lines)) =
      .ok ⟨{}, Text.join ['\n'] (framed direction lines)⟩ := by
  have hhead : (Text.join ['\n'] (framed direction lines)).head? = some 'f' := by
    rw [framed, Text.head?_join (by simp)]
    rfl
  obtain ⟨rest, hrest⟩ := List.head?_eq_some_iff.1 hhead
  have hblock : splitBlock? ('f' :: rest) = none := by
    rw [splitBlock?, Text.trimLeft_cons (by decide)]
    rfl
  rw [hrest, FrontMatter.read, hblock]

theorem read_framed (direction : Direction) {lines : List Text} {statements : List Statement}
    (hfeeds : ∀ line ∈ lines, '\n' ∉ line)
    (hstatements : ∀ number, statementsOf number lines = .ok statements) :
    read (Text.join ['\n'] (framed direction lines)) =
      .ok ((Sheet.ofStatements direction statements).toFlow none none) := by
  have hheader : '\n' ∉ "flowchart ".toList ++ direction.name := by
    cases direction <;> decide
  have hsplit : Text.split '\n' (Text.join ['\n'] (framed direction lines)) =
      framed direction lines :=
    Text.split_join (List.cons_ne_nil _ _) (List.forall_mem_cons.2 ⟨hheader, hfeeds⟩)
  have hsheet : Sheet.read (Text.join ['\n'] (framed direction lines)) =
      .ok (Sheet.ofStatements direction statements) := by
    rw [Sheet.read, layout, hsplit, splitHeader?_framed]
    simp only [hstatements]
    rfl
  rw [read, frontMatter_framed]
  simp only [hsheet]
  rfl

def chartIds (flow : Flow) : UniqueIds := UniqueIds.addAll safeId (definedIds (rows flow))

/-- A plain flow comes back from its chart as the same graph under other ids: the nodes read are
the images of its nodes, each with its outlets in their order, and the direction is kept. -/
theorem read_written (style : Style) (flow : Flow) (direction : Direction)
    (hhighlight : style.highlight = none)
    (hdirection : Direction.read style.direction = .ok direction)
    (h : PlainFlow style.limit flow) :
    ∃ text again, write style flow = .ok text ∧ read text = .ok again ∧
      (∀ id ∈ flow.nodeIds, ∀ other ∈ flow.nodeIds,
        (chartIds flow).idOf id = (chartIds flow).idOf other → id = other) ∧
      again.start = (chartIds flow).idOf flow.start ∧
      again.nodes.Perm (flow.nodes.map (imageNode (Graph.ofFlow flow) (chartIds flow))) ∧
      Fields.get "direction".toList again.metadata.fieldsOf = .str direction.name := by
  have harranged := arranged_rows flow
  have hperm := definedIds_rows_perm h.distinct
  have hnames : flow.nodeIds ⊆ definedIds (rows flow) := hperm.symm.subset
  have hordinary : ∀ name ∈ definedIds (rows flow), safeId name ∉ skippedWords :=
    fun name hname => h.ordinary name (hperm.subset hname)
  obtain ⟨lines, hlines, hfeeds, hstatements⟩ := exists_lines fun row hrow =>
    exists_line (Graph.ofFlow flow) hordinary h harranged hnames hrow
  have hwrite := write_eq_framed hhighlight hdirection h hlines
  have hread := read_framed direction hfeeds hstatements
  have hmentions := harranged.addMentions_eq (List.Subset.refl _) (Graph.ofFlow flow)
  have hlinks := flatMap_links (Graph.ofFlow flow) (chartIds flow) (rows flow)
  refine ⟨_, _, hwrite, hread, ?_, ?_, ?_, rfl⟩
  · exact fun id hid other hother =>
      UniqueIds.idOf_addAll_injective (hnames hid) (hnames hother)
  · rw [Sheet.start_toFlow, ← List.head?_map, Sheet.ofStatements, hmentions, map_id_mentionOf,
      List.head?_map, head?_definedIds_rows h.started]
    rfl
  · refine List.Perm.trans (List.Perm.of_eq ?_)
      ((definedNodes_rows_perm h.distinct).map _)
    change List.map _ (addMentions [] _) = _
    rw [hmentions, List.map_map]
    apply List.map_congr_left
    intro node hnode
    exact node_mentionOf h hnames (harranged.mem_nodes node hnode) (Graph.ofFlow flow) hlinks

def styledOutlet (source target : String) (label : Json) (style : EdgeStyle) : Outlet where
  id := .str (source ++ target).toList
  target := target.toList
  label := label
  metadata := styleData style

/-- A way round with a choice, two ids that look alike once they are safe, and one that is a word of
the notation. The start node comes last. -/
def roundFlow : Flow where
  id := "round".toList
  title := .null
  start := "a b".toList
  nodes :=
    [{ id := "end".toList, title := .str "Stop (for now)".toList },
      { id := "a-b".toList, title := .str "Again?".toList
        content := .str "Done?\nIf not, again".toList
        outlets := [styledOutlet "a-b" "end" .null .thick, styledOutlet "a-b" "a b" .null .dotted] },
      { id := "a b".toList, title := .str "Work".toList
        outlets := [styledOutlet "a b" "a-b" (.str "when it's done".toList) .line] }]

theorem plainFlow_round : PlainFlow 50 roundFlow where
  untitled := rfl
  undescribed := rfl
  distinct := by decide
  ordinary := by decide
  started := by decide
  resolved := by decide
  nodes := by
    intro node hnode
    simp only [roundFlow, List.mem_cons, List.not_mem_nil, or_false] at hnode
    rcases hnode with rfl | rfl | rfl <;>
      exact ⟨⟨_, rfl, by decide, by decide⟩, by decide, by decide, by decide⟩

theorem read_written_round :
    (({} : Style).highlight = none ∧ Direction.read ({} : Style).direction = .ok .td ∧
      PlainFlow ({} : Style).limit roundFlow) ∧
    ∃ text again, write {} roundFlow = .ok text ∧ read text = .ok again ∧
      (∀ id ∈ roundFlow.nodeIds, ∀ other ∈ roundFlow.nodeIds,
        (chartIds roundFlow).idOf id = (chartIds roundFlow).idOf other → id = other) ∧
      again.start = (chartIds roundFlow).idOf roundFlow.start ∧
      again.nodes.Perm
        (roundFlow.nodes.map (imageNode (Graph.ofFlow roundFlow) (chartIds roundFlow))) ∧
      Fields.get "direction".toList again.metadata.fieldsOf = .str Direction.td.name :=
  ⟨⟨rfl, rfl, plainFlow_round⟩, read_written {} roundFlow .td rfl rfl plainFlow_round⟩

end Flowchart.Chart
