import Flowchart.Format
import Flowchart.Proofs.Digraph.Lines
import Flowchart.Proofs.Digraph.Naming
import Flowchart.Proofs.Outcome

/-!
# Drawn flows

What is written for a flow is read line by line: first the looks, then the nodes, then the branches
between them. Ids stand in quotes where they have to. The draft has the nodes and branches of the
flow in their order, with the labels as they come back.
-/

namespace Flowchart.Digraph

/-! ## Flows with edges between their nodes -/

def TextLabel (label : Json) : Prop := label.isVoid = true ∨ ∃ s, label = .str s

instance (label : Json) : Decidable (TextLabel label) :=
  @decidable_of_iff _ _ (or_congr Iff.rfl (exists_congr fun _ => and_iff_left trivial))
    (label.decideLabel fun _ => True)

theorem PlainLabel.textLabel {label : Json} (h : PlainLabel label) : TextLabel label :=
  h.imp_right fun ⟨s, hs, _⟩ => ⟨s, hs⟩

structure WiredNode (node : Node) : Prop where
  nameable : Nameable node.id
  texted : ∃ s, shown node = .str s
  keyed : ∀ outlet ∈ node.outlets, outlet.Keyed
  labelled : ∀ outlet ∈ node.outlets, TextLabel outlet.label

def headName (flow : Flow) : Text :=
  if flow.id.isEmpty then "flowchart".toList else flow.id

/-- A flow whose ids can be written, with nodes at both ends of each outlet that are written as they
are there. -/
structure Wired (flow : Flow) : Prop where
  headed : Headed (headName flow)
  titled : TextLabel flow.title
  distinct : flow.nodeIds.Nodup
  ends : ∀ node ∈ flow.nodes, ∀ outlet ∈ node.outlets,
    outlet.target ∈ flow.nodeIds ∧ ':' ∉ node.id ∧ ':' ∉ outlet.target
  nodes : ∀ node ∈ flow.nodes, WiredNode node

theorem Wired.stands {flow : Flow} (h : Wired flow) {id : Text} (hid : id ∈ flow.nodeIds) :
    Stands (quote id) id := by
  obtain ⟨node, hnode, rfl⟩ := List.mem_map.1 hid
  exact (h.nodes node hnode).nameable.stands

theorem WiredNode.textLabel_branch {node : Node} (h : WiredNode node) {branch : Outlet × Json}
    (hbranch : branch ∈ node.branches) : TextLabel branch.2 := by
  have hlabels := Node.labels_of_branches (p := fun _ => True) trivial trivial
    (fun outlet houtlet => (h.labelled outlet houtlet).imp_right fun ⟨s, hs⟩ => ⟨s, hs, trivial⟩)
  exact (hlabels branch hbranch).imp_right fun ⟨s, hs, _⟩ => ⟨s, hs⟩

/-! ## Pairs as they are written -/

def ownKeys : List Text :=
  ["label".toList, "labelloc".toList, "rankdir".toList, "shape".toList, "style".toList]

structure OwnPair (pair : Text × Text) : Prop where
  key : pair.1 ∈ ownKeys
  value : Readable pair.2

theorem OwnPair.readable {pair : Text × Text} (h : OwnPair pair) : ReadablePair pair where
  key := by
    have hkeys : ∀ key ∈ ownKeys, Word key := by decide
    exact hkeys _ h.key
  value := h.value

theorem reservedIn_eq_none {keys : List Text} (hkeys : ∀ key ∈ ownKeys, key ∉ keys)
    {pairs : List (Text × Text)} (h : ∀ pair ∈ pairs, OwnPair pair) :
    reservedIn keys (pairs.map attributeOf) = none := by
  rw [reservedIn, List.find?_eq_none]
  intro key hkey
  rw [List.map_map] at hkey
  obtain ⟨pair, hpair, rfl⟩ := List.mem_map.1 hkey
  simpa [attributeOf] using hkeys _ (h pair hpair).key

theorem readable_name {s : Text} (h : isName s = true) : Readable s := by
  obtain ⟨hchars, hword⟩ := Word.of_isName h
  intro rest hrest _
  refine value?_word hword (fun c hc => ?_) hrest
  obtain ⟨t, rfl⟩ := List.head?_eq_some_iff.1 hc
  simp only [isName, Bool.and_eq_true] at h
  exact number_of_isNameStart h.1

def labelPairs (label : Json) : List (Text × Text) :=
  (label.name?.map fun s => ("label".toList, writtenLabel s)).toList

theorem ownPair_label (s : Text) : OwnPair ("label".toList, writtenLabel s) :=
  ⟨List.mem_cons_self, readable_writtenLabel s⟩

theorem ownPair_labelPairs (label : Json) : ∀ pair ∈ labelPairs label, OwnPair pair := by
  intro pair hpair
  rw [labelPairs, Option.mem_toList, Option.map_eq_some_iff] at hpair
  obtain ⟨s, -, rfl⟩ := hpair
  exact ownPair_label s

/-- A label as it comes back. -/
def misreadLabel : Json → Json
  | .str s => .str (misread s)
  | label => label

theorem TextLabel.cases {label : Json} (h : TextLabel label) :
    label.isVoid = true ∧ label.name? = none ∨
      ∃ s, label = .str s ∧ label.isVoid = false ∧ label.name? = some s ∧ s ≠ [] := by
  cases hvoid : label.isVoid with
  | true =>
      refine .inl ⟨rfl, ?_⟩
      cases label <;> simp_all [Json.isVoid, Json.name?]
  | false =>
      rcases h with h | ⟨s, rfl⟩
      · simp [h] at hvoid
      · have hempty : s.isEmpty = false := hvoid
        exact .inr ⟨s, rfl, rfl, by simp [Json.name?, hempty], by simpa using hempty⟩

theorem misread_eq_nil_iff {s : Text} : misread s = [] ↔ s = [] := by
  fun_induction misread s <;> simp_all

theorem isVoid_misreadLabel (label : Json) : (misreadLabel label).isVoid = label.isVoid := by
  cases label with
  | str s =>
      have hempty : (misread s).isEmpty = s.isEmpty := by
        rw [Bool.eq_iff_iff, List.isEmpty_iff, List.isEmpty_iff, misread_eq_nil_iff]
      exact hempty
  | null | bool | int | float | arr | obj => rfl

theorem TextLabel.ofText?_misread {label : Json} (h : TextLabel label) :
    (Json.ofText? (label.name?.map misread)).orElse .null = (misreadLabel label).orElse .null := by
  rcases h.cases with ⟨hvoid, hname⟩ | ⟨s, rfl, hvoid, hname, -⟩
  · rw [hname, Json.orElse, Json.orElse, isVoid_misreadLabel, hvoid]
    rfl
  · rw [hname]
    rfl

theorem labelOf_labelPairs {label : Json} (h : TextLabel label) :
    labelOf ((labelPairs label).map attributeOf) = label.name?.map misread := by
  rcases h.cases with ⟨-, hname⟩ | ⟨s, -, -, hname, hne⟩
  · rw [labelPairs, hname]
    rfl
  · rw [labelPairs, hname]
    exact labelText_misread hne

/-! ## Lines of a flow -/

def wordOf (node : Node) : Text := (shown node).text?.getD []

def lookPairs (graph : Graph) (node : Node) : List (Text × Text) :=
  if graph.kind node.id = .decision then
    [("shape".toList, "diamond".toList), ("style".toList, ['"', '"'])]
  else []

def nodePairs (graph : Graph) (node : Node) : List (Text × Text) :=
  ("label".toList, writtenLabel (wordOf node)) :: lookPairs graph node

def nodeEntry (graph : Graph) (node : Node) : Text × Statement :=
  ('\t' :: quote node.id ++ attributes (nodePairs graph node),
    .node (quote node.id) ((nodePairs graph node).map attributeOf))

def edgeEntry (branch : Text × Outlet × Json) : Text × Statement :=
  ('\t' :: quote branch.1 ++ " -> ".toList ++ quote branch.2.1.target ++
      optional (labelPairs branch.2.2),
    .edges (.node (quote branch.1) []) [.node (quote branch.2.1.target) []]
      ((labelPairs branch.2.2).map attributeOf))

def ownBranches (node : Node) : List (Text × Outlet × Json) := node.branches.map (node.id, ·)

def graphPairs (flow : Flow) : List (Text × Text) :=
  (flow.title.name?.map fun s =>
      [("label".toList, writtenLabel s), ("labelloc".toList, ['t'])]).getD [] ++
    [("rankdir".toList, "TB".toList)]

def nodeDefaults : List (Text × Text) :=
  [("shape".toList, "box".toList), ("style".toList, "rounded".toList)]

def headEntries (flow : Flow) : List (Text × Statement) :=
  [('\t' :: Subject.graph.word ++ attributes (graphPairs flow),
      .defaults .graph ((graphPairs flow).map attributeOf)),
    ('\t' :: Subject.node.word ++ attributes nodeDefaults,
      .defaults .node (nodeDefaults.map attributeOf))]

def entries (flow : Flow) : List (Text × Statement) :=
  headEntries flow ++ flow.nodes.map (nodeEntry (Graph.ofFlow flow)) ++
    (flow.nodes.flatMap ownBranches).map edgeEntry

theorem ownPair_name {key value : Text} (hkey : key ∈ ownKeys) (hvalue : isName value = true) :
    OwnPair (key, value) :=
  ⟨hkey, readable_name hvalue⟩

theorem ownPair_nodePairs (graph : Graph) (node : Node) :
    ∀ pair ∈ nodePairs graph node, OwnPair pair := by
  rw [nodePairs, List.forall_mem_cons]
  refine ⟨ownPair_label _, ?_⟩
  unfold lookPairs
  split
  · simp only [List.forall_mem_cons]
    exact ⟨ownPair_name (by decide) (by decide), ⟨by decide, readable_writtenLabel []⟩,
      fun _ h => absurd h List.not_mem_nil⟩
  · exact fun _ h => absurd h List.not_mem_nil

theorem ownPair_graphPairs (flow : Flow) : ∀ pair ∈ graphPairs flow, OwnPair pair := by
  rw [graphPairs, List.forall_mem_append]
  constructor
  · cases flow.title.name? with
    | none => exact fun _ h => absurd h List.not_mem_nil
    | some s =>
        simp only [Option.map_some, Option.getD_some, List.forall_mem_cons]
        exact ⟨ownPair_label s, ownPair_name (by decide) (by decide),
          fun _ h => absurd h List.not_mem_nil⟩
  · rw [List.forall_mem_singleton]
    exact ownPair_name (by decide) (by decide)

theorem exists_branch {flow : Flow} (h : Wired flow) {branch : Text × Outlet × Json}
    (hbranch : branch ∈ flow.nodes.flatMap ownBranches) :
    branch.1 ∈ flow.nodeIds ∧ branch.2.1.target ∈ flow.nodeIds ∧ TextLabel branch.2.2 := by
  obtain ⟨node, hnode, hmem⟩ := List.mem_flatMap.1 hbranch
  obtain ⟨own, hown, rfl⟩ := List.mem_map.1 hmem
  exact ⟨List.mem_map_of_mem hnode,
    (h.ends node hnode own.1 (Node.mem_outlets_of_mem_branches hown)).1,
    (h.nodes node hnode).textLabel_branch hown⟩

theorem ownPair_nodeDefaults : ∀ pair ∈ nodeDefaults, OwnPair pair := by
  simp only [nodeDefaults, List.forall_mem_cons]
  exact ⟨ownPair_name (by decide) (by decide), ownPair_name (by decide) (by decide),
    fun _ h => absurd h List.not_mem_nil⟩

theorem reads_entries {flow : Flow} (h : Wired flow) :
    ∀ entry ∈ entries flow, Reads entry.1 entry.2 := by
  have hpair : ∀ {pairs : List (Text × Text)}, (∀ pair ∈ pairs, OwnPair pair) →
      ∀ pair ∈ pairs, ReadablePair pair := fun hown pair hpair => (hown pair hpair).readable
  rw [entries, List.forall_mem_append, List.forall_mem_append]
  refine ⟨⟨?_, ?_⟩, ?_⟩
  · rw [headEntries, List.forall_mem_cons, List.forall_mem_singleton]
    exact ⟨reads_defaults (by simp [graphPairs]) (hpair (ownPair_graphPairs flow)) .graph,
      reads_defaults (List.cons_ne_nil _ _) (hpair ownPair_nodeDefaults) .node⟩
  · rw [List.forall_mem_map]
    intro node hnode
    exact reads_node (List.cons_ne_nil _ _) (hpair (ownPair_nodePairs _ node))
      (h.nodes node hnode).nameable.stands.toNamed
  · rw [List.forall_mem_map]
    intro branch hbranch
    obtain ⟨hsource, htarget, -⟩ := exists_branch h hbranch
    exact reads_edge (h.stands hsource).toNamed (h.stands htarget).toNamed
      (hpair (ownPair_labelPairs branch.2.2))

/-! ## The text of a digraph -/

theorem nodeLine_eq {node : Node} (h : WiredNode node) (graph : Graph) :
    nodeLine graph node = .ok (nodeEntry graph node).1 := by
  obtain ⟨s, hs⟩ := h.texted
  have hword : wordOf node = s := by
    rw [wordOf, hs]
    rfl
  rw [shown] at hs
  rw [nodeLine, hs, nodeEntry, nodePairs, hword]
  rfl

theorem edgeLine_eq {source : Text} (hsource : ':' ∉ source) {branch : Outlet × Json}
    (htarget : ':' ∉ branch.1.target) (hlabel : TextLabel branch.2) :
    edgeLine source branch = .ok (edgeEntry (source, branch)).1 := by
  rcases hlabel.cases with ⟨hvoid, hname⟩ | ⟨s, hs, hvoid, hname, -⟩
  · simp [edgeLine, edgeEntry, labelPairs, hname, hvoid, quoteTerminal_eq_quote hsource,
      quoteTerminal_eq_quote htarget, optional, bind, Except.bind, pure, Except.pure]
  · have hvalue : labelValue branch.2 = .ok (writtenLabel s) := by
      rw [hs]
      rfl
    simp [edgeLine, edgeEntry, labelPairs, hname, hvoid, quoteTerminal_eq_quote hsource,
      quoteTerminal_eq_quote htarget, optional, bind, Except.bind, pure, Except.pure, hvalue,
      Except.map]

theorem titlePairs_eq {flow : Flow} (h : TextLabel flow.title) :
    titlePairs flow = .ok ((flow.title.name?.map fun s =>
      [("label".toList, writtenLabel s), ("labelloc".toList, ['t'])]).getD []) := by
  rcases h.cases with ⟨hvoid, hname⟩ | ⟨s, hs, hvoid, hname, -⟩
  · simp [titlePairs, hvoid, hname]
  · have hvalue : labelValue flow.title = .ok (writtenLabel s) := by
      rw [hs]
      rfl
    simp [titlePairs, hvoid, hname, hvalue, Except.map]

theorem flatMap_feeds (first : Text) (lines : List Text) :
    (first :: lines ++ [['\x7d']]).flatMap (· ++ ['\n']) = first ++ block lines := by
  induction lines generalizing first with
  | nil => simp [block]
  | cons line lines ih =>
      have hrest := ih line
      rw [List.cons_append] at hrest
      rw [List.cons_append, List.flatMap_cons, List.cons_append, hrest]
      simp [block]

def drawnText (flow : Flow) : Text :=
  "digraph ".toList ++ quote (headName flow) ++ " \x7b".toList ++
    block ((entries flow).map Prod.fst)

theorem Wired.write_eq {flow : Flow} (h : Wired flow) :
    write ({} : Options).direction flow = .ok (drawnText flow) := by
  have hgraph : flow.graph = .ok (Graph.ofFlow flow) :=
    Flow.graph_eq_ok fun node hnode => (h.nodes node hnode).keyed
  have hnodes : flow.nodes.mapM (nodeLine (Graph.ofFlow flow)) =
      .ok (flow.nodes.map fun node => (nodeEntry (Graph.ofFlow flow) node).1) :=
    mapM_eq_ok fun node hnode => nodeLine_eq (h.nodes node hnode) _
  have hedges : flow.nodes.mapM edgeLines =
      .ok (flow.nodes.map fun node =>
        (ownBranches node).map fun branch => (edgeEntry branch).1) := by
    refine mapM_eq_ok fun node hnode => ?_
    rw [ownBranches, List.map_map]
    refine mapM_eq_ok fun branch hbranch => ?_
    obtain ⟨-, hsource, htarget⟩ :=
      h.ends node hnode branch.1 (Node.mem_outlets_of_mem_branches hbranch)
    exact edgeLine_eq hsource htarget ((h.nodes node hnode).textLabel_branch hbranch)
  have hdirection : quote (rankDirection ({} : Options).direction) = "TB".toList := by decide
  have htext : _ = drawnText flow :=
    flatMap_feeds ("digraph ".toList ++ quote (headName flow) ++ " \x7b".toList)
      ((entries flow).map Prod.fst)
  have hdefaults : "\tnode [shape=box style=rounded]".toList =
      '\t' :: Subject.node.word ++ attributes nodeDefaults := by decide
  have hbranches :
      (flow.nodes.map fun node =>
        (ownBranches node).map fun branch => (edgeEntry branch).1).flatten =
        ((flow.nodes.flatMap ownBranches).map edgeEntry).map Prod.fst := by
    rw [List.map_map, List.map_flatMap]
    rfl
  rw [← htext, write, titlePairs_eq h.titled, hgraph]
  simp only [hdirection, hnodes, hedges, bind, Except.bind, pure, Except.pure,
    hbranches, hdefaults, entries, headEntries, graphPairs, List.map_append, List.map_map]
  rfl

/-! ## What is drafted -/

def drawingOf (flow : Flow) : Drawing :=
  ⟨"digraph".toList, some (headWord (headName flow)), (entries flow).map Prod.snd⟩

theorem WiredNode.wordOf_ne_nil {node : Node} (h : WiredNode node) : wordOf node ≠ [] := by
  obtain ⟨s, hs⟩ := h.texted
  rw [wordOf, hs]
  rintro rfl
  rw [shown, Json.orElse] at hs
  split at hs
  · exact h.nameable.nonempty (Json.str.inj hs)
  · rename_i hcaption
    exact hcaption (by rw [hs]; rfl)

theorem labelOf_nodePairs {node : Node} (h : WiredNode node) (graph : Graph) :
    labelOf ((nodePairs graph node).map attributeOf) = some (misread (wordOf node)) := by
  have hvalue : valueOf "label".toList ((nodePairs graph node).map attributeOf) =
      some (writtenLabel (wordOf node)) := by
    rw [nodePairs, lookPairs]
    split <;> rfl
  rw [labelOf, hvalue, labelText_misread h.wordOf_ne_nil]

theorem statements_drawingOf (flow : Flow) :
    (drawingOf flow).statements = (headEntries flow).map Prod.snd ++
      (flow.nodes.map fun node =>
        .node (quote node.id) ((nodePairs (Graph.ofFlow flow) node).map attributeOf)) ++
      ((flow.nodes.flatMap ownBranches).map fun branch =>
        .edges (.node (quote branch.1) []) [.node (quote branch.2.1.target) []]
          ((labelPairs branch.2.2).map attributeOf)) := by
  change (entries flow).map Prod.snd = _
  rw [entries, List.map_append, List.map_append, List.map_map, List.map_map]
  rfl

theorem Wired.draft_drawingOf {flow : Flow} (h : Wired flow) :
    (drawingOf flow).draft =
      { nodes := flow.nodes.map fun node => (node.id, some (misread (wordOf node)))
        links := (flow.nodes.flatMap ownBranches).map fun branch =>
          ⟨branch.1, branch.2.1.target, branch.2.2.name?.map misread⟩ } := by
  -- Defaults name no node. The nodes come first, so the edges find both of their ends.
  have hhead : Draft.addStatements {} ((headEntries flow).map Prod.snd) = {} := rfl
  have hnodes := Draft.addStatements_nodes (fun node => quote node.id) Node.id
    (fun node => (nodePairs (Graph.ofFlow flow) node).map attributeOf)
    (fun node hnode => (h.nodes node hnode).nameable.stands) h.distinct {}
    fun _ _ => List.not_mem_nil
  have hlabels : (flow.nodes.map fun node =>
      (node.id, labelOf ((nodePairs (Graph.ofFlow flow) node).map attributeOf))) =
        flow.nodes.map fun node => (node.id, some (misread (wordOf node))) :=
    List.map_congr_left fun node hnode => by rw [labelOf_nodePairs (h.nodes node hnode)]
  have hnames : (flow.nodes.map fun node => (node.id, some (misread (wordOf node)))).map Prod.fst =
      flow.nodeIds := by
    rw [List.map_map]
    rfl
  have hedges := Draft.addStatements_edges (fun branch => (quote branch.1, branch.1))
    (fun branch => (quote branch.2.1.target, branch.2.1.target))
    (fun branch => (labelPairs branch.2.2).map attributeOf)
    (fun branch hbranch => ⟨h.stands (exists_branch h hbranch).1,
      h.stands (exists_branch h hbranch).2.1⟩)
    ⟨flow.nodes.map fun node => (node.id, some (misread (wordOf node))), []⟩
    (fun branch hbranch => by
      rw [Draft.names, hnames]
      exact ⟨(exists_branch h hbranch).1, (exists_branch h hbranch).2.1⟩)
  rw [Drawing.draft, statements_drawingOf, Draft.addStatements_append,
    Draft.addStatements_append, hhead, hnodes, hlabels, List.nil_append, hedges, List.nil_append]
  congr 1
  refine List.map_congr_left fun branch hbranch => ?_
  rw [labelOf_labelPairs (exists_branch h hbranch).2.2]

theorem reservedInAll?_eq_none {statements : List Statement}
    (h : ∀ statement ∈ statements, reserved? statement = none) :
    reservedInAll? statements = none := by
  induction statements with
  | nil => rfl
  | cons statement statements ih =>
      obtain ⟨hstatement, hstatements⟩ := List.forall_mem_cons.1 h
      rw [reservedInAll?, hstatement, ih hstatements]
      rfl

theorem reserved?_drawingOf (flow : Flow) :
    reservedInAll? (drawingOf flow).statements = none := by
  have hnodes : ∀ key ∈ ownKeys, key ∉ reservedInNodes := by decide
  have hedges : ∀ key ∈ ownKeys, key ∉ reservedInEdges := by decide
  refine reservedInAll?_eq_none ?_
  rw [statements_drawingOf, List.forall_mem_append, List.forall_mem_append]
  refine ⟨⟨?_, ?_⟩, ?_⟩
  · rw [headEntries, List.map_cons, List.map_singleton, List.forall_mem_cons,
      List.forall_mem_singleton]
    exact ⟨reservedIn_eq_none hnodes (ownPair_graphPairs flow),
      reservedIn_eq_none hnodes ownPair_nodeDefaults⟩
  · rw [List.forall_mem_map]
    exact fun node _ => reservedIn_eq_none hnodes (ownPair_nodePairs _ node)
  · rw [List.forall_mem_map]
    exact fun branch _ => reservedIn_eq_none hedges (ownPair_labelPairs branch.2.2)

theorem labelOf_graphPairs {flow : Flow} (h : TextLabel flow.title) :
    labelOf ((graphPairs flow).map attributeOf) = flow.title.name?.map misread := by
  rcases h.cases with ⟨-, hname⟩ | ⟨s, -, -, hname, hne⟩
  · rw [graphPairs, hname]
    rfl
  · rw [graphPairs, hname]
    exact labelText_misread hne

theorem filterMap_statements {β : Type} {pick : Statement → Option β} {flow : Flow} (h : Wired flow)
    (hnode : ∀ id attributes, isSubject id = false → pick (.node id attributes) = none)
    (hedges : ∀ first others attributes, pick (.edges first others attributes) = none) :
    (drawingOf flow).statements.filterMap pick =
      ((headEntries flow).map Prod.snd).filterMap pick := by
  have hnodes : (flow.nodes.map fun node => Statement.node (quote node.id)
      ((nodePairs (Graph.ofFlow flow) node).map attributeOf)).filterMap pick = [] := by
    rw [List.filterMap_eq_nil_iff, List.forall_mem_map]
    exact fun node hmem => hnode _ _ (h.nodes node hmem).nameable.stands.ordinary
  have hbranches : ((flow.nodes.flatMap ownBranches).map fun branch =>
      Statement.edges (.node (quote branch.1) []) [.node (quote branch.2.1.target) []]
        ((labelPairs branch.2.2).map attributeOf)).filterMap pick = [] := by
    rw [List.filterMap_eq_nil_iff, List.forall_mem_map]
    exact fun branch _ => hedges _ _ _
  rw [statements_drawingOf, List.filterMap_append, List.filterMap_append, hnodes, hbranches,
    List.append_nil, List.append_nil]

theorem Wired.label_drawingOf {flow : Flow} (h : Wired flow) :
    (drawingOf flow).label = flow.title.name?.map misread := by
  have hassigned : (drawingOf flow).assignedLabel = none := by
    rw [Drawing.assignedLabel, filterMap_statements h]
    · rfl
    · exact fun _ _ _ => rfl
    · exact fun _ _ _ => rfl
  have hdefault : (drawingOf flow).defaultLabel = flow.title.name?.map misread := by
    rw [Drawing.defaultLabel, filterMap_statements h]
    · exact labelOf_graphPairs h.titled
    · intro id attributes hid
      refine if_neg ?_
      rintro rfl
      exact absurd hid (by decide)
    · exact fun _ _ _ => rfl
  rw [Drawing.label, hassigned, hdefault]
  rcases h.titled.cases with ⟨-, hname⟩ | ⟨s, -, -, hname, hne⟩
  · rw [hname]
    rfl
  · simp [hname, Option.filter, misread_eq_nil_iff, hne]

theorem Wired.links_of_node {flow : Flow} (h : Wired flow) {node : Node}
    (hnode : node ∈ flow.nodes) :
    (drawingOf flow).draft.links.filter (·.source = node.id) =
      node.branches.map fun branch =>
        ⟨node.id, branch.1.target, branch.2.name?.map misread⟩ := by
  have hown : (flow.nodes.flatMap ownBranches).filter (fun branch => branch.1 = node.id) =
      ownBranches node := by
    refine Node.filter_flatMap_own (fun other branch hbranch => ?_) h.distinct hnode
    obtain ⟨own, -, rfl⟩ := List.mem_map.1 hbranch
    rfl
  rw [h.draft_drawingOf, List.filter_map]
  refine (congrArg (List.map _) hown).trans ?_
  rw [ownBranches, List.map_map]
  rfl

theorem Wired.read_drawnText {flow : Flow} (h : Wired flow) :
    read (drawnText flow) = .ok (drawingOf flow).toFlow := by
  have hdrawings : drawings (drawnText flow) = [drawingOf flow] :=
    drawings_block h.headed.heading (reads_entries h)
  rw [read, hdrawings]
  simp only [List.flatMap_cons, List.flatMap_nil, List.append_nil, reserved?_drawingOf]

/-! ## The flow that comes back -/

def imageOf (flow : Flow) : Text → Text :=
  (UniqueIds.addAll UniqueIds.sanitize flow.nodeIds).idOf

theorem imageOf_injective {flow : Flow} {id other : Text} (hid : id ∈ flow.nodeIds)
    (hother : other ∈ flow.nodeIds) (h : imageOf flow id = imageOf flow other) : id = other :=
  UniqueIds.idOf_addAll_injective hid hother h

namespace Wired

variable {flow : Flow} (h : Wired flow)

include h

theorem names_draft : (drawingOf flow).draft.names = flow.nodeIds := by
  rw [Draft.names, h.draft_drawingOf, List.map_map]
  rfl

theorem nodes_toFlow : (drawingOf flow).toFlow.nodes = flow.nodes.map fun node =>
    (drawingOf flow).draft.node (UniqueIds.addAll UniqueIds.sanitize flow.nodeIds) node.id
      (some (misread (wordOf node))) := by
  have hids : (drawingOf flow).draft.idsOf =
      UniqueIds.addAll UniqueIds.sanitize flow.nodeIds := by
    rw [← h.names_draft]
    rfl
  change (drawingOf flow).draft.nodes.map _ = _
  rw [hids, h.draft_drawingOf, List.map_map]
  rfl

theorem nodeIds_toFlow : (drawingOf flow).toFlow.nodeIds = flow.nodeIds.map (imageOf flow) := by
  rw [Flow.nodeIds, h.nodes_toFlow, List.map_map, Flow.nodeIds, List.map_map]
  exact List.map_congr_left fun node _ => Draft.id_node ..

theorem contents_toFlow :
    (drawingOf flow).toFlow.nodes.map Node.content =
      flow.nodes.map fun node => .str (Caption.ofText (misread (wordOf node))).content := by
  rw [h.nodes_toFlow, List.map_map]
  refine List.map_congr_left fun node hnode => ?_
  rw [Function.comp_apply, Draft.content_node, Draft.caption]
  simp [Option.filter, misread_eq_nil_iff, (h.nodes node hnode).wordOf_ne_nil]

theorem outlets_toFlow :
    ((drawingOf flow).toFlow.nodes.map fun node =>
      node.outlets.map fun outlet => (outlet.target, outlet.label)) =
        flow.nodes.map fun node => node.branches.map fun branch =>
          (imageOf flow branch.1.target, (misreadLabel branch.2).orElse .null) := by
  rw [h.nodes_toFlow, List.map_map]
  refine List.map_congr_left fun node hnode => ?_
  rw [Function.comp_apply, Draft.outlets_node, h.links_of_node hnode, List.map_map]
  refine List.map_congr_left fun branch hbranch => ?_
  rw [Function.comp_apply, ((h.nodes node hnode).textLabel_branch hbranch).ofText?_misread]
  rfl

theorem title_toFlow :
    (drawingOf flow).toFlow.title =
      (misreadLabel flow.title).orElse (.str "DOT Digraph".toList) := by
  have htitle : (drawingOf flow).toFlow.title =
      .str ((drawingOf flow).label.getD "DOT Digraph".toList) := rfl
  rw [htitle, h.label_drawingOf, Json.orElse, isVoid_misreadLabel]
  rcases h.titled.cases with ⟨hvoid, hname⟩ | ⟨s, hs, hvoid, hname, -⟩
  · rw [hname, hvoid]
    rfl
  · rw [hname, hvoid, hs]
    rfl

end Wired

end Flowchart.Digraph
