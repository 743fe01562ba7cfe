import Flowchart.Proofs.Chart.Composition
import Flowchart.Proofs.Chart.Contents

/-!
# Emphasis

Edges between some pairs of nodes may be drawn thick.  Charts that differ in nothing else are
refused alike, or read as flows that differ in nothing but the style of the outlets between those
pairs.
-/

namespace Flowchart.Chart

section Emphasis

variable (pairs : List (Text × Text))

def emphasizeLink (link : Link) : Link :=
  if (link.source, link.target) ∈ pairs then { link with style := .thick } else link

def emphasizeNode (node : Node) : Node where
  __ := node
  outlets := node.outlets.map fun outlet =>
    if (node.id, outlet.target) ∈ pairs then { outlet with metadata := styleData .thick } else outlet

/-- The flow in which the outlets between some pairs of nodes are thick. -/
def emphasize (flow : Flow) : Flow := { flow with nodes := flow.nodes.map (emphasizeNode pairs) }

def Sheet.emphasize (sheet : Sheet) : Sheet :=
  { sheet with links := sheet.links.map (emphasizeLink pairs) }

@[simp] theorem source_emphasizeLink (link : Link) :
    (emphasizeLink pairs link).source = link.source := by
  unfold emphasizeLink
  split <;> rfl

theorem linkOutlet_emphasizeLink (position : Nat) (link : Link) :
    linkOutlet link.source position (emphasizeLink pairs link) =
      if (link.source, link.target) ∈ pairs then
        { linkOutlet link.source position link with metadata := styleData .thick }
      else linkOutlet link.source position link := by
  unfold emphasizeLink
  split <;> rfl

theorem addLink_emphasizeLink {node : Node} {link : Link} (h : link.source = node.id) :
    Sheet.addLink (emphasizeNode pairs node) (emphasizeLink pairs link) =
      emphasizeNode pairs (Sheet.addLink node link) := by
  have hid : (emphasizeNode pairs node).id = node.id := rfl
  have hlength : (emphasizeNode pairs node).outlets.length = node.outlets.length :=
    List.length_map _
  rw [addLink_eq, addLink_eq, hid, hlength, ← h, linkOutlet_emphasizeLink]
  simp [emphasizeNode, linkOutlet, h]

theorem foldl_emphasizeLink {links : List Link} {node : Node}
    (h : ∀ link ∈ links, link.source = node.id) :
    (links.map (emphasizeLink pairs)).foldl Sheet.addLink (emphasizeNode pairs node) =
      emphasizeNode pairs (links.foldl Sheet.addLink node) := by
  induction links generalizing node with
  | nil => rfl
  | cons link links ih =>
      obtain ⟨hlink, hlinks⟩ := List.forall_mem_cons.1 h
      rw [List.map_cons, List.foldl_cons, List.foldl_cons, addLink_emphasizeLink pairs hlink]
      exact ih hlinks

theorem node_emphasize (sheet : Sheet) (mention : Mention) :
    (sheet.emphasize pairs).node mention = emphasizeNode pairs (sheet.node mention) := by
  have hkept : (sheet.links.map (emphasizeLink pairs)).filter (·.source = mention.id) =
      (sheet.links.filter (·.source = mention.id)).map (emphasizeLink pairs) := by
    rw [List.filter_map]
    simp [Function.comp_def]
  obtain ⟨bare, hid, houtlets, hnode⟩ : ∃ bare : Node, bare.id = mention.id ∧ bare.outlets = [] ∧
      ∀ sheet : Sheet, sheet.node mention =
        (sheet.links.filter (·.source = mention.id)).foldl Sheet.addLink bare :=
    ⟨_, rfl, rfl, fun _ => rfl⟩
  have hsources : ∀ link ∈ sheet.links.filter (·.source = mention.id), link.source = bare.id :=
    fun link hlink => by simpa [hid] using (List.mem_filter.1 hlink).2
  have hbare : emphasizeNode pairs bare = bare := by
    rw [emphasizeNode, houtlets, List.map_nil, ← houtlets]
  rw [hnode, hnode, Sheet.emphasize, hkept, ← foldl_emphasizeLink pairs hsources, hbare]

theorem toFlow_emphasize (sheet : Sheet) (title description : Option Text) :
    (sheet.emphasize pairs).toFlow title description =
      emphasize pairs (sheet.toFlow title description) := by
  have hnodes : sheet.mentions.map (sheet.emphasize pairs).node =
      (sheet.mentions.map sheet.node).map (emphasizeNode pairs) := by
    rw [List.map_map]
    exact List.map_congr_left fun mention _ => node_emphasize pairs sheet mention
  exact congrArg (fun nodes : List Node => { sheet.toFlow title description with nodes := nodes })
    hnodes

/-- The same mentions, and the same links up to emphasis. -/
structure Statement.Emphasized (statement statement' : Statement) : Prop where
  mentions : statement'.mentions = statement.mentions
  links : statement'.links = statement.links.map (emphasizeLink pairs)

structure Line.Emphasized (line line' : Line) : Prop where
  ending : line'.ending = line.ending
  statements : List.Forall₂ (Statement.Emphasized pairs) line.statements line'.statements

variable {pairs}

section Statements

variable {statements statements' : List Statement}
  (h : List.Forall₂ (Statement.Emphasized pairs) statements statements')

include h

theorem mentions_emphasized :
    statements'.flatMap Statement.mentions = statements.flatMap Statement.mentions := by
  induction h with
  | nil => rfl
  | cons hstatement _ ih => rw [List.flatMap_cons, List.flatMap_cons, hstatement.mentions, ih]

theorem links_emphasized :
    statements'.flatMap Statement.links =
      (statements.flatMap Statement.links).map (emphasizeLink pairs) := by
  induction h with
  | nil => rfl
  | cons hstatement _ ih =>
      rw [List.flatMap_cons, List.flatMap_cons, List.map_append, hstatement.links, ih]

theorem ofStatements_emphasized (direction : Direction) :
    Sheet.ofStatements direction statements' =
      (Sheet.ofStatements direction statements).emphasize pairs := by
  rw [Sheet.ofStatements, Sheet.ofStatements, Sheet.emphasize, mentions_emphasized h,
    links_emphasized h]

end Statements

theorem statementsOf_emphasized {lines lines' : List Text}
    (h : List.Forall₂ (fun s s' => Line.Emphasized pairs (Line.read s) (Line.read s')) lines lines')
    (number : Nat) :
    (∃ broken, statementsOf number lines = .error broken ∧
        statementsOf number lines' = .error broken) ∨
      ∃ statements statements', statementsOf number lines = .ok statements ∧
        statementsOf number lines' = .ok statements' ∧
        List.Forall₂ (Statement.Emphasized pairs) statements statements' := by
  induction h generalizing number with
  | nil => exact .inr ⟨[], [], rfl, rfl, .nil⟩
  | @cons s s' lines lines' hline _ ih =>
      rw [statementsOf, statementsOf, hline.ending]
      split
      · exact .inl ⟨_, rfl, rfl⟩
      · rcases ih (number + 1) with ⟨broken, hbroken, hbroken'⟩ |
          ⟨statements, statements', hstatements, hstatements', hrest⟩
        · exact .inl ⟨broken, by rw [hbroken], by rw [hbroken']⟩
        · exact .inr ⟨_, _, by rw [hstatements], by rw [hstatements'],
            List.rel_append hline.statements hrest⟩

theorem statementsOf_quiet {below : List Text} (h : ∀ line ∈ below, Line.read line = {})
    (number : Nat) : statementsOf number below = .ok [] := by
  induction below generalizing number with
  | nil => rfl
  | cons line below ih =>
      obtain ⟨hline, hbelow⟩ := List.forall_mem_cons.1 h
      rw [statementsOf, hline, ih hbelow]
      rfl

/-- Lines with emphasis, and lines below them that say nothing, leave all else as it is. -/
theorem read_emphasized (flow : Flow) (direction : Direction) {lines lines' below : List Text}
    (hfeeds : ∀ line ∈ lines, '\n' ∉ line) (hfeeds' : ∀ line ∈ lines' ++ below, '\n' ∉ line)
    (h : List.Forall₂ (fun s s' => Line.Emphasized pairs (Line.read s) (Line.read s')) lines lines')
    (hbelow : ∀ line ∈ below, Line.read line = {}) :
    read (Text.join ['\n'] (frontLines flow ++ framed direction (lines' ++ below))) =
      (read (Text.join ['\n'] (frontLines flow ++ framed direction lines))).map
        (emphasize pairs) := by
  rcases read_cases flow with ⟨fault, hfault⟩ | ⟨number, texts, hread⟩
  · rw [hfault, hfault]
    rfl
  · rw [hread direction _ hfeeds', hread direction _ hfeeds, statementsOf_append]
    rcases statementsOf_emphasized h number with ⟨broken, hbroken, hbroken'⟩ |
      ⟨statements, statements', hstatements, hstatements', hrel⟩
    · rw [hbroken, hbroken']
      rfl
    · rw [hstatements, hstatements', statementsOf_quiet hbelow]
      simp only [Except.map, List.append_nil, ofStatements_emphasized hrel direction]
      cases texts with
      | error fault => rfl
      | ok found => exact congrArg Except.ok (toFlow_emphasize pairs _ found.1 found.2)

end Emphasis

end Flowchart.Chart
