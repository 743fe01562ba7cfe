import Flowchart.Proofs.Activity.Sites
import Flowchart.Proofs.Flow.Branches
import Flowchart.Proofs.Text.Lines

/-!
# Plain flows

Flows that can be written as activity diagrams without loss: titles and labels are single lines
that hold nothing the notation gives a meaning to.
-/

namespace Flowchart.Activity

/-- A trimmed line without parentheses and without the beginning of a comment. -/
structure PlainLine (s : Text) : Prop where
  nonempty : s ≠ []
  trimmed : Text.trim s = s
  unbroken : ∀ c ∈ s, Text.isBreak c = false
  unopened : '(' ∉ s
  unclosed : ')' ∉ s
  uncommented : Text.occursIn "/'".toList s = false

instance (s : Text) : Decidable (PlainLine s) :=
  decidable_of_iff (s ≠ [] ∧ Text.trim s = s ∧ (s.all fun c => !Text.isBreak c) = true ∧ '(' ∉ s ∧
      ')' ∉ s ∧ Text.occursIn "/'".toList s = false)
    ⟨fun ⟨hne, htrim, hbreak, hopen, hclose, hcomment⟩ =>
        ⟨hne, htrim, Text.none_iff_all.2 hbreak, hopen, hclose, hcomment⟩,
      fun h => ⟨h.nonempty, h.trimmed, Text.none_iff_all.1 h.unbroken, h.unopened, h.unclosed,
        h.uncommented⟩⟩

/-- A text that fits on a line once its line feeds are escaped, and that begins no comment. -/
structure Spoken (s : Text) : Prop where
  unbroken : ∀ c ∈ s, Text.isBreak c = true → c = '\n'
  uncommented : Text.occursIn "/'".toList s = false

theorem PlainLine.spoken {s : Text} (h : PlainLine s) : Spoken s where
  unbroken c hc hbreak := absurd hbreak (by simp [h.unbroken c hc])
  uncommented := h.uncommented

def PlainLabel (label : Json) : Prop :=
  label.isVoid = true ∨ ∃ s, label = .str s ∧ PlainLine s

instance (label : Json) : Decidable (PlainLabel label) := Json.decideLabel PlainLine label

structure PlainNode (node : Node) : Prop where
  titled : ∃ s, node.title = .str s ∧ PlainLine s ∧ s ≠ "Start".toList ∧ s ≠ "End".toList
  spoken : node.content.isVoid = true ∨ node.content = node.title
  labelled : ∀ outlet ∈ node.outlets, PlainLabel outlet.label
  keyed : ∀ outlet ∈ node.outlets, outlet.Keyed

instance (node : Node) : Decidable (PlainNode node) :=
  decidable_of_iff ((∃ s ∈ node.title.text?, PlainLine s ∧ s ≠ "Start".toList ∧ s ≠ "End".toList) ∧
      (node.content.isVoid = true ∨ node.content = node.title) ∧
      (∀ outlet ∈ node.outlets, PlainLabel outlet.label) ∧ ∀ outlet ∈ node.outlets, outlet.Keyed)
    ⟨fun ⟨⟨s, hs, hplain⟩, hspoken, hlabelled, hkeyed⟩ =>
        ⟨⟨s, Json.eq_str_of_text? hs, hplain⟩, hspoken, hlabelled, hkeyed⟩,
      fun h => ⟨h.titled.imp fun s ⟨hs, hplain⟩ => ⟨by rw [hs]; rfl, hplain⟩, h.spoken, h.labelled,
        h.keyed⟩⟩

structure PlainFlow (flow : Flow) : Prop where
  untitled : flow.title.isVoid = true
  distinct : flow.nodeIds.Nodup
  apart : ∀ id ∈ flow.nodeIds, ∀ other ∈ flow.nodeIds,
    UniqueIds.sanitize id = UniqueIds.sanitize other → id = other
  started : flow.start ∈ flow.nodeIds
  resolved : ∀ node ∈ flow.nodes, ∀ outlet ∈ node.outlets, outlet.target ∈ flow.nodeIds
  nodes : ∀ node ∈ flow.nodes, PlainNode node

instance (flow : Flow) : Decidable (PlainFlow flow) :=
  decidable_of_iff (flow.title.isVoid = true ∧ flow.nodeIds.Nodup ∧
      (∀ id ∈ flow.nodeIds, ∀ other ∈ flow.nodeIds,
        UniqueIds.sanitize id = UniqueIds.sanitize other → id = other) ∧
      flow.nodeIds.contains flow.start = true ∧
      (∀ node ∈ flow.nodes, ∀ outlet ∈ node.outlets,
        flow.nodeIds.contains outlet.target = true) ∧
      ∀ node ∈ flow.nodes, PlainNode node) <| by
    simp only [List.contains_iff_mem]
    exact ⟨fun ⟨huntitled, hdistinct, hapart, hstarted, hresolved, hnodes⟩ =>
        ⟨huntitled, hdistinct, hapart, hstarted, hresolved, hnodes⟩,
      fun h => ⟨h.untitled, h.distinct, h.apart, h.started, h.resolved, h.nodes⟩⟩

namespace Phrase

def Plain : Phrase → Prop
  | activity value => ∃ s, value = .str s ∧ PlainLine s
  | ifThen condition tag => (∃ s, condition = .str s ∧ PlainLine s) ∧ PlainLabel tag
  | elseIf condition tag => (∃ s, condition = .str s ∧ PlainLine s) ∧ PlainLabel tag
  | otherwise tag => PlainLabel tag
  | start | stop | endIf | goto _ | label _ => True

def statement : Phrase → Statement
  | start => .start
  | activity value => .activity (value.text?.getD [])
  | stop => .stop
  | ifThen condition tag => .ifThen (condition.text?.getD []) tag.name?
  | elseIf condition tag => .elseIf "no".toList (condition.text?.getD []) tag.name?
  | otherwise tag => .otherwise tag.name?
  | endIf => .endIf
  | goto id => .goto (labelName id)
  | label id => .label (labelName id)

end Phrase

theorem name_of_isVoid {value : Json} (h : value.isVoid = true) : value.name? = none := by
  cases value <;> simp_all [Json.isVoid, Json.name?]

theorem plainLine_yes : PlainLine "yes".toList := by decide

theorem plainLine_no : PlainLine "no".toList := by decide

theorem PlainLine.not_void {s : Text} (h : PlainLine s) : (Json.str s).isVoid = false := by
  simpa [Json.isVoid] using h.nonempty

section Nodes

variable {node : Node}

theorem PlainNode.plain_branch (h : PlainNode node) :
    ∀ branch ∈ node.branches, PlainLabel branch.2 :=
  Node.labels_of_branches plainLine_yes plainLine_no h.labelled

theorem PlainNode.said (h : PlainNode node) :
    node.caption = node.title ∧ question node = node.title := by
  obtain ⟨s, htitle, hs, -⟩ := h.titled
  have hvoid : node.title.isVoid = false := by rw [htitle]; exact hs.not_void
  constructor
  · rcases h.spoken with hcontent | hcontent
    · simp [Node.caption, Json.orElse, hcontent]
    · simp [Node.caption, Json.orElse, hcontent]
  · simp [question, Json.orElse, hvoid]

theorem PlainNode.unmarked (h : PlainNode node) (graph : Graph) :
    isStartMarker graph node = false ∧ (node.title == .str "End".toList) = false := by
  obtain ⟨s, htitle, -, hstart, hend⟩ := h.titled
  have hne : ∀ other, s ≠ other → (Json.str s == Json.str other) = false := by
    intro other hother
    simpa using hother
  simp only [isStartMarker, htitle, hne _ hstart, hne _ hend, Bool.false_and, and_self]

end Nodes

section Flow

variable {flow : Flow}

variable (h : PlainFlow flow)

include h

theorem PlainFlow.openBranches_eq {node : Node} (hnode : node ∈ flow.nodes) :
    openBranches flow node = node.branches.map fun branch => (branch.1.target, branch.2) := by
  unfold openBranches
  rw [List.filter_eq_self.2]
  intro branch hbranch
  have houtlet : branch.1 ∈ node.outlets := (List.of_mem_zip hbranch).1
  simpa using h.resolved node hnode branch.1 houtlet

theorem PlainFlow.mem_openBranches {node : Node} (hnode : node ∈ flow.nodes)
    {branch : Text × Json} (hbranch : branch ∈ openBranches flow node) :
    branch.1 ∈ flow.nodeIds ∧ PlainLabel branch.2 := by
  rw [h.openBranches_eq hnode] at hbranch
  obtain ⟨pair, hpair, rfl⟩ := List.mem_map.1 hbranch
  exact ⟨h.resolved node hnode pair.1 (Node.mem_outlets_of_mem_branches hpair),
    (h.nodes node hnode).plain_branch pair hpair⟩

theorem PlainFlow.waysFrom_eq {id : Text} {node : Node} (hlast : flow.lastNode? id = some node)
    (hnode : node ∈ flow.nodes) :
    waysFrom flow id = (openBranches flow node).map fun branch => (branch.1, branch.2.name?) := by
  simp [waysFrom, hlast, ways, h.openBranches_eq hnode]

end Flow

end Flowchart.Activity
