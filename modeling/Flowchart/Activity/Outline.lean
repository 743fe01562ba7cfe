import Flowchart.Activity.Escape
import Flowchart.Graph
import Flowchart.UniqueIds

/-!
# Outlines

An outline is the structured form of a flow, line by line with depth. The walk goes through the
flow from its start: straight runs are activities, branching nodes are conditions, and a node met
again is jumped to. Every node drops an anchor where its own lines begin; once the walk is done the
anchors of jump targets become labels and the others go.
-/

namespace Flowchart.Activity

inductive Phrase where
  | start
  | activity (text : Json)
  | stop
  | ifThen (condition label : Json)
  | elseIf (condition label : Json)
  | otherwise (label : Json)
  | endIf
  | goto (id : Text)
  | label (id : Text)
  deriving DecidableEq, Repr

structure Line where
  depth : Nat
  phrase : Phrase
  deriving DecidableEq, Repr

/-- A written line, or the place where the lines of a node begin. -/
inductive Mark where
  | line (line : Line)
  | anchor (depth : Nat) (id : Text)
  deriving DecidableEq, Repr

structure Walk where
  marks : List Mark := []
  visited : List Text := []
  targets : List Text := []
  deriving DecidableEq, Repr

namespace Walk

def write (walk : Walk) (depth : Nat) (phrase : Phrase) : Walk :=
  { walk with marks := walk.marks ++ [.line ⟨depth, phrase⟩] }

def visit (walk : Walk) (depth : Nat) (id : Text) : Walk :=
  { walk with marks := walk.marks ++ [.anchor depth id], visited := walk.visited ++ [id] }

def jump (walk : Walk) (depth : Nat) (id : Text) : Walk :=
  let written := walk.write depth (.goto id)
  if walk.targets.contains id then written
  else { written with targets := walk.targets ++ [id] }

end Walk

def openBranches (flow : Flow) (node : Node) : List (Text × Json) :=
  (node.branches.filter fun branch => flow.nodeIds.contains branch.1.target).map fun branch =>
    (branch.1.target, branch.2)

/-- The node that the first line of a diagram stands for already. -/
def isStartMarker (graph : Graph) (node : Node) : Bool :=
  node.title == .str "Start".toList && graph.inDegree node.id == 0

def question (node : Node) : Json := node.title.orElse (.str node.id)

/-- The line that opens a branch, by its position among `count` branches. -/
def branchOpening (node : Node) (count position : Nat) (label : Json) : Phrase :=
  if position == 0 then .ifThen (question node) label
  else if position + 1 == count then .otherwise label
  else .elseIf (question node) label

/-- Walks from a node. Every nested walk has visited one node more, so the number of nodes is fuel
enough. -/
def walkFrom (flow : Flow) (graph : Graph) : Nat → Nat → Text → Walk → Walk
  | 0, _, _, walk => walk
  | fuel + 1, depth, id, walk =>
    if walk.visited.contains id then walk.jump depth id
    else
      match flow.lastNode? id with
      | none => walk
      | some node =>
        let entered := walk.visit depth id
        match openBranches flow node with
        | [] =>
          let written :=
            if node.title == .str "End".toList then entered
            else entered.write depth (.activity node.caption)
          written.write depth .stop
        | [branch] =>
          let written :=
            if isStartMarker graph node then entered
            else entered.write depth (.activity node.caption)
          walkFrom flow graph fuel depth branch.1 written
        | branches =>
          let walked := branches.zipIdx.foldl
            (fun walk (branch, position) =>
              walkFrom flow graph fuel (depth + 1) branch.1
                (walk.write depth (branchOpening node branches.length position branch.2)))
            entered
          walked.write depth .endIf

/-- The start comes first; nodes that it does not lead to follow as runs of their own. -/
def walkAll (flow : Flow) (graph : Graph) : Walk :=
  let start := if flow.nodeIds.contains flow.start then flow.start else flow.nodeIds.headD []
  let fuel := flow.nodes.length + 1
  flow.nodeIds.foldl
    (fun walk id => if walk.visited.contains id then walk else walkFrom flow graph fuel 0 id walk)
    (walkFrom flow graph fuel 0 start (Walk.write {} 0 .start))

/-- The lines of a walk. An anchor that jumps lead to is a label, any other leaves no line. -/
def Walk.outline (walk : Walk) : List Line :=
  walk.marks.filterMap fun mark =>
    match mark with
    | .line line => some line
    | .anchor depth id => if walk.targets.contains id then some ⟨depth, .label id⟩ else none

end Flowchart.Activity
