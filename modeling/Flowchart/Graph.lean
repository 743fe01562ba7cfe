import Flowchart.Binary64.Arithmetic
import Flowchart.Flow

/-!
# Flows as graphs

The view of a flow that questions of shape are put to: distinct node ids in order, and the outlets
that lead to one of them. Outlets of the same id between the same two nodes are one edge, and
numbers that are equal are the same id.
-/

namespace Flowchart

structure Edge where
  source : Text
  target : Text
  key : Json
  deriving DecidableEq, Repr

structure Graph where
  order : List Text
  edges : List Edge
  dangling : List (Text × Text)
  deriving DecidableEq, Repr

inductive NodeKind where
  | start
  | action
  | decision
  | finish
  | isolated
  deriving DecidableEq, Repr

namespace NodeKind

def name : NodeKind → Text
  | start => "start".toList
  | action => "action".toList
  | decision => "decision".toList
  | finish => "end".toList
  | isolated => "isolated".toList

end NodeKind

namespace Json

/-- One form for all numbers of the same value. -/
def edgeKey : Json → Json
  | .bool b => .int (if b then 1 else 0)
  | .float x =>
    let (num, den) := x.fraction
    if x.isNan || x.isInfinite || num % den != 0 then .float x else .int (num / den)
  | value => value

end Json

namespace Graph

def ofFlow (flow : Flow) : Graph :=
  let order := flow.nodeIds.eraseDups
  let (resolved, dangling) := flow.links.partition fun link => order.contains link.2.target
  { order := order
    edges := (resolved.map fun link => ⟨link.1, link.2.target, link.2.id.edgeKey⟩).eraseDups
    dangling := dangling.map fun link => (link.1, link.2.target) }

end Graph

namespace Flow

def edgeMisfit? (flow : Flow) (outlet : Outlet) : Option Misfit :=
  match outlet.id with
  | .arr _ | .obj _ =>
    if flow.nodeIds.contains outlet.target then some (.notKey outlet.id) else none
  | _ => none

def graph (flow : Flow) : Except Misfit Graph :=
  match flow.links.findSome? fun link => flow.edgeMisfit? link.2 with
  | some misfit => .error misfit
  | none => .ok (Graph.ofFlow flow)

end Flow

namespace Graph

def inDegree (graph : Graph) (id : Text) : Nat := graph.edges.countP (·.target == id)

def outDegree (graph : Graph) (id : Text) : Nat := graph.edges.countP (·.source == id)

def entries (graph : Graph) : List Text :=
  graph.order.filter fun id => graph.inDegree id == 0 && 0 < graph.outDegree id

def start (graph : Graph) : Text :=
  match graph.entries with
  | id :: _ => id
  | [] => graph.order.headD []

def kind (graph : Graph) (id : Text) : NodeKind :=
  let entering := graph.inDegree id
  let leaving := graph.outDegree id
  if entering == 0 && leaving == 0 then .isolated
  else if entering == 0 then .start
  else if leaving == 0 then .finish
  else if leaving > 1 then .decision
  else .action

/-- Nodes outside `seen` that one edge leads to from inside. -/
def fresh (graph : Graph) (seen : List Text) : List Text :=
  graph.order.filter fun id =>
    !seen.contains id && graph.edges.any fun edge => edge.target == id && seen.contains edge.source

/-- Adds fresh nodes until there are none. Each round but the last adds one, so there are no more
rounds than nodes. -/
def saturate (graph : Graph) : Nat → List Text → List Text
  | 0, seen => seen
  | rounds + 1, seen =>
    match graph.fresh seen with
    | [] => seen
    | new => saturate graph rounds (seen ++ new)

def reachable (graph : Graph) (id : Text) : List Text :=
  if graph.order.contains id then graph.saturate graph.order.length [id] else []

def unreachable (graph : Graph) (id : Text) : List Text :=
  let reached := graph.reachable id
  graph.order.filter (!reached.contains ·)

inductive ShapeWarning where
  | unreachable (start : Text) (ids : List Text)
  | noTerminal
  deriving DecidableEq, Repr

namespace ShapeWarning

def message : ShapeWarning → Text
  | unreachable start ids =>
    "Unreachable from '".toList ++ start ++ "': ".toList ++ Text.join ", ".toList ids
  | noTerminal => "Flow has no terminal node".toList

end ShapeWarning

def shapeWarnings (graph : Graph) (start : Text) : List ShapeWarning :=
  let lost := graph.unreachable start
  (if start.isEmpty || lost.isEmpty then [] else [.unreachable start lost]) ++
    (if graph.order.isEmpty || graph.order.any (graph.outDegree · == 0) then [] else [.noTerminal])

end Graph

end Flowchart
