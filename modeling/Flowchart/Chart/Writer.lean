import Flowchart.Chart.Label
import Flowchart.Graph
import Flowchart.Yaml.Writer

/-!
# Writing charts

The start node comes first, as the first node that is read back is the start. Each node is written
before the first edge at it; its shape tells its kind. What has been executed may be highlighted.
-/

namespace Flowchart.Chart

/-- What has been executed: the node it stands at, the way there, and the edges taken. Without
edges, those between the steps of the way count. -/
structure Highlight where
  current : Option Text := none
  path : List Text := []
  edges : Option (List (Text × Text)) := none
  deriving DecidableEq, Repr

structure Style where
  direction : Text := "TD".toList
  limit : Int := 50
  highlight : Option Highlight := none
  deriving DecidableEq, Repr

inductive WriteFault where
  | direction (fault : UnknownDirection)
  | misfit (misfit : Misfit)
  deriving DecidableEq, Repr

namespace WriteFault

def message : WriteFault → Text
  | direction fault => fault.message
  | misfit fault => fault.message

end WriteFault

namespace Highlight

def takenEdges (highlight : Highlight) : List (Text × Text) :=
  highlight.edges.getD (highlight.path.zip highlight.path.tail)

def isEmpty (highlight : Highlight) : Bool :=
  highlight.path.isEmpty && (highlight.current.getD []).isEmpty

end Highlight

inductive Row where
  | node (node : Node)
  | edge (source : Text) (outlet : Outlet) (label : Json)
  deriving DecidableEq, Repr

def define (rows : List Row) (node : Node) : List Row :=
  if rows.any fun row => match row with
    | .node known => known.id = node.id
    | .edge .. => false
  then rows
  else rows ++ [.node node]

def addBranch (flow : Flow) (source : Text) (rows : List Row) (branch : Outlet × Json) : List Row :=
  match flow.lastNode? branch.1.target with
  | none => rows
  | some target => define rows target ++ [.edge source branch.1 branch.2]

def addNode (flow : Flow) (rows : List Row) (node : Node) : List Row :=
  node.branches.foldl (addBranch flow node.id) (define rows node)

def withoutLast (id : Text) : List Node → List Node
  | [] => []
  | node :: nodes =>
    if node.id = id ∧ !nodes.any (·.id = id) then nodes else node :: withoutLast id nodes

def startFirst (flow : Flow) : List Node :=
  match flow.lastNode? flow.start with
  | some start => start :: withoutLast flow.start flow.nodes
  | none => flow.nodes

def rows (flow : Flow) : List Row := (startFirst flow).foldl (addNode flow) []

def definedIds (rows : List Row) : List Text :=
  rows.filterMap fun row => match row with
    | .node node => some node.id
    | .edge .. => none

def indented (s : Text) : Text := Text.spaces 4 ++ s

def shapeOf (kind : NodeKind) (node : Node) : Shape :=
  match kind with
  | .start | .finish => .stadium
  | .decision => if node.autoAdvance = some true then .rhombus else .diamond
  | .action | .isolated =>
    if node.outlets.any fun outlet => !outlet.condition.isVoid then .rhombus else .rectangle

def nodeLine (graph : Graph) (ids : UniqueIds) (limit : Int) (node : Node) :
    Except WriteFault Text :=
  match node.caption with
  | .str s =>
    let shape := shapeOf (graph.kind node.id) node
    .ok (ids.idOf node.id ++ shape.opener ++ nodeText limit s ++ shape.closer)
  | value => .error (.misfit (.notSearchable value))

def styleOf (outlet : Outlet) : Except WriteFault EdgeStyle :=
  if outlet.metadata.isVoid then .ok .arrow
  else
    match outlet.metadata with
    | .obj fields =>
      let value := Fields.get "edgeStyle".toList fields
      .ok ((EdgeStyle.all.find? fun style => value = .str style.name).getD .arrow)
    | value => .error (.misfit (.notFields value))

def arrowOf : EdgeStyle → Text
  | .arrow => "-->".toList
  | .thick => "==>".toList
  | .dotted => "-.->".toList
  | .line => "---".toList

def labelOf (limit : Int) (label : Json) : Except WriteFault Text :=
  if label.isVoid then .ok []
  else
    match label with
    | .str s => .ok (edgeLabel limit s)
    | value => .error (.misfit (.notSearchable value))

def edgeLine (taken : List (Text × Text)) (ids : UniqueIds) (limit : Int) (source : Text)
    (outlet : Outlet) (label : Json) : Except WriteFault Text := do
  let style ← if taken.contains (source, outlet.target) then .ok .thick else styleOf outlet
  let text ← labelOf limit label
  let bars := if text.isEmpty then [] else '|' :: text ++ ['|']
  return ids.idOf source ++ ' ' :: arrowOf style ++ bars ++ ' ' :: ids.idOf outlet.target

def rowLine (graph : Graph) (taken : List (Text × Text)) (ids : UniqueIds) (limit : Int) :
    Row → Except WriteFault Text
  | .node node => (nodeLine graph ids limit node).map indented
  | .edge source outlet label => (edgeLine taken ids limit source outlet label).map indented

def frontLines (flow : Flow) : List Text :=
  let fields := Fields.unlessVoid "title".toList flow.title ++
    Fields.unlessVoid "description".toList flow.description
  if fields.isEmpty then []
  else ["---".toList] ++ Text.lines (Text.trim (Yaml.write fields)) ++ ["---".toList, []]

def visited (flow : Flow) (highlight : Highlight) (current : Option Text) : List Text :=
  highlight.path.eraseDups.filter fun id => flow.nodeIds.contains id && current != some id

def classLines (name look : Text) (ids : List Text) : List Text :=
  [indented ("classDef ".toList ++ name ++ ' ' :: look),
    indented ("class ".toList ++ Text.join [','] ids ++ ' ' :: name)]

def highlightLines (flow : Flow) (ids : UniqueIds) (highlight : Highlight) : List Text :=
  let current := highlight.current.filter flow.nodeIds.contains
  let executed := (visited flow highlight current).map ids.idOf
  let lines :=
    (if executed.isEmpty then [] else
      classLines "executed".toList
        "fill:#334155,stroke:#cbd5e1,stroke-width:2px,color:#cbd5e1".toList executed) ++
    match current.filter (!·.isEmpty) with
    | none => []
    | some id =>
      classLines "current".toList
        "fill:#f59e0b,stroke:#451a03,stroke-width:3px,color:#451a03".toList [ids.idOf id]
  if highlight.isEmpty || lines.isEmpty then [] else [] :: lines

def write (style : Style) (flow : Flow) : Except WriteFault Text := do
  let direction ← (Direction.read style.direction).mapError .direction
  let graph ← flow.graph.mapError .misfit
  let rows := rows flow
  let ids := UniqueIds.addAll safeId (definedIds rows)
  let taken := (style.highlight.map Highlight.takenEdges).getD []
  let body ← rows.mapM (rowLine graph taken ids style.limit)
  let highlights := (style.highlight.map (highlightLines flow ids)).getD []
  return Text.join ['\n']
    (frontLines flow ++ ["flowchart ".toList ++ direction.name] ++ body ++ highlights)

end Flowchart.Chart
