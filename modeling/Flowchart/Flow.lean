import Flowchart.Json.Display
import Flowchart.Text.Numeral

/-!
# Flows

A flow is a list of nodes, each with its ordered outlets to other nodes. Ids are texts. Titles,
labels and the like are payload: any value may stand there, and null means that nothing does.
-/

namespace Flowchart

structure Outlet where
  id : Json
  target : Text
  label : Json := .null
  condition : Json := .null
  actions : Json := .null
  metadata : Json := .null
  deriving DecidableEq, Repr

structure Node where
  id : Text
  title : Json
  content : Json := .null
  outlets : List Outlet := []
  actions : Json := .null
  autoAdvance : Option Bool := none
  metadata : Json := .null
  deriving DecidableEq, Repr

structure Flow where
  id : Text
  title : Json
  start : Text := []
  nodes : List Node := []
  description : Json := .null
  globalState : Json := .null
  metadata : Json := .null
  deriving DecidableEq, Repr

def outletId (source target : Text) (position : Int) : Text :=
  source ++ '-' :: target ++ '-' :: Text.ofInt position

namespace Node

/-- The next outlet of a node; an empty label or condition is none. -/
def nextOutlet (node : Node) (target : Text) (label condition : Json) : Outlet where
  id := .str (outletId node.id target node.outlets.length)
  target := target
  label := label.orElse .null
  condition := condition.orElse .null

def addOutlet (node : Node) (target : Text) (label condition : Json) : Node :=
  { node with outlets := node.outlets ++ [node.nextOutlet target label condition] }

def caption (node : Node) : Json := node.content.orElse node.title

/-- The labels of the outlets in order; a two-way split without labels reads `yes` and `no`. -/
def branchLabels (node : Node) : List Json :=
  match node.outlets.map Outlet.label with
  | [first, second] => [first.orElse (.str "yes".toList), second.orElse (.str "no".toList)]
  | labels => labels

def branches (node : Node) : List (Outlet × Json) := node.outlets.zip node.branchLabels

end Node

/-- A payload value of a kind that cannot serve where it stands. -/
inductive Misfit where
  | notFields (value : Json)
  | notList (value : Json)
  | notText (value : Json)
  | notSearchable (value : Json)
  | notKey (value : Json)
  deriving DecidableEq, Repr

namespace Misfit

def message : Misfit → Text
  | notFields value => '\'' :: value.kind ++ "' object has no attribute 'get'".toList
  | notList value => '\'' :: value.kind ++ "' object is not iterable".toList
  | notText value => '\'' :: value.kind ++ "' object has no attribute 'replace'".toList
  | notSearchable value =>
    "expected string or bytes-like object, got '".toList ++ value.kind ++ ['\'']
  | notKey value => "unhashable type: '".toList ++ value.kind ++ ['\'']

end Misfit

namespace Flow

def nodeIds (flow : Flow) : List Text := flow.nodes.map Node.id

def outletCount (flow : Flow) : Nat := (flow.nodes.flatMap Node.outlets).length

def node? (flow : Flow) (id : Text) : Option Node := flow.nodes.find? (·.id == id)

/-- The node that an id stands for when it occurs more than once: the last one. -/
def lastNode? (flow : Flow) (id : Text) : Option Node := flow.nodes.reverse.find? (·.id == id)

def links (flow : Flow) : List (Text × Outlet) :=
  flow.nodes.flatMap fun node => node.outlets.map fun outlet => (node.id, outlet)

def warnings (flow : Flow) : Except Misfit (List Json) :=
  if flow.metadata.isVoid then .ok []
  else
    match flow.metadata with
    | .obj fields =>
      let value := Fields.get "warnings".toList fields
      if value.isVoid then .ok []
      else
        match value with
        | .arr items => .ok items
        | .str s => .ok (s.map fun c => .str [c])
        | .obj inner => .ok ((Fields.keys inner).map .str)
        | other => .error (.notList other)
    | other => .error (.notFields other)

end Flow

end Flowchart
