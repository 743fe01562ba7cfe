import Flowchart.Activity.Machine
import Flowchart.Activity.Script

/-!
# Reading activity diagrams

The statements of a script are run, and the vertices of the machine become the nodes of a flow.
-/

namespace Flowchart.Activity

inductive Fault where
  | noStart
  | unterminated (fault : Unterminated)
  deriving DecidableEq, Repr

namespace Fault

def message : Fault → Text
  | noStart => "Invalid PlantUML syntax: missing @startuml or start directive".toList
  | unterminated fault => fault.message

end Fault

def startsHere (s : Text) : Bool :=
  match Text.after? "start".toList (Text.trimLeft s) with
  | none => false
  | some rest => (Text.trimLeft rest).isEmpty || (rest.takeWhile Text.isBlank).contains '\n'

def isDiagram (s : Text) : Bool :=
  Text.occursIn "@startuml".toList s || Text.anyLineStart startsHere s

namespace Place

def toNode (place : Place) : Node :=
  place.edges.foldl
    (fun node edge => node.addOutlet edge.1.id (.ofText? edge.2) .null)
    { id := place.vertex.id
      title := .str place.caption.title
      content := .str place.caption.content }

end Place

namespace Machine

def nodes (m : Machine) : List Node := m.places.map Place.toNode

def startId (m : Machine) : Text :=
  match m.places.find? (·.vertex.kind = .start) with
  | some place => place.vertex.id
  | none => (m.places.head?.map (·.vertex.id)).getD []

def toFlow (m : Machine) (title : Option Text) : Flow :=
  let named := title.filter (!·.isEmpty)
  { id := "plantuml-activity".toList
    title := .str (named.getD "PlantUML Activity Diagram".toList)
    start := m.startId
    nodes := m.nodes
    metadata := .obj ([("format".toList, .str "plantuml".toList)] ++
      (named.map fun s => ("originalTitle".toList, Json.str s)).toList ++
      Fields.unlessVoid "warnings".toList (.arr (m.warnings.map fun w => .str w.message))) }

end Machine

namespace Script

def run (script : Script) : Machine :=
  (Machine.run {} (script.statements.filterMap Statement.read?)).finish

end Script

def read (s : Text) : Except Fault Flow :=
  if isDiagram s then
    match Script.read s with
    | .ok script => .ok (script.run.toFlow script.title)
    | .error fault => .error (.unterminated fault)
  else .error .noStart

def remarks (s : Text) : List Remark :=
  if isDiagram s then
    match Script.read s with
    | .ok script => Machine.remarks {} script.statements
    | .error _ => []
  else []

end Flowchart.Activity
