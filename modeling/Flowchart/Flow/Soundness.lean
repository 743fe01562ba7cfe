import Flowchart.Flow

/-!
# Sound flows

A flow is sound if its ids are distinct, its start is one of its nodes and every outlet leads to a
node; a flow without nodes has no start. Every breach is listed.
-/

namespace Flowchart

inductive Violation where
  | duplicateNode (id : Text)
  | startMissing (id : Text)
  | startOfNothing (id : Text)
  | unknownTarget (outlet : Json) (node target : Text)
  deriving DecidableEq, Repr

namespace Violation

def message : Violation → Text
  | duplicateNode id => "Duplicate node id '".toList ++ id ++ ['\'']
  | startMissing id => "startNodeId '".toList ++ id ++ "' not found in nodes".toList
  | startOfNothing id => "startNodeId '".toList ++ id ++ "' set on an empty flow".toList
  | unknownTarget outlet node target =>
    "Outlet '".toList ++ outlet.display ++ "' of node '".toList ++ node ++
      "' targets unknown node '".toList ++ target ++ ['\'']

end Violation

namespace Flow

def repeated : List Text → List Text → List Text
  | _, [] => []
  | seen, id :: ids =>
    if seen.contains id then id :: repeated seen ids else repeated (id :: seen) ids

def startViolations (flow : Flow) : List Violation :=
  if flow.nodes.isEmpty then
    if flow.start.isEmpty then [] else [.startOfNothing flow.start]
  else if flow.nodeIds.contains flow.start then []
  else [.startMissing flow.start]

def violations (flow : Flow) : List Violation :=
  (repeated [] flow.nodeIds).map .duplicateNode ++ flow.startViolations ++
    (flow.links.filter fun link => !flow.nodeIds.contains link.2.target).map fun link =>
      .unknownTarget link.2.id link.1 link.2.target

end Flow

end Flowchart
