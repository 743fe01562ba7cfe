import Flowchart.Flow.Fields
import Flowchart.Json.Reader

/-!
# Reading records

A record is a flow as a JSON object. The first rule that it breaks is the fault: ids are texts that
are not empty, the ids of nodes differ, the start is a node and every outlet leads to one.
-/

namespace Flowchart.Record

inductive Breach where
  | notObject
  | badId
  | badNodes
  | badStart
  | nodeNotObject (position : Nat)
  | badNodeId (position : Nat)
  | repeatedNodeId (id : Text) (position : Nat)
  | badOutlets (node : Text)
  | badTarget (position : Nat) (node : Text)
  | startMissing (start : Text)
  | unknownTarget (position : Nat) (node target : Text)
  deriving DecidableEq, Repr

namespace Breach

def message : Breach → Text
  | notObject => "Invalid JSON structure - must be an object".toList
  | badId => "Missing or invalid \"id\" field - must be a non-empty string".toList
  | badNodes => "Missing or invalid \"nodes\" field - must be an array".toList
  | badStart => "Missing or invalid \"startNodeId\" field - must be a non-empty string".toList
  | nodeNotObject position =>
    "Node at index ".toList ++ Text.ofNat position ++ " is not a valid object".toList
  | badNodeId position =>
    "Node at index ".toList ++ Text.ofNat position ++ " missing or invalid \"id\" field".toList
  | repeatedNodeId id position =>
    "Duplicate node id \"".toList ++ id ++ "\" at index ".toList ++ Text.ofNat position
  | badOutlets node =>
    "Node \"".toList ++ node ++ "\" has an invalid \"outlets\" field - must be an array".toList
  | badTarget position node =>
    "Outlet ".toList ++ Text.ofNat position ++ " of node \"".toList ++ node ++
      "\" missing or invalid \"to\" field".toList
  | startMissing start =>
    "startNodeId \"".toList ++ start ++ "\" not found in nodes".toList
  | unknownTarget position node target =>
    "Outlet ".toList ++ Text.ofNat position ++ " of node \"".toList ++ node ++
      "\" targets unknown node \"".toList ++ target ++ ['"']

end Breach

inductive Fault where
  | syntaxFault (fault : Json.Fault) (source : Text)
  | breach (breach : Breach)
  | missing (field : MissingField)
  deriving DecidableEq, Repr

namespace Fault

def message : Fault → Text
  | syntaxFault fault source =>
    match fault.cause with
    | .hugeInteger _ => fault.message source
    | _ => "Invalid JSON syntax: ".toList ++ fault.message source
  | breach broken => broken.message
  | missing field => field.message

end Fault

/-- The ids of a node and of the nodes that its outlets lead to, in order. -/
abbrev Wiring := Text × List Text

def targets (node : Text) : Nat → List Json → Except Breach (List Text)
  | _, [] => .ok []
  | position, outlet :: outlets =>
    match (outlet.fieldsOf.get "to".toList).name? with
    | none => .error (.badTarget position node)
    | some target => (targets node (position + 1) outlets).map (target :: ·)

/-- Outlets may be absent or null. -/
def nodeTargets (node : Text) (fields : Fields) : Except Breach (List Text) :=
  match fields.get "outlets".toList with
  | .null => .ok []
  | .arr outlets => targets node 0 outlets
  | _ => .error (.badOutlets node)

def wirings (seen : List Text) : Nat → List Json → Except Breach (List Wiring)
  | _, [] => .ok []
  | position, node :: nodes =>
    match node with
    | .obj fields =>
      match (Fields.get "id".toList fields).name? with
      | none => .error (.badNodeId position)
      | some id =>
        if seen.contains id then .error (.repeatedNodeId id position)
        else do
          let targets ← nodeTargets id fields
          let others ← wirings (id :: seen) (position + 1) nodes
          return (id, targets) :: others
    | _ => .error (.nodeNotObject position)

def unknownTarget? (ids : List Text) (wiring : Wiring) : Option Breach :=
  wiring.2.zipIdx.findSome? fun (target, position) =>
    if ids.contains target then none else some (.unknownTarget position wiring.1 target)

def checkLinks (start : Text) (wirings : List Wiring) : Except Breach Unit :=
  let ids := wirings.map Prod.fst
  if !ids.contains start then .error (.startMissing start)
  else
    match wirings.findSome? (unknownTarget? ids) with
    | some breach => .error breach
    | none => .ok ()

def check (fields : Fields) : Except Breach Unit :=
  match (fields.get "id".toList).name?, (fields.get "nodes".toList).items?,
    (fields.get "startNodeId".toList).name? with
  | none, _, _ => .error .badId
  | _, none, _ => .error .badNodes
  | _, _, none => .error .badStart
  | some _, some nodes, some start => do
    let wirings ← wirings [] 0 nodes
    checkLinks start wirings

def defaultTitle : Json := .str "Untitled Flow".toList

def ofJson : Json → Except Fault Flow
  | .obj fields =>
    match check fields with
    | .error breach => .error (.breach breach)
    | .ok () =>
      match Flow.ofFields fields with
      | .error field => .error (.missing field)
      | .ok flow => .ok { flow with title := flow.title.orElse defaultTitle }
  | _ => .error (.breach .notObject)

def read (s : Text) : Except Fault Flow :=
  match Json.read (Text.trim s) with
  | .error fault => .error (.syntaxFault fault (Text.trim s))
  | .ok value => ofJson value

end Flowchart.Record
