import Flowchart.Flow

/-!
# Flows as JSON values

The fields of a flow in their fixed order. Void optional fields are left out; reading fills them
in again. An id and a target have to be there.
-/

namespace Flowchart

structure MissingField where
  key : Text
  deriving DecidableEq, Repr

namespace MissingField

def message (missing : MissingField) : Text := missing.key.quoted

end MissingField

def Fields.require (key : Text) (fields : Fields) : Except MissingField Text :=
  match fields.get? key with
  | some value => .ok value.display
  | none => .error ⟨key⟩

namespace Outlet

def toFields (outlet : Outlet) : Fields :=
  [("id".toList, outlet.id), ("to".toList, .str outlet.target)] ++
    Fields.unlessVoid "label".toList outlet.label ++
    Fields.unlessVoid "condition".toList outlet.condition ++
    Fields.unlessVoid "actions".toList outlet.actions ++
    Fields.unlessVoid "metadata".toList outlet.metadata

end Outlet

namespace Node

def toFields (node : Node) : Fields :=
  [("id".toList, .str node.id), ("title".toList, node.title)] ++
    (if node.content = .null then [] else [("content".toList, node.content)]) ++
    Fields.unlessVoid "outlets".toList (.arr (node.outlets.map fun o => .obj o.toFields)) ++
    Fields.unlessVoid "actions".toList node.actions ++
    (node.autoAdvance.map fun b => ("autoAdvance".toList, Json.bool b)).toList ++
    Fields.unlessVoid "metadata".toList node.metadata

end Node

namespace Flow

def toFields (flow : Flow) : Fields :=
  [("id".toList, .str flow.id), ("title".toList, flow.title)] ++
    Fields.unlessVoid "description".toList flow.description ++
    [("startNodeId".toList, .str flow.start),
      ("nodes".toList, .arr (flow.nodes.map fun node => .obj node.toFields))] ++
    (if flow.globalState = .null then [] else [("globalState".toList, flow.globalState)]) ++
    Fields.unlessVoid "metadata".toList flow.metadata

end Flow

namespace Outlet

/-- An outlet without an id of its own has the one made from its ends and its position. -/
def ofFields (source : Text) (position : Nat) (fields : Fields) : Except MissingField Outlet := do
  let target ← fields.require "to".toList
  return {
    id := (fields.get "id".toList).orElse (.str (outletId source target position))
    target := target
    label := (fields.get "label".toList).orElse .null
    condition := (fields.get "condition".toList).orElse .null
    actions := (fields.get "actions".toList).orElse .null
    metadata := (fields.get "metadata".toList).orElse .null }

def listOfFields (source : Text) : Nat → List Json → Except MissingField (List Outlet)
  | _, [] => .ok []
  | position, value :: values => do
    let outlet ← ofFields source position value.fieldsOf
    let outlets ← listOfFields source (position + 1) values
    return outlet :: outlets

end Outlet

namespace Node

/-- The older key holds only where the newer one is absent. -/
def autoAdvanceOf (fields : Fields) : Option Bool :=
  match fields.get? "autoAdvance".toList with
  | some value => value.bool?
  | none => (fields.get "isAutoAdvance".toList).bool?

def ofFields (fields : Fields) : Except MissingField Node := do
  let id ← fields.require "id".toList
  let outlets ← Outlet.listOfFields id 0 (fields.get "outlets".toList).itemsOf
  return {
    id := id
    title := (fields.get "title".toList).orElse (.str [])
    content := fields.get "content".toList
    outlets := outlets
    actions := (fields.get "actions".toList).orElse .null
    autoAdvance := autoAdvanceOf fields
    metadata := (fields.get "metadata".toList).orElse .null }

end Node

namespace Flow

def ofFields (fields : Fields) : Except MissingField Flow := do
  let id ← fields.require "id".toList
  let nodes ← (fields.get "nodes".toList).itemsOf.mapM fun value => Node.ofFields value.fieldsOf
  return {
    id := id
    title := (fields.get "title".toList).orElse (.str [])
    start := ((fields.get "startNodeId".toList).orElse (.str [])).display
    nodes := nodes
    description := (fields.get "description".toList).orElse .null
    globalState := fields.get "globalState".toList
    metadata := (fields.get "metadata".toList).orElse .null }

end Flow

end Flowchart
