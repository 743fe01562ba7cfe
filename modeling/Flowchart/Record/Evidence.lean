import Flowchart.Evidence
import Flowchart.Json.Reader

/-!
# Evidence for records

An object with the fields of a flow.
-/

namespace Flowchart.Record

def coreWeight (fields : Fields) : Nat :=
  let hasId := (fields.get "id".toList).name?.isSome
  let hasNodes := (fields.get "nodes".toList).items?.isSome
  let hasStart := (fields.get "startNodeId".toList).name?.isSome
  if hasId && hasNodes && hasStart then 90
  else if hasId && hasNodes then 70
  else if hasNodes then 50
  else if hasId then 30
  else 0

def firstNode? (fields : Fields) : Option Fields :=
  (fields.get "nodes".toList).itemsOf.head?.bind (·.fields?)

def fieldEvidence (fields : Fields) : Evidence :=
  let first := (firstNode? fields).getD []
  [.once true (coreWeight fields),
    .once (fields.get "title".toList).name?.isSome 5,
    .once (!(first.get "id".toList).isVoid && !(first.get "type".toList).isVoid) 5,
    .once (first.get "outlets".toList).items?.isSome 5]

def evidence (text : Text) : Evidence :=
  let s := Text.trim text
  if s.head? == some '\x7b' && s.getLast? == some '\x7d' then
    match Json.read s with
    | .ok (.obj fields) => fieldEvidence fields
    | _ => []
  else []

end Flowchart.Record
