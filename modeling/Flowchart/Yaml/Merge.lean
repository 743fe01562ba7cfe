import Flowchart.Yaml.Node

/-!
# Merging mappings

A mapping may take over the pairs of others under a merge key. They come before its own pairs, so
that these win, and of several mappings the first one wins. Merging changes the mapping itself, for
whoever else names it.
-/

namespace Flowchart.Yaml

abbrev Nodes := Array Node

namespace Nodes

def tag? (nodes : Nodes) (ref : Ref) : Option Tag := nodes[ref]?.map Node.tag

def pairs? (nodes : Nodes) (ref : Ref) : Option (List (Ref × Ref)) :=
  match nodes[ref]? with
  | some ⟨_, .mapping pairs⟩ => some pairs
  | _ => none

def pairs (nodes : Nodes) (ref : Ref) : List (Ref × Ref) := (nodes.pairs? ref).getD []

def setPairs (nodes : Nodes) (ref : Ref) (pairs : List (Ref × Ref)) : Nodes :=
  nodes.modify ref fun node => { node with content := .mapping pairs }

def isMerge (nodes : Nodes) (pair : Ref × Ref) : Bool := nodes.tag? pair.1 == some .merge

def settleKey (nodes : Nodes) (pair : Ref × Ref) : Nodes :=
  if nodes.tag? pair.1 == some .value then
    nodes.modify pair.1 fun node => { node with tag := .str }
  else nodes

def takeMerge? (nodes : Nodes) : List (Ref × Ref) → Option (Ref × List (Ref × Ref))
  | [] => none
  | pair :: pairs =>
    if nodes.isMerge pair then some (pair.2, pairs)
    else (nodes.takeMerge? pairs).map fun found => (found.1, pair :: found.2)

def mergeCount (nodes : Nodes) : Nat :=
  nodes.foldl (fun count node =>
    match node.content with
    | .mapping pairs => count + pairs.countP nodes.isMerge
    | _ => count) 0

mutual

/-- Merges what a mapping names, one merge key after the other. `found` are the pairs taken over so
far. -/
def mergeFrom : Nat → Nodes → Ref → List (Ref × Ref) → Except Fault Nodes
  | 0, _, _, _ => .error .malformed
  | fuel + 1, nodes, ref, found =>
    match nodes.takeMerge? (nodes.pairs ref) with
    | none =>
      let own := nodes.pairs ref
      .ok ((own.foldl settleKey nodes).setPairs ref (found ++ own))
    | some (source, own) => do
      let (nodes, more) ← mergedPairs fuel (nodes.setPairs ref own) source
      mergeFrom fuel nodes ref (found ++ more)

def mergedPairs : Nat → Nodes → Ref → Except Fault (Nodes × List (Ref × Ref))
  | 0, _, _ => .error .malformed
  | fuel + 1, nodes, source =>
    match nodes[source]? with
    | some ⟨_, .mapping _⟩ => do
      let nodes ← mergeFrom fuel nodes source []
      return (nodes, nodes.pairs source)
    | some ⟨_, .sequence items⟩ =>
      items.foldlM
        (fun (known : Nodes × List (Ref × Ref)) item =>
          if (known.1.pairs? item).isSome then do
            let nodes ← mergeFrom fuel known.1 item []
            return (nodes, nodes.pairs item ++ known.2)
          else .error .malformed)
        (nodes, [])
    | _ => .error .malformed

end

/-- Merges into a mapping all that it names. Every merge key is taken away on the way, so twice
their number is fuel enough. -/
def merge (nodes : Nodes) (ref : Ref) : Except Fault Nodes :=
  mergeFrom (2 * nodes.mergeCount + 2) nodes ref []

end Nodes

end Flowchart.Yaml
