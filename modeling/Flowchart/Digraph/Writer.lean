import Flowchart.Digraph.Quoting
import Flowchart.Graph
import Flowchart.Text.Upper

/-!
# Writing digraphs

First the attributes of the graph and the look of its nodes, then the nodes, then the edges. Nodes
that decide are diamonds.
-/

namespace Flowchart.Digraph

def labelChar (c : Char) : Text :=
  if c = '\\' then "\\\\".toList else if c = '\n' then "\\n".toList else [c]

def writtenLabel (s : Text) : Text := quotePlain (s.flatMap labelChar)

def labelValue (value : Json) : Except Misfit Text :=
  match value with
  | .str s => .ok (writtenLabel s)
  | other => .error (.notText other)

def rankDirection (word : Text) : Text :=
  let upper := Text.upper word
  if upper = "TD".toList then "TB".toList else upper

def attributes (pairs : List (Text × Text)) : Text :=
  " [".toList ++ Text.join [' '] (pairs.map fun pair => pair.1 ++ '=' :: pair.2) ++ [']']

def titlePairs (flow : Flow) : Except Misfit (List (Text × Text)) :=
  if flow.title.isVoid then .ok []
  else (labelValue flow.title).map fun s => [("label".toList, s), ("labelloc".toList, ['t'])]

def nodeLine (graph : Graph) (node : Node) : Except Misfit Text :=
  (labelValue (node.caption.orElse (.str node.id))).map fun label =>
    let look := if graph.kind node.id = .decision then
        [("shape".toList, "diamond".toList), ("style".toList, ['"', '"'])]
      else []
    '\t' :: quote node.id ++ attributes (("label".toList, label) :: look)

def edgeLine (source : Text) (branch : Outlet × Json) : Except Misfit Text := do
  let label ←
    if branch.2.isVoid then .ok []
    else (labelValue branch.2).map fun s => attributes [("label".toList, s)]
  return '\t' :: quoteTerminal source ++ " -> ".toList ++ quoteTerminal branch.1.target ++ label

def edgeLines (node : Node) : Except Misfit (List Text) := node.branches.mapM (edgeLine node.id)

def write (direction : Text) (flow : Flow) : Except Misfit Text := do
  let name := if flow.id.isEmpty then "flowchart".toList else flow.id
  let title ← titlePairs flow
  let head :=
    ["digraph ".toList ++ quote name ++ " \x7b".toList,
      "\tgraph".toList ++
        attributes (title ++ [("rankdir".toList, quote (rankDirection direction))]),
      "\tnode [shape=box style=rounded]".toList]
  let graph ← flow.graph
  let nodes ← flow.nodes.mapM (nodeLine graph)
  let edges ← flow.nodes.mapM edgeLines
  return (head ++ nodes ++ edges.flatten ++ [['\x7d']]).flatMap (· ++ ['\n'])

end Flowchart.Digraph
