import Flowchart.Caption
import Flowchart.Digraph.Name
import Flowchart.Digraph.Statement
import Flowchart.Graph
import Flowchart.Remark
import Flowchart.UniqueIds

/-!
# Reading digraphs

The statements of the first graph name nodes and link them. A group at an end of an edge stands for
its members; the statements inside it count for nothing else.
-/

namespace Flowchart.Digraph

inductive Fault where
  | malformed
  | reservedKey (key : Text)
  deriving DecidableEq, Repr

namespace Fault

def message : Fault → Text
  | malformed => "Failed to parse DOT: malformed graph".toList
  | reservedKey key => "Failed to parse DOT: attribute ".toList ++ key ++ " is reserved".toList

end Fault

def reservedInNodes : List Text := ["name".toList, "obj_dict".toList, "self".toList]

def reservedInEdges : List Text :=
  ["src".toList, "dst".toList, "obj_dict".toList, "self".toList]

def reservedIn (keys : List Text) (attributes : Attributes) : Option Text :=
  (attributes.map Prod.fst).find? keys.contains

mutual

def reserved? : Statement → Option Text
  | .assignment .. => none
  | .defaults _ attributes => reservedIn reservedInNodes attributes
  | .node _ attributes => reservedIn reservedInNodes attributes
  | .edges first others attributes =>
    (reservedInTerminal? first).or <| (reservedInTerminals? others).or <|
      reservedIn reservedInEdges attributes
  | .group statements => reservedInAll? statements

def reservedInTerminal? : Terminal → Option Text
  | .node .. => none
  | .group statements => reservedInAll? statements

def reservedInTerminals? : List Terminal → Option Text
  | [] => none
  | terminal :: rest => (reservedInTerminal? terminal).or (reservedInTerminals? rest)

def reservedInAll? : List Statement → Option Text
  | [] => none
  | statement :: rest => (reserved? statement).or (reservedInAll? rest)

end

def valueOf (key : Text) (attributes : Attributes) : Option Text :=
  ((attributes.reverse.find? fun a => a.1 == key).map Prod.snd).join

def labelText (value : Option Text) : Option Text :=
  ((value.map unquote).filter (!·.isEmpty)).map unescape

def labelOf (attributes : Attributes) : Option Text :=
  labelText (valueOf "label".toList attributes)

/-- The key under which a node statement is known. Outside of quotes it ends before a colon. -/
def nodeKey (id : Text) : Text :=
  match id with
  | '"' :: _ => id
  | _ => id.takeWhile (· != ':')

def isSubject (key : Text) : Bool := Subject.all.any (·.word == key)

def withPorts (id : Text) (ports : List Text) : Text := id ++ ports.flatMap (':' :: ·)

def terminalNames : List Terminal → List Text
  | [] => []
  | .node id ports :: rest => nodeName (withPorts id ports) :: terminalNames rest
  | .group _ :: rest => terminalNames rest

def statedNames (statements : List Statement) : List Text :=
  let keys := statements.filterMap fun statement => match statement with
    | .node id _ => some (nodeKey id)
    | _ => none
  (keys.eraseDups.filter (!isSubject ·)).map nodeName

def edgeNames (statements : List Statement) : List Text :=
  statements.flatMap fun statement => match statement with
    | .edges first others _ => terminalNames (first :: others)
    | _ => []

/-- Stated nodes come first, then those that only edges name. -/
def members (statements : List Statement) : List Text :=
  (edgeNames statements).foldl
    (fun names name => if names.contains name then names else names ++ [name])
    (statedNames statements)

def namesOf : Terminal → List Text
  | .node id ports => [nodeName (withPorts id ports)]
  | .group statements => members statements

structure Link where
  source : Text
  target : Text
  label : Option Text
  deriving DecidableEq, Repr

/-- Nodes with their labels, and links between them, in the order in which they come up. -/
structure Draft where
  nodes : List (Text × Option Text) := []
  links : List Link := []
  deriving DecidableEq, Repr

namespace Draft

def addNode (name : Text) (label : Option Text) :
    List (Text × Option Text) → List (Text × Option Text)
  | [] => [(name, label)]
  | known :: rest =>
    if known.1 = name then
      let kept := (label.getD []).isEmpty || !(known.2.getD []).isEmpty
      (if kept then known else (name, label)) :: rest
    else known :: addNode name label rest

def addLink (draft : Draft) (link : Link) : Draft where
  nodes := addNode link.target none (addNode link.source none draft.nodes)
  links := draft.links ++ [link]

/-- Links every node of one end to every node of the next. -/
def addEdges (label : Option Text) (draft : Draft) : Terminal → List Terminal → Draft
  | _, [] => draft
  | first, next :: rest =>
    let pairs := (namesOf first).flatMap fun source => (namesOf next).map fun target =>
      (⟨source, target, label⟩ : Link)
    addEdges label (pairs.foldl addLink draft) next rest

mutual

def addStatement (draft : Draft) : Statement → Draft
  | .assignment .. => draft
  | .defaults .. => draft
  | .node id attributes =>
    if isSubject (nodeKey id) then draft
    else { draft with
      nodes := addNode (nodeName (nodeKey id)) (labelOf attributes) draft.nodes }
  | .edges first others attributes => draft.addEdges (labelOf attributes) first others
  | .group statements => addStatements draft statements

def addStatements (draft : Draft) : List Statement → Draft
  | [] => draft
  | statement :: rest => addStatements (addStatement draft statement) rest

end

def idsOf (draft : Draft) : UniqueIds :=
  UniqueIds.addAll UniqueIds.sanitize (draft.nodes.map Prod.fst)

def caption (name : Text) (label : Option Text) : Caption :=
  match label.filter (!·.isEmpty) with
  | some text => Caption.ofText text
  | none => Caption.ofId name

def node (draft : Draft) (ids : UniqueIds) (name : Text) (label : Option Text) : Node :=
  (draft.links.filter (·.source = name)).foldl
    (fun node link => node.addOutlet (ids.idOf link.target) (.ofText? link.label) .null)
    { id := ids.idOf name
      title := .str (caption name label).title
      content := .str (caption name label).content }

def toNodes (draft : Draft) : List Node :=
  let ids := draft.idsOf
  draft.nodes.map fun entry => draft.node ids entry.1 entry.2

end Draft

namespace Drawing

def defaultLabel (drawing : Drawing) : Option Text :=
  (drawing.statements.filterMap fun statement => match statement with
    | .defaults .graph attributes => some (labelOf attributes)
    | .node id attributes => if id = "graph".toList then some (labelOf attributes) else none
    | _ => none).getLast?.join

def assignedLabel (drawing : Drawing) : Option Text :=
  labelOf (drawing.statements.filterMap fun statement => match statement with
    | .assignment key value => some (key, some value)
    | _ => none)

def label (drawing : Drawing) : Option Text :=
  ((drawing.assignedLabel.filter (!·.isEmpty)).or drawing.defaultLabel).filter (!·.isEmpty)

def draft (drawing : Drawing) : Draft := Draft.addStatements {} drawing.statements

def toFlow (drawing : Drawing) : Flow :=
  let name := (drawing.name.map unquote).filter (!·.isEmpty)
  let flow : Flow :=
    { id := "dot-digraph".toList
      title := .str (drawing.label.getD "DOT Digraph".toList)
      nodes := drawing.draft.toNodes
      metadata := .obj ([("format".toList, .str "dot".toList),
          ("graphType".toList, .str drawing.keyword)] ++
        (name.map fun s => ("graphName".toList, Json.str s)).toList ++
        (drawing.label.map fun s => ("originalTitle".toList, Json.str s)).toList) }
  { flow with start := (Graph.ofFlow flow).start }

end Drawing

def read (s : Text) : Except Fault Flow :=
  match drawings s with
  | [] => .error .malformed
  | drawing :: others =>
    match reservedInAll? ((drawing :: others).flatMap Drawing.statements) with
    | some key => .error (.reservedKey key)
    | none => .ok drawing.toFlow

def remarks (s : Text) : List Remark :=
  match drawings s, read s with
  | _ :: _ :: _, .ok _ =>
    [⟨.debug, .digraphReader, "DOT input holds ".toList ++ Text.ofNat (drawings s).length ++
      " graphs; using the first".toList⟩]
  | _, _ => []

end Flowchart.Digraph
