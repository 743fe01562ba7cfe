import Flowchart.Caption
import Flowchart.Chart.FrontMatter
import Flowchart.Chart.Line
import Flowchart.Remark
import Flowchart.Text.Numeral

/-!
# Reading charts

A chart is a header line, which may be missing, and lines of statements. The nodes of the flow are
those that the lines mention, in order, and the first of them is the start.
-/

namespace Flowchart.Chart

def skipHeaderGaps (s : Text) : Text :=
  let rest := s.dropWhile fun c => Text.isGap c || c == '\r'
  if Text.startsWith rest "%%".toList then [] else rest

def afterWord? (word s : Text) : Option Text :=
  if (s.take word.length).map Char.toLower = word then some (s.drop word.length) else none

def header? (s : Text) : Option Direction := do
  let rest ← ((afterWord? "flowchart".toList s).filter endsWord).or
    ((afterWord? "graph".toList s).filter endsWord)
  return (Direction.ofWord? ((Text.skipGaps rest).take 2)).getD .td

def splitHeader? : List Text → Option (Direction × List Text)
  | [] => none
  | line :: lines =>
    match skipHeaderGaps line with
    | [] => splitHeader? lines
    | rest => (header? rest).map (·, lines)

structure LineFault where
  fault : Fault
  line : Nat
  deriving DecidableEq, Repr

namespace LineFault

def message (broken : LineFault) : Text :=
  let line := " on line ".toList ++ Text.ofNat broken.line
  match broken.fault with
  | .unclosedQuote => "Unterminated string".toList ++ line
  | .expectedCloser closer node =>
    "Expected '".toList ++ closer ++ "' after text of node '".toList ++ node ++ ['\''] ++ line
  | .unclosedShape node => "Unclosed shape for node '".toList ++ node ++ ['\''] ++ line
  | .unclosedLabel => "Unclosed edge label".toList ++ line
  | .badCode code => code.message

end LineFault

def statementsOf (number : Nat) : List Text → Except LineFault (List Statement)
  | [] => .ok []
  | s :: lines =>
    match (Line.read s).ending with
    | .broken fault => .error ⟨fault, number⟩
    | _ =>
      match statementsOf (number + 1) lines with
      | .error broken => .error broken
      | .ok statements => .ok ((Line.read s).statements ++ statements)

/-- Notes on lines of which something was dropped, up to the first one with a fault. -/
def lineRemarks (number : Nat) : List Text → List Remark
  | [] => []
  | s :: lines =>
    let note (what : String) : Remark :=
      ⟨.debug, .chartReader, "mermaid: ".toList ++ what.toList ++ " line ".toList ++
        Text.ofNat number⟩
    match (Line.read s).ending with
    | .broken _ => []
    | .complete => lineRemarks (number + 1) lines
    | .unrecognized => note "skipping unrecognized" :: lineRemarks (number + 1) lines
    | .trailing => note "ignoring trailing text on" :: lineRemarks (number + 1) lines

def layout (body : Text) : Direction × Nat × List Text :=
  let lines := Text.split '\n' body
  match splitHeader? lines with
  | none => (.td, 1, lines)
  | some (direction, rest) => (direction, lines.length - rest.length + 1, rest)

namespace Sheet

def ofStatements (direction : Direction) (statements : List Statement) : Sheet where
  direction := direction
  mentions := addMentions [] (statements.flatMap Statement.mentions)
  links := statements.flatMap Statement.links

def read (body : Text) : Except LineFault Sheet :=
  let (direction, number, lines) := layout body
  (statementsOf number lines).map (ofStatements direction)

def caption (mention : Mention) : Caption :=
  match mention.text with
  | some text => Caption.ofText text
  | none => Caption.ofId mention.id

/-- Arrows and rectangles are what is usual, so only other styles and shapes are recorded. -/
def addLink (node : Node) (link : Link) : Node :=
  let outlet := node.nextOutlet link.target (.ofText? link.label) .null
  let metadata : Json :=
    if link.style = .arrow then .null
    else .obj [("edgeStyle".toList, .str link.style.name)]
  { node with outlets := node.outlets ++ [{ outlet with metadata := metadata }] }

def node (sheet : Sheet) (mention : Mention) : Node :=
  let bare : Node :=
    { id := mention.id
      title := .str (caption mention).title
      content := .str (caption mention).content
      metadata := if mention.shape = .rectangle then .null
        else .obj [("shape".toList, .str mention.shape.name)] }
  (sheet.links.filter (·.source = mention.id)).foldl addLink bare

def toFlow (sheet : Sheet) (title description : Option Text) : Flow where
  id := "mermaid-flowchart".toList
  title := .str (title.getD "Mermaid Flowchart".toList)
  start := (sheet.mentions.head?.map Mention.id).getD []
  nodes := sheet.mentions.map sheet.node
  description := .ofText? description
  metadata := .obj ([("format".toList, .str "mermaid".toList),
    ("direction".toList, .str sheet.direction.name)] ++
      (title.map fun s => ("originalTitle".toList, Json.str s)).toList)

end Sheet

inductive ReadFault where
  | frontMatter (fault : Yaml.Fault)
  | line (broken : LineFault)
  deriving DecidableEq, Repr

namespace ReadFault

def message : ReadFault → Text
  | frontMatter .malformed => "Invalid front matter: malformed mapping".toList
  | frontMatter fault => fault.message
  | line broken => broken.message

end ReadFault

def read (s : Text) : Except ReadFault Flow :=
  match FrontMatter.read s with
  | .error fault => .error (.frontMatter fault)
  | .ok front =>
    match Sheet.read front.body with
    | .error broken => .error (.line broken)
    | .ok sheet =>
      Except.mapError .frontMatter do
        let title ← front.text? "title".toList
        let description ← front.text? "description".toList
        return sheet.toFlow title description

def remarks (s : Text) : List Remark :=
  match FrontMatter.read s with
  | .error _ => []
  | .ok front =>
    let (_, number, lines) := layout front.body
    lineRemarks number lines

end Flowchart.Chart
