import Flowchart.Evidence
import Flowchart.Text.Digit

/-!
# Evidence for charts

A header with a direction, front matter, lines with nodes or arrows, and comments.
-/

namespace Flowchart.Chart

def headerWords : List Text := ["flowchart".toList, "graph".toList]

def directionWords : List Text :=
  ["TD".toList, "TB".toList, "BT".toList, "RL".toList, "LR".toList]

def isHeader (s : Text) : Bool :=
  headerWords.any fun word => (Text.after? word s).any fun rest =>
    rest.head?.any Text.isBlank && directionWords.any (Text.startsWith (Text.trimLeft rest))

def hasFront (s : Text) : Bool :=
  Text.startsWith s "---".toList && Text.occursIn "---\n".toList s

def hasNode (line : Text) : Bool :=
  Text.anyTail (fun s => match s with
    | c :: mark :: rest =>
      Text.isWord c && ((mark == '[' && rest.contains ']') || (mark == '(' && rest.contains ')') ||
        (mark == '\x7b' && rest.contains '\x7d') || (mark == '>' && rest.contains '<'))
    | _ => false) line

def arrowMarks : List Text :=
  ["-->".toList, "---".toList, "-.-".toList, "==>".toList, "===".toList, "~~".toList]

def hasArrow (line : Text) : Bool := arrowMarks.any (Text.occursIn · line)

def evidence (text : Text) : Evidence :=
  let lines := Text.trimmedLines text
  [.once (Text.anyLineStart isHeader text) 80, .once (hasFront text) 30,
    ⟨lines.countP hasNode, 10, 40⟩, ⟨lines.countP hasArrow, 5, 30⟩,
    .once (lines.any (Text.startsWith · "%%".toList)) 10]

end Flowchart.Chart
