import Flowchart.Evidence
import Flowchart.Text.Digit

/-!
# Evidence for activity diagrams

The marks of a diagram, statements on lines of their own, and a title.
-/

namespace Flowchart.Activity

def isParenthesized (s : Text) : Bool :=
  s.head? == some '(' && 2 < s.length && s.getLast? == some ')'

def isTest (word line : Text) : Bool :=
  match (Text.after? word line).map Text.trimLeft with
  | some ('(' :: _ :: rest) =>
    Text.anyTail (fun s => match s with
      | ')' :: after =>
        ((Text.after? "then".toList (Text.trimLeft after)).map Text.trimLeft).any isParenthesized
      | _ => false) rest
  | _ => false

def isElse (line : Text) : Bool :=
  (Text.after? "else".toList line).any fun rest =>
    rest.isEmpty || isParenthesized (Text.trimLeft rest)

def isWordPair (word line : Text) : Bool :=
  (Text.after? word line).any fun rest =>
    rest.head?.any Text.isBlank && !(Text.trimLeft rest).isEmpty &&
      (Text.trimLeft rest).all Text.isWord

def isNoteLine (line : Text) : Bool :=
  (Text.after? "note".toList line).any fun rest =>
    rest.head?.any Text.isBlank &&
      ["left".toList, "right".toList, "top".toList, "bottom".toList].any
        (Text.startsWith (Text.trimLeft rest))

def loneWords : List Text :=
  ["start".toList, "stop".toList, "end".toList, "kill".toList, "detach".toList, "endif".toList]

def isActivityLine (line : Text) : Bool :=
  2 < line.length && line.head? == some ':' && line.getLast? == some ';'

def isTypicalLine (line : Text) : Bool :=
  loneWords.contains line || isActivityLine line || isTest "if".toList line || isElse line ||
    isTest "elseif".toList line || isWordPair "label".toList line ||
    isWordPair "goto".toList line || isNoteLine line

def terminalWords : List Text := ["start".toList, "stop".toList, "end".toList]

def isTitle (s : Text) : Bool :=
  (Text.after? "title".toList s).any fun rest => rest.head?.any Text.isBlank

def evidence (text : Text) : Evidence :=
  let s := Text.trim text
  [.once (Text.occursIn "@startuml".toList s || Text.occursIn "@enduml".toList s) 40,
    .once ((Text.split '\n' s).any terminalWords.contains) 20,
    ⟨(Text.trimmedLines s).countP isTypicalLine, 10, 30⟩,
    .once (Text.anyLineStart isTitle s) 10]

end Flowchart.Activity
