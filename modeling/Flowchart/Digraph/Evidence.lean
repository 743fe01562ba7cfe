import Flowchart.Evidence
import Flowchart.Text.Caseless

/-!
# Evidence for digraphs

The declaration of a graph, lines with edges, attributes or braces, and keywords.
-/

namespace Flowchart.Digraph

def skipStrict (s : Text) : Text :=
  match Text.afterCaseless? "strict".toList s with
  | none => s
  | some rest => if rest.head?.any Text.isBlank then Text.trimLeft rest else s

def skipName (s : Text) : Text :=
  match s with
  | '"' :: rest =>
    match rest.dropWhile (· != '"') with
    | _ :: after => after
    | [] => s
  | _ => s.dropWhile fun c => Text.isWord c || c == '.'

def declaresGraph (s : Text) : Bool :=
  let s := skipStrict s
  let s := (Text.afterCaseless? "di".toList s).getD s
  match Text.afterCaseless? "graph".toList s with
  | none => false
  | some rest => (Text.trimLeft (skipName (Text.trimLeft rest))).head? == some '\x7b'

def wordThen (mark : Char) (s : Text) : Bool :=
  s.head?.any Text.isWord && (Text.trimLeft (s.dropWhile Text.isWord)).head? == some mark

def isTypicalLine (line : Text) : Bool :=
  Text.occursIn "->".toList line || Text.occursIn "--".toList line ||
    Text.anyTail (fun s => s.head? == some '[' && wordThen '=' (Text.trimLeft s.tail)) line ||
    wordThen '[' line || line == ['\x7d'] || line == ['\x7b'] ||
    Text.anyTail (fun s => (Text.afterCaseless? "subgraph".toList s).isSome) line

def evidenceWords : List Text :=
  ["digraph".toList, "graph".toList, "subgraph".toList, "node".toList, "edge".toList,
   "strict".toList]

def evidence (text : Text) : Evidence :=
  let s := Text.trim text
  [.once (declaresGraph s) 40,
    ⟨(Text.trimmedLines s).countP isTypicalLine, 10, 40⟩,
    ⟨evidenceWords.countP fun word => Text.hasWord word false s, 5, 20⟩,
    .once (s.contains '\x7b' && s.contains '\x7d') 10]

end Flowchart.Digraph
