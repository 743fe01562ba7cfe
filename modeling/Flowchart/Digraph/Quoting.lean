import Flowchart.Text

/-!
# Quoting for digraphs

Names and numbers stand as they are, and so does text in angle brackets where that is wanted. All
else stands in quotes.
-/

namespace Flowchart.Digraph

def isNameStart (c : Char) : Bool := c.isAlpha || c == '_'

def isName (s : Text) : Bool :=
  match s with
  | c :: rest => isNameStart c && rest.all fun d => isNameStart d || d.isDigit
  | [] => false

/-- Digits with at most one point among them, and perhaps a minus sign before them. -/
def isNumeral (s : Text) : Bool :=
  let body := (Text.after? ['-'] s).getD s
  match body.span Char.isDigit with
  | ([], '.' :: decimals) => !decimals.isEmpty && decimals.all Char.isDigit
  | (_ :: _, []) => true
  | (_ :: _, '.' :: decimals) => decimals.all Char.isDigit
  | _ => false

def keywords : List Text :=
  ["node".toList, "edge".toList, "graph".toList, "digraph".toList, "subgraph".toList,
   "strict".toList]

def isKeyword (s : Text) : Bool := keywords.contains (s.map Char.toLower)

def isBare (s : Text) : Bool :=
  (isName (Text.withoutLastBreak s) || isNumeral (Text.withoutLastBreak s)) && !isKeyword s

def isAngled (s : Text) : Bool :=
  s.head? == some '<' && 1 < (Text.withoutLastBreak s).length &&
    (Text.withoutLastBreak s).getLast? == some '>'

/-- Puts a backslash before a quote unless an odd number of them stands there. `odd` tells whether
it does so far. -/
def guardQuotes : Bool → Text → Text
  | _, [] => []
  | odd, c :: s =>
    if c = '"' then (if odd then ['"'] else ['\\', '"']) ++ guardQuotes false s
    else c :: guardQuotes (c = '\\' && !odd) s

def enquote (s : Text) : Text := '"' :: guardQuotes false s ++ ['"']

def quotePlain (s : Text) : Text := if isBare s then s else enquote s

def quote (s : Text) : Text := if isAngled s then s else quotePlain s

/-- An end of an edge. Up to its second colon it is taken for a name and a port. -/
def quoteTerminal (s : Text) : Text :=
  let name := quote (s.takeWhile (· != ':'))
  match s.dropWhile (· != ':') with
  | _ :: c :: rest =>
    let port := quote ((c :: rest).takeWhile (· != ':'))
    match (c :: rest).dropWhile (· != ':') with
    | _ :: d :: compass => name ++ ':' :: port ++ ':' :: d :: compass
    | _ => name ++ ':' :: port
  | _ => name

end Flowchart.Digraph
