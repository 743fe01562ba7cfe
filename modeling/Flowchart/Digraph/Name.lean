import Flowchart.Text

/-!
# Names and labels in digraphs

What an id or a value stands for, once its quotes and brackets are taken away.
-/

namespace Flowchart.Digraph

def between? (first last : Char) (s : Text) : Option Text :=
  match s with
  | c :: rest =>
    if c == first && !rest.isEmpty && rest.getLast? == some last then some rest.dropLast else none
  | [] => none

/-- Every backslash before a quote goes. -/
def plainQuotes : Text → Text
  | '\\' :: '"' :: s => '"' :: plainQuotes s
  | c :: s => c :: plainQuotes s
  | [] => []

def unquote (value : Text) : Text :=
  let s := Text.trim value
  match between? '"' '"' s with
  | some inner => plainQuotes inner
  | none => (between? '<' '>' s).getD s

def isBreakLetter (c : Char) : Bool := c == 'n' || c == 'l' || c == 'r'

/-- A backslash before one of the letters n, l and r is a line feed. -/
def plainBreaks : Text → Text
  | '\\' :: c :: s =>
    if isBreakLetter c then '\n' :: plainBreaks s else '\\' :: plainBreaks (c :: s)
  | c :: s => c :: plainBreaks s
  | [] => []

def plainBackslashes : Text → Text
  | '\\' :: '\\' :: s => '\\' :: plainBackslashes s
  | c :: s => c :: plainBackslashes s
  | [] => []

/-- Line feeds are found before backslashes are halved. -/
def unescape (s : Text) : Text := plainBackslashes (plainBreaks s)

def throughLastQuote (s : Text) : Text := (s.reverse.dropWhile (· != '"')).reverse

def nodeName (s : Text) : Text :=
  let raw := Text.trim s
  let quoted := throughLastQuote raw
  if raw.head? == some '"' && 1 < quoted.length then unquote quoted
  else raw.takeWhile (· != ':')

end Flowchart.Digraph
