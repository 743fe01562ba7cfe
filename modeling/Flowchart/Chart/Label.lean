import Flowchart.Chart.Sheet
import Flowchart.Flow
import Flowchart.UniqueIds

/-!
# Labels of written charts

Ids, texts of nodes and labels of edges in the form that a chart has room for. What would end a
label too early is written as a reference or left out.
-/

namespace Flowchart.Chart

def isSafe (c : Char) : Bool := c.isAlphanum || c == '_'

/-- Letters, digits and underscores stay; the word `end` has a meaning of its own. -/
def safeId (name : Text) : Text :=
  match name.map fun c => if isSafe c then c else '_' with
  | [] => ['_']
  | safe => if safe = "end".toList then "end_".toList else safe

/-- Cuts a text that is too long, if the limit leaves room for the dots. -/
def truncate (limit : Int) (s : Text) : Text :=
  if 3 < limit ∧ limit < s.length then s.take (limit - 3).toNat ++ "...".toList else s

def isBracket (c : Char) : Bool := "[]()\x7b\x7d<>".toList.contains c

def nodeChar (c : Char) : Text :=
  if c = '\n' then "<br/>".toList
  else if c = '"' then "&quot;".toList
  else if c = '|' then "&#124;".toList
  else [c]

/-- Brackets need quotes around the text. -/
def nodeText (limit : Int) (s : Text) : Text :=
  match truncate limit (Text.trim (s.flatMap nodeChar)) with
  | [] => "Node".toList
  | short => if s.any isBracket then '"' :: short ++ ['"'] else short

def labelChar (c : Char) : Text :=
  if "|()[]\x7b\x7d".toList.contains c then []
  else if c = '\n' then [' ']
  else if c = '"' then "&quot;".toList
  else [c]

def collapse : Text → Text
  | [] => []
  | c :: s =>
    if Text.isBlank c then
      match collapse s with
      | ' ' :: rest => ' ' :: rest
      | rest => ' ' :: rest
    else c :: collapse s

def edgeLabel (limit : Int) (s : Text) : Text :=
  truncate limit (Text.trim (collapse (s.flatMap labelChar)))

end Flowchart.Chart
