import Flowchart.Activity.Escape
import Flowchart.Text.Digit
import Flowchart.Text.Quoted

/-!
# Scripts

A script is the title of a diagram and its statement lines. Comments, notes and directives are
gone, and an activity that runs over several lines is joined to one.
-/

namespace Flowchart.Activity

structure Script where
  title : Option Text
  statements : List Text
  deriving DecidableEq, Repr

structure Unterminated where
  line : Text
  deriving DecidableEq, Repr

namespace Unterminated

def message (fault : Unterminated) : Text :=
  "Unterminated activity: ".toList ++ fault.line.quoted

end Unterminated

def blockComment? (s : Text) : Option Nat := do
  let rest ← Text.after? "/'".toList s
  let inner ← Text.indexOf? "'/".toList rest
  return inner + 4

def dropBlockComments (s : Text) : Text :=
  Text.substitute (fun s => (blockComment? s).map (·, [])) 0 s

def isKept (line : Text) : Bool :=
  match line with
  | [] => false
  | c :: _ => c != '\'' && c != '@'

def afterWord? (word s : Text) : Option Text :=
  (Text.after? word s).filter fun rest => !(rest.head?.any Text.isWord)

def opensNote (line : Text) : Bool :=
  (afterWord? "note".toList line).isSome ||
    match Text.after? "floating".toList line with
    | some (c :: rest) =>
      Text.isBlank c && (afterWord? "note".toList (Text.trimLeft rest)).isSome
    | _ => false

def closesNote (line : Text) : Bool :=
  match Text.after? "end".toList line with
  | some (c :: rest) =>
    (if Text.isBlank c then rest else c :: rest) == "note".toList
  | _ => false

/-- A note with a colon in its first line ends with that line, any other at its end line. -/
def dropNotes : Bool → List Text → List Text
  | _, [] => []
  | true, line :: lines => dropNotes (!closesNote line) lines
  | false, line :: lines =>
    if opensNote line then dropNotes (!line.contains ':') lines
    else line :: dropNotes false lines

/-- `opened` holds the lines of an activity that has not ended yet. -/
def joinActivities : List Text → List Text → Except Unterminated (List Text)
  | [], [] => .ok []
  | first :: _, [] => .error ⟨first⟩
  | [], line :: lines =>
    if Text.startsWith line [':'] && !Text.endsWith line [';'] then joinActivities [line] lines
    else (joinActivities [] lines).map (line :: ·)
  | first :: opened, line :: lines =>
    let all := first :: opened ++ [line]
    if Text.endsWith line [';'] then (joinActivities [] lines).map (Text.join [' '] all :: ·)
    else joinActivities all lines

def title? (line : Text) : Option Text :=
  match Text.after? "title".toList line with
  | some (c :: rest) =>
    let raw := Text.trimLeft rest
    if Text.isBlank c && !raw.isEmpty then
      some (Text.join [' '] (Text.words (unescape raw)))
    else none
  | _ => none

namespace Script

/-- The first title counts; no title line is a statement. -/
def ofLines (lines : List Text) : Script where
  title := lines.findSome? title?
  statements := lines.filter fun line => (title? line).isNone

def read (s : Text) : Except Unterminated Script :=
  let lines := ((Text.lines (dropBlockComments s)).map Text.trim).filter isKept
  (joinActivities [] (dropNotes false lines)).map ofLines

end Script

end Flowchart.Activity
