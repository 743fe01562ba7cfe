import Flowchart.Chart.Statement

/-!
# Lines of a chart

No statement goes past the end of a line, so a chart is read line by line. A line holds statements
between semicolons or carriage returns, and ends well, with something that is no statement, or with
a fault.
-/

namespace Flowchart.Chart

inductive Ending where
  | complete
  | unrecognized
  | trailing
  | broken (fault : Fault)
  deriving DecidableEq, Repr

structure Line where
  statements : List Statement := []
  ending : Ending := .complete
  deriving DecidableEq, Repr

def skippedWords : List Text :=
  ["classDef".toList, "class".toList, "style".toList, "linkStyle".toList, "click".toList,
   "direction".toList, "accTitle".toList, "accDescr".toList, "subgraph".toList]

def endsWord (s : Text) : Bool := !(s.head?.any Text.isWord)

def isSkipped (s : Text) : Bool :=
  skippedWords.any fun word => (Text.after? word s).any endsWord

/-- What follows the word `end`, unless it begins a longer id. -/
def afterEnd? (s : Text) : Option Text :=
  (Text.after? "end".toList s).filter fun rest => endsWord rest && rest.head? != some '-'

def isSeparator (c : Char) : Bool := c == ';' || c == '\r'

namespace Line

def push (statement : Statement) (line : Line) : Line :=
  { line with statements := statement :: line.statements }

/-- The line from here on. `free` says whether a statement may begin here: one that ended needs a
separator first. -/
def readFrom (free : Bool) (s : Text) : Line :=
  match _hs : skipBlanks s with
  | [] => {}
  | c :: rest =>
    if isSeparator c then readFrom true rest
    else if !free then { ending := .trailing }
    else if isSkipped (c :: rest) then {}
    else
      match _he : afterEnd? (c :: rest) with
      | some after => readFrom false after
      | none =>
        match _hr : Statement.read? (c :: rest) with
        | .error fault => { ending := .broken fault }
        | .ok none => { ending := .unrecognized }
        | .ok (some (statement, after)) => (readFrom false after).push statement
termination_by s.length
decreasing_by
  · have := length_skipBlanks_le s
    rw [_hs, List.length_cons] at this
    omega
  · have := length_skipBlanks_le s
    have := length_of_after? (Option.filter_eq_some_iff.1 _he).1
    have : "end".toList.length = 3 := rfl
    rw [_hs] at *
    omega
  · have := length_skipBlanks_le s
    have := Statement.length_of_read? _hr
    rw [_hs] at *
    omega

def read (s : Text) : Line := readFrom true s

end Line

end Flowchart.Chart
