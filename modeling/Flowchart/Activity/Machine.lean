import Flowchart.Activity.Statement
import Flowchart.Caption
import Flowchart.Remark

/-!
# The activity machine

Statements run one after the other and build a graph. The machine stands at a vertex, or holds
exits: loose ends that the next vertex is entered from. Every open condition has a frame that
collects the loose ends of its branches.
-/

namespace Flowchart.Activity

inductive VertexKind where
  | start
  | finish
  | activity
  | decision
  deriving DecidableEq, Repr

namespace VertexKind

def name : VertexKind → Text
  | start => "start".toList
  | finish => "end".toList
  | activity => "activity".toList
  | decision => "decision".toList

end VertexKind

/-- Vertices are numbered from one in the order of their creation. -/
structure Vertex where
  kind : VertexKind
  number : Nat
  deriving DecidableEq, Repr

namespace Vertex

def id (v : Vertex) : Text := v.kind.name ++ '_' :: Text.ofNat v.number

end Vertex

/-- A loose end: the edge that leaves a vertex will carry the label. -/
structure Exit where
  source : Vertex
  label : Option Text
  deriving DecidableEq, Repr

structure Place where
  vertex : Vertex
  caption : Caption
  edges : List (Vertex × Option Text)
  deriving DecidableEq, Repr

/-- An open condition. A chained one was opened by `elseif` and closes with the one below it. -/
structure Frame where
  decision : Vertex
  thenLabel : Option Text
  elseLabel : Option Text := none
  inElse : Bool := false
  branchTaken : Bool := false
  chained : Bool := false
  terminals : List Exit := []
  deriving DecidableEq, Repr

structure Goto where
  source : Vertex
  name : Text
  label : Option Text
  deriving DecidableEq, Repr

inductive Warning where
  | repeatedLabel (name : Text)
  | strayElseIf
  | strayElse
  | strayEndIf
  | undeclaredLabel (name : Text) (source : Vertex)
  | unclosedIf (title : Text)
  | idleLabel (name : Text)
  deriving DecidableEq, Repr

namespace Warning

def message : Warning → Text
  | repeatedLabel name =>
    "Label '".toList ++ name ++ "' declared more than once; keeping the first".toList
  | strayElseIf => "'elseif' without a matching 'if' ignored".toList
  | strayElse => "'else' without a matching 'if' ignored".toList
  | strayEndIf => "'endif' without a matching 'if' ignored".toList
  | undeclaredLabel name source =>
    "Undeclared goto label '".toList ++ name ++ "' from '".toList ++ source.id ++ ['\'']
  | unclosedIf title => "Unclosed if block '".toList ++ title ++ ['\'']
  | idleLabel name => "Label '".toList ++ name ++ "' is not followed by any node".toList

end Warning

/-- Frames stand innermost first. -/
structure Machine where
  places : List Place := []
  current : Option Vertex := none
  frames : List Frame := []
  labels : List (Text × Vertex) := []
  pendingLabels : List Text := []
  arrowLabel : Option Text := none
  gotos : List Goto := []
  exits : List Exit := []
  warnings : List Warning := []
  deriving DecidableEq, Repr

namespace Frame

def branchLabel (frame : Frame) : Option Text :=
  if frame.inElse then frame.elseLabel else frame.thenLabel

end Frame

namespace Machine

def connect (m : Machine) (source target : Vertex) (label : Option Text) : Machine :=
  { m with places := m.places.map fun place =>
      if place.vertex = source then { place with edges := place.edges ++ [(target, label)] }
      else place }

def connectAll (m : Machine) (exits : List Exit) (target : Vertex) : Machine :=
  exits.foldl (fun m exit => m.connect exit.source target exit.label) m

def nextVertex (m : Machine) (kind : VertexKind) : Vertex := ⟨kind, m.places.length + 1⟩

def bindLabel (target : Vertex) (m : Machine) (name : Text) : Machine :=
  match m.labels.lookup name with
  | some _ => { m with warnings := m.warnings ++ [.repeatedLabel name] }
  | none => { m with labels := m.labels ++ [(name, target)] }

def create (m : Machine) (kind : VertexKind) (text : Text) : Machine :=
  let vertex := m.nextVertex kind
  let placed := { m with
    places := m.places ++ [⟨vertex, Caption.ofText text, []⟩]
    pendingLabels := [] }
  m.pendingLabels.foldl (bindLabel vertex) placed

def atBranch (m : Machine) : Bool :=
  match m.frames with
  | [] => false
  | frame :: _ => decide (m.current = some frame.decision) && !frame.branchTaken

def leavingLabel (m : Machine) : Option Text :=
  match m.frames with
  | [] => m.arrowLabel
  | frame :: _ => if m.atBranch then m.arrowLabel <|> frame.branchLabel else m.arrowLabel

def takeBranch (m : Machine) : Machine :=
  match m.frames with
  | [] => m
  | frame :: frames =>
    if m.atBranch then { m with frames := { frame with branchTaken := true } :: frames } else m

def enter (m : Machine) (vertex : Vertex) : Machine :=
  let left :=
    match m.current with
    | some source => m.takeBranch.connect source vertex m.leavingLabel
    | none => m
  { left.connectAll m.exits.eraseDups vertex with
    exits := [], arrowLabel := none, current := some vertex }

def advance (m : Machine) (kind : VertexKind) (text : Text) : Machine :=
  (m.create kind text).enter (m.nextVertex kind)

def looseEnds (m : Machine) (frame : Frame) : List Exit :=
  if !frame.branchTaken then [⟨frame.decision, frame.branchLabel⟩]
  else (m.current.map fun vertex => ⟨vertex, none⟩).toList ++ m.exits

def closed (m : Machine) (frame : Frame) : Frame :=
  { frame with terminals := frame.terminals ++ m.looseEnds frame }

def splitChain : List Frame → List Frame × List Frame
  | [] => ([], [])
  | frame :: frames =>
    if frame.chained then (frame :: (splitChain frames).1, (splitChain frames).2)
    else ([frame], frames)

def elseIf (m : Machine) (no condition : Text) (label : Option Text) : Machine :=
  match m.frames with
  | [] => { m with warnings := m.warnings ++ [.strayElseIf] }
  | frame :: frames =>
    let outer := { m.closed frame with inElse := true, elseLabel := some no, branchTaken := true }
    let decision := m.nextVertex .decision
    let created := { m with frames := outer :: frames, exits := [] }.create .decision condition
    { created.connect frame.decision decision (some no) with
      current := some decision
      frames := { decision := decision, thenLabel := label, chained := true } :: outer :: frames }

def otherwise (m : Machine) (label : Option Text) : Machine :=
  match m.frames with
  | [] => { m with warnings := m.warnings ++ [.strayElse] }
  | frame :: frames =>
    let reopened := { m.closed frame with inElse := true, elseLabel := label, branchTaken := false }
    { m with frames := reopened :: frames, exits := [], current := some frame.decision }

/-- Without an `else` the decision itself is one more loose end. -/
def endIf (m : Machine) : Machine :=
  match m.frames with
  | [] => { m with warnings := m.warnings ++ [.strayEndIf] }
  | frame :: frames =>
    let shut := m.closed frame
    let whole :=
      if shut.inElse then shut
      else { shut with terminals := shut.terminals ++ [⟨shut.decision, none⟩] }
    let (ended, open') := splitChain (whole :: frames)
    { m with frames := open', current := none, exits := ended.reverse.flatMap Frame.terminals }

def jumpSources (m : Machine) : List Exit :=
  match m.current with
  | none => m.exits.eraseDups
  | some vertex =>
    match m.frames with
    | [] => [⟨vertex, m.arrowLabel⟩]
    | frame :: _ =>
      if m.atBranch then [⟨frame.decision, frame.branchLabel⟩] else [⟨vertex, m.arrowLabel⟩]

def jump (name : Text) (m : Machine) (exit : Exit) : Machine :=
  match m.labels.lookup name with
  | some target => m.connect exit.source target exit.label
  | none => { m with gotos := m.gotos ++ [⟨exit.source, name, exit.label⟩] }

def goto (m : Machine) (name : Text) : Machine :=
  { m.jumpSources.foldl (jump name) m.takeBranch with
    exits := [], arrowLabel := none, current := none }

def step (m : Machine) : Statement → Machine
  | .start => m.advance .start "Start".toList
  | .stop => { m.advance .finish "End".toList with current := none }
  | .activity text => if text.isEmpty then m else m.advance .activity text
  | .ifThen condition label =>
    let moved := m.advance .decision condition
    { moved with
      frames := { decision := m.nextVertex .decision, thenLabel := label } :: moved.frames }
  | .elseIf no condition label => m.elseIf no condition label
  | .otherwise label => m.otherwise label
  | .endIf => m.endIf
  | .label name => { m with pendingLabels := m.pendingLabels ++ [name] }
  | .goto name => m.goto name
  | .arrow label => { m with arrowLabel := label }

def run (m : Machine) (statements : List Statement) : Machine := statements.foldl step m

def titleOf (m : Machine) (vertex : Vertex) : Text :=
  ((m.places.find? (·.vertex = vertex)).map (·.caption.title)).getD []

def settle (m : Machine) (jump : Goto) : Machine :=
  match m.labels.lookup jump.name with
  | some target => m.connect jump.source target jump.label
  | none => { m with warnings := m.warnings ++ [.undeclaredLabel jump.name jump.source] }

def finish (m : Machine) : Machine :=
  let settled := { m.gotos.foldl settle m with gotos := [] }
  { settled with warnings := settled.warnings ++
      settled.frames.reverse.map (fun frame => .unclosedIf (settled.titleOf frame.decision)) ++
      settled.pendingLabels.map .idleLabel }

def remark? (m : Machine) (line : Text) : Option Remark :=
  match Statement.read? line with
  | none =>
    some ⟨.debug, .activityReader, "plantuml: ignoring line ".toList ++ line.quoted⟩
  | some (.activity []) =>
    some ⟨.debug, .activityMachine, "plantuml: skipping empty activity".toList⟩
  | some (.goto name) =>
    if m.jumpSources.isEmpty then
      some ⟨.debug, .activityMachine,
        "plantuml: 'goto ".toList ++ name ++ "' has no source node".toList⟩
    else none
  | some _ => none

def stepLine (m : Machine) (line : Text) : Machine :=
  match Statement.read? line with
  | some statement => m.step statement
  | none => m

def remarks (m : Machine) : List Text → List Remark
  | [] =>
    (m.gotos.filter fun jump => (m.labels.lookup jump.name).isNone).map fun jump =>
      ⟨.warning, .activityReader,
        "plantuml: goto target label '".toList ++ jump.name ++ "' is never declared".toList⟩
  | line :: lines => (m.remark? line).toList ++ (m.stepLine line).remarks lines

end Machine

end Flowchart.Activity
