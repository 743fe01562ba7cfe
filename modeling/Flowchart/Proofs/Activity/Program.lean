import Flowchart.Activity.Machine

/-!
# Structured programs and their sketches

A structured program is a tree of activities, stops and conditions.  A sketch is a graph on paper:
vertices with their texts, and arcs in the order in which they are drawn.  The translation of a
program into a sketch follows the tree: it takes the loose ends that lead into the program and
gives those that lead out of it.
-/

namespace Flowchart.Activity

structure Arc where
  source : Vertex
  target : Vertex
  label : Option Text
  deriving DecidableEq, Repr

@[ext]
structure Sketch where
  vertices : List (Vertex × Text) := []
  arcs : List Arc := []
  deriving DecidableEq, Repr

def Exit.to (exit : Exit) (target : Vertex) : Arc := ⟨exit.source, target, exit.label⟩

namespace Sketch

def nextVertex (sketch : Sketch) (kind : VertexKind) : Vertex :=
  ⟨kind, sketch.vertices.length + 1⟩

def draw (sketch : Sketch) (arcs : List Arc) : Sketch :=
  { sketch with arcs := sketch.arcs ++ arcs }

/-- Adds the next vertex, with an arc from every distinct loose end. -/
def add (sketch : Sketch) (kind : VertexKind) (text : Text) (exits : List Exit) : Sketch :=
  { sketch with vertices := sketch.vertices ++ [(sketch.nextVertex kind, text)] }.draw
    (exits.eraseDups.map fun exit : Exit => exit.to (sketch.nextVertex kind))

def arcsFrom (sketch : Sketch) (vertex : Vertex) : List (Vertex × Option Text) :=
  (sketch.arcs.filter (·.source = vertex)).map fun arc => (arc.target, arc.label)

def places (sketch : Sketch) : List Place :=
  sketch.vertices.map fun entry =>
    ⟨entry.1, Caption.ofText entry.2, sketch.arcsFrom entry.1⟩

end Sketch

mutual

/-- A sequence of activities, stops and conditions. -/
inductive Program where
  | done
  | activity (text : Text) (spoken : text ≠ []) (rest : Program)
  | stop (rest : Program)
  | choice (condition : Text) (label : Option Text) (body : Program)
    (alternatives : Alternatives) (rest : Program)

/-- What follows the first branch of a condition: further conditions, and perhaps an `else`. -/
inductive Alternatives where
  | absent
  | otherwise (label : Option Text) (body : Program)
  | elseIf (no : Option Text) (condition : Text) (label : Option Text) (body : Program)
    (alternatives : Alternatives)

end

def wayPast (no : Option Text) : Text := no.getD "no".toList

mutual

def Program.statements : Program → List Statement
  | .done => []
  | .activity text _ rest => .activity text :: rest.statements
  | .stop rest => .stop :: rest.statements
  | .choice condition label body alternatives rest =>
      .ifThen condition label ::
        (body.statements ++ alternatives.statements ++ rest.statements)

def Alternatives.statements : Alternatives → List Statement
  | .absent => [.endIf]
  | .otherwise label body => .otherwise label :: (body.statements ++ [.endIf])
  | .elseIf no condition label body alternatives =>
      .elseIf (wayPast no) condition label :: (body.statements ++ alternatives.statements)

end

mutual

/-- Draws a program behind the loose ends that lead into it. -/
def Program.translate : Program → Sketch → List Exit → Sketch × List Exit
  | .done, sketch, exits => (sketch, exits)
  | .activity text _ rest, sketch, exits =>
      rest.translate (sketch.add .activity text exits) [⟨sketch.nextVertex .activity, none⟩]
  | .stop rest, sketch, exits =>
      rest.translate (sketch.add .finish "End".toList exits) []
  | .choice condition label body alternatives rest, sketch, exits =>
      let decision := sketch.nextVertex .decision
      let first := body.translate (sketch.add .decision condition exits) [⟨decision, label⟩]
      let others := alternatives.translate decision first.1
      rest.translate others.1 (first.2 ++ others.2)

/-- Draws the alternatives to the first branch of a decision. -/
def Alternatives.translate : Alternatives → Vertex → Sketch → Sketch × List Exit
  | .absent, last, sketch => (sketch, [⟨last, none⟩])
  | .otherwise label body, last, sketch => body.translate sketch [⟨last, label⟩]
  | .elseIf no condition label body alternatives, last, sketch =>
      let decision := sketch.nextVertex .decision
      let first := body.translate (sketch.add .decision condition [⟨last, some (wayPast no)⟩])
        [⟨decision, label⟩]
      let others := alternatives.translate decision first.1
      (others.1, first.2 ++ others.2)

end

/-- The sketch of a whole diagram: a start vertex, and the program behind it. -/
def Program.sketch (program : Program) : Sketch :=
  (program.translate (({} : Sketch).add .start "Start".toList [])
    [⟨({} : Sketch).nextVertex .start, none⟩]).1

end Flowchart.Activity
