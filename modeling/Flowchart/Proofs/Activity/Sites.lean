import Flowchart.Activity.Writer
import Flowchart.Proofs.Activity.Program
import Mathlib.Data.List.Nodup

/-!
# Sites

A flow that was written as an activity diagram has a vertex for every site: one for the start, one
for a node with a single outlet, two for a node without outlets, and a ladder of conditions for a
node with several.  This file says which sites there are and where their edges lead.
-/

namespace Flowchart.Activity

/-- A vertex by what it stands for.  The conditions of a node are its rungs. -/
inductive Site where
  | start
  | activity (id : Text)
  | decision (id : Text) (rung : Nat)
  | finish (id : Text)
  deriving DecidableEq, Repr

def ways (node : Node) : List (Text × Option Text) :=
  node.branches.map fun branch => (branch.1.target, branch.2.name?)

def waysFrom (flow : Flow) (id : Text) : List (Text × Option Text) :=
  ((flow.lastNode? id).map ways).getD []

def siteOf (flow : Flow) (id : Text) : Site :=
  if 1 < (waysFrom flow id).length then .decision id 0 else .activity id

def sitesOf (flow : Flow) (id : Text) : List Site :=
  match waysFrom flow id with
  | [] => [.activity id, .finish id]
  | [_] => [.activity id]
  | ways => (List.range (ways.length - 1)).map (.decision id)

def sites (flow : Flow) : List Site := .start :: flow.nodeIds.flatMap (sitesOf flow)

/-- The way past a rung: the last of the ways left, or the next rung. -/
def pastRung (flow : Flow) (id : Text) (next : Nat) :
    List (Text × Option Text) → List (Site × Option Text)
  | [] => []
  | [last] => [(siteOf flow last.1, last.2)]
  | _ :: _ :: _ => [(.decision id next, some "no".toList)]

/-- The edges of a rung, by the ways that are left at it. -/
def rungEdges (flow : Flow) (id : Text) (rung : Nat) :
    List (Text × Option Text) → List (Site × Option Text)
  | [] => []
  | first :: rest => (siteOf flow first.1, first.2) :: pastRung flow id (rung + 1) rest

namespace Site

def kind : Site → VertexKind
  | start => .start
  | activity _ => .activity
  | decision _ _ => .decision
  | finish _ => .finish

def owner? : Site → Option Text
  | start => none
  | activity id => some id
  | decision id _ => some id
  | finish id => some id

def title (flow : Flow) : Site → Text
  | start => "Start".toList
  | activity id => (((flow.lastNode? id).map Node.title).bind Json.text?).getD []
  | decision id _ => (((flow.lastNode? id).map Node.title).bind Json.text?).getD []
  | finish _ => "End".toList

def edges (flow : Flow) : Site → List (Site × Option Text)
  | start => [(siteOf flow flow.start, none)]
  | activity id =>
      match waysFrom flow id with
      | [] => [(.finish id, none)]
      | way :: _ => [(siteOf flow way.1, none)]
  | decision id rung => rungEdges flow id rung ((waysFrom flow id).drop rung)
  | finish _ => []

def next (flow : Flow) (site : Site) : List Site := (site.edges flow).map Prod.fst

/-- The node that a site becomes, when sites are given ids. -/
def node (flow : Flow) (rename : Site → Text) (site : Site) : Node :=
  (site.edges flow).foldl
    (fun node edge => node.addOutlet (rename edge.1) (.ofText? edge.2) .null)
    { id := rename site
      title := .str (Caption.ofText (site.title flow)).title
      content := .str (Caption.ofText (site.title flow)).content }

end Site

section Sites

variable {flow : Flow} {id : Text}

theorem mem_sitesOf_siteOf : siteOf flow id ∈ sitesOf flow id := by
  unfold siteOf sitesOf
  match waysFrom flow id with
  | [] => simp
  | [_] => simp
  | _ :: _ :: _ => simp

theorem owner_of_mem_sitesOf {site : Site} (h : site ∈ sitesOf flow id) :
    site.owner? = some id := by
  unfold sitesOf at h
  split at h
  · rcases List.mem_cons.1 h with rfl | h
    · rfl
    · rw [List.mem_singleton.1 h]
      rfl
  · rw [List.mem_singleton.1 h]
    rfl
  · obtain ⟨rung, -, rfl⟩ := List.mem_map.1 h
    rfl

theorem owner_siteOf : (siteOf flow id).owner? = some id :=
  owner_of_mem_sitesOf mem_sitesOf_siteOf

theorem sitesOf_of_rungs {ways : List (Text × Option Text)} (h : waysFrom flow id = ways)
    (hmany : 1 < ways.length) :
    sitesOf flow id = (List.range (ways.length - 1)).map (.decision id) := by
  subst h
  unfold sitesOf
  split
  · simp_all
  · simp_all
  · rfl

end Sites

end Flowchart.Activity
