import Flowchart.Proofs.Activity.Drawing
import Flowchart.Proofs.Activity.Sites

/-!
# Plans

A plan is a sketch by sites: the sites that have a vertex, in the order of their creation, and the
links between them.  Each site stands for the vertex with its kind and its position.
-/

namespace Flowchart.Activity

structure Link where
  source : Site
  target : Site
  label : Option Text
  deriving DecidableEq, Repr

structure Loose where
  source : Site
  label : Option Text
  deriving DecidableEq, Repr

structure Plan where
  sites : List Site := []
  links : List Link := []
  deriving DecidableEq, Repr

namespace Plan

def vertex (plan : Plan) (site : Site) : Vertex := ⟨site.kind, plan.sites.idxOf site + 1⟩

def edges (plan : Plan) (site : Site) : List (Site × Option Text) :=
  (plan.links.filter (·.source = site)).map fun link => (link.target, link.label)

def exits (plan : Plan) (gate : Option Loose) : List Exit :=
  gate.toList.map fun loose => ⟨plan.vertex loose.source, loose.label⟩

def lead (plan : Plan) (gate : Option Loose) (site : Site) : Plan :=
  { plan with links := plan.links ++ gate.toList.map fun loose =>
      ⟨loose.source, site, loose.label⟩ }

def add (plan : Plan) (site : Site) (gate : Option Loose) : Plan :=
  { plan with sites := plan.sites ++ [site] }.lead gate site

def sketch (flow : Flow) (plan : Plan) : Sketch where
  vertices := plan.sites.map fun site => (plan.vertex site, site.title flow)
  arcs := plan.links.map fun link =>
    ⟨plan.vertex link.source, plan.vertex link.target, link.label⟩

def Closed (plan : Plan) : Prop :=
  ∀ link ∈ plan.links, link.source ∈ plan.sites ∧ link.target ∈ plan.sites

/-- The edge that a loose end turns into when it is led to a site. -/
def gateEdge (gate : Option Loose) (target site : Site) : List (Site × Option Text) :=
  (gate.toList.filter (·.source = site)).map fun loose => (target, loose.label)

section Growing

variable {flow : Flow} {plan : Plan} {site other : Site} {gate : Option Loose}

@[simp] theorem sites_lead : (plan.lead gate site).sites = plan.sites := rfl

@[simp] theorem sites_add : (plan.add site gate).sites = plan.sites ++ [site] := rfl

theorem vertex_of_prefix {later : Plan} (h : plan.sites <+: later.sites)
    (hsite : site ∈ plan.sites) : later.vertex site = plan.vertex site := by
  obtain ⟨rest, hrest⟩ := h
  rw [vertex, vertex, ← hrest, List.idxOf_append_of_mem hsite]

theorem vertex_add_of_mem (h : other ∈ plan.sites) :
    (plan.add site gate).vertex other = plan.vertex other :=
  vertex_of_prefix (List.prefix_append _ _) h

theorem vertex_add_self (flow : Flow) (gate : Option Loose) (h : site ∉ plan.sites) :
    (plan.add site gate).vertex site = (plan.sketch flow).nextVertex site.kind := by
  simp [vertex, List.idxOf_append, h, Sketch.nextVertex, sketch]

theorem vertex_injective (h : site ∈ plan.sites) (heq : plan.vertex site = plan.vertex other) : site = other := by
  have hnumber : plan.sites.idxOf site = plan.sites.idxOf other := by
    simpa [vertex] using congrArg Vertex.number heq
  exact (List.idxOf_inj h).1 hnumber

theorem edges_lead : (plan.lead gate site).edges other =
    plan.edges other ++ gateEdge gate site other := by
  cases gate <;> simp [edges, lead, gateEdge, List.filter_cons]
  split <;> simp

theorem edges_add : (plan.add site gate).edges other =
    plan.edges other ++ gateEdge gate site other := edges_lead

theorem edges_of_not_mem (h : plan.Closed) (hsite : site ∉ plan.sites) : plan.edges site = [] := by
  simp only [edges, List.map_eq_nil_iff, List.filter_eq_nil_iff, decide_eq_true_eq]
  rintro link hlink rfl
  exact hsite (h link hlink).1

theorem closed_lead (h : plan.Closed) (hgate : ∀ loose ∈ gate, loose.source ∈ plan.sites)
    (hsite : site ∈ plan.sites) : (plan.lead gate site).Closed := by
  intro link hlink
  rcases List.mem_append.1 hlink with hlink | hlink
  · exact h link hlink
  · obtain ⟨loose, hloose, rfl⟩ := List.mem_map.1 hlink
    exact ⟨hgate loose (Option.mem_toList.1 hloose), hsite⟩

theorem closed_add (h : plan.Closed) (hgate : ∀ loose ∈ gate, loose.source ∈ plan.sites) :
    (plan.add site gate).Closed := by
  apply closed_lead
  · intro link hlink
    obtain ⟨hsource, htarget⟩ := h link hlink
    exact ⟨List.mem_append_left _ hsource, List.mem_append_left _ htarget⟩
  · exact fun loose hloose => List.mem_append_left _ (hgate loose hloose)
  · simp

theorem exits_eraseDups : (plan.exits gate).eraseDups = plan.exits gate := by
  cases gate <;> simp [exits, List.eraseDups_cons]

theorem sketch_lead : (plan.lead gate site).sketch flow =
    (plan.sketch flow).draw ((plan.exits gate).map fun exit => exit.to (plan.vertex site)) := by
  simp [sketch, lead, Sketch.draw, exits, Exit.to, vertex, Function.comp_def]

theorem sketch_add (h : plan.Closed) (hgate : ∀ loose ∈ gate, loose.source ∈ plan.sites)
    (hsite : site ∉ plan.sites) : (plan.add site gate).sketch flow =
      (plan.sketch flow).add site.kind (site.title flow) (plan.exits gate) := by
  have hold : ∀ other ∈ plan.sites, (plan.add site gate).vertex other = plan.vertex other :=
    fun other hother => vertex_add_of_mem hother
  have hnew := vertex_add_self flow gate hsite
  apply Sketch.ext
  · simp only [sketch, sites_add, List.map_append, List.map_cons, List.map_nil, hnew]
    change _ = plan.sites.map _ ++ _
    congr 1
    exact List.map_congr_left fun other hother => by rw [hold other hother]
  · rw [Sketch.add, exits_eraseDups]
    simp only [sketch, add, lead, Sketch.draw, List.map_append, List.map_map, exits]
    congr 1
    · apply List.map_congr_left
      intro link hlink
      obtain ⟨hsource, htarget⟩ := h link hlink
      rw [← hold _ hsource, ← hold _ htarget]
      rfl
    · apply List.map_congr_left
      intro loose hloose
      have hsource := hgate loose (Option.mem_toList.1 hloose)
      change (⟨(plan.add site gate).vertex _, (plan.add site gate).vertex _, _⟩ : Arc) = _
      rw [hold _ hsource, hnew]
      rfl

def place (flow : Flow) (plan : Plan) (site : Site) : Place :=
  ⟨plan.vertex site, Caption.ofText (site.title flow),
    (plan.edges site).map fun edge => (plan.vertex edge.1, edge.2)⟩

theorem places_sketch (h : plan.Closed) :
    (plan.sketch flow).places = plan.sites.map (plan.place flow) := by
  simp only [Sketch.places, sketch, List.map_map]
  apply List.map_congr_left
  intro site hsite
  have hfilter : plan.links.filter (fun link => decide (plan.vertex link.source = plan.vertex site)) =
      plan.links.filter (·.source = site) := by
    apply List.filter_congr
    intro link hlink
    rw [decide_eq_decide]
    exact ⟨vertex_injective (h link hlink).1, congrArg plan.vertex⟩
  simp only [Function.comp, Sketch.arcsFrom, place, edges, List.filter_map, List.map_map,
    ← hfilter]
  rfl

end Growing

end Plan

end Flowchart.Activity
