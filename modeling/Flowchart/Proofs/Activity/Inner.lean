import Flowchart.Proofs.Activity.Tour
import Flowchart.Proofs.UniqueIds

/-!
# Inner flows

A flow that was read from a diagram has a node for every site of the flow that was written.  What is
left of it without its start and its ends is a plain flow again, with one site for each site of the
first: no ladder has a second rung there.  Its sites are visited in the same order.
-/

namespace Flowchart.Activity

/-- Every outlet of a node with more than two has a label. -/
def Labelled (flow : Flow) : Prop :=
  ∀ node ∈ flow.nodes, 2 < node.outlets.length →
    ∀ outlet ∈ node.outlets, outlet.label.isVoid = false

instance (flow : Flow) : Decidable (Labelled flow) :=
  inferInstanceAs (Decidable (∀ node ∈ flow.nodes, 2 < node.outlets.length →
    ∀ outlet ∈ node.outlets, outlet.label.isVoid = false))

/-! ## Inner sites -/

namespace Site

def isInner : Site → Bool
  | activity _ | decision _ _ => true
  | start | finish _ => false

def innerEdges (flow : Flow) (site : Site) : List (Site × Option Text) :=
  (site.edges flow).filter (·.1.isInner)

/-- The node of an inner site, without an edge to an end. -/
def innerNode (flow : Flow) (rename : Site → Text) (site : Site) : Node where
  id := rename site
  title := .str (site.title flow)
  outlets := (site.innerEdges flow).map fun edge =>
    { id := .null, target := rename edge.1, label := .ofText? edge.2 }

end Site

theorem isInner_siteOf (flow : Flow) (id : Text) : (siteOf flow id).isInner = true := by
  unfold siteOf
  split <;> rfl

theorem siteOf_mem_sites {flow : Flow} {id : Text} (h : id ∈ flow.nodeIds) :
    siteOf flow id ∈ sites flow :=
  List.mem_cons_of_mem _ (List.mem_flatMap.2 ⟨id, h, mem_sitesOf_siteOf⟩)

theorem mem_sitesOf_of_owner {flow : Flow} {site : Site} {id : Text} (h : site ∈ sites flow)
    (howner : site.owner? = some id) : id ∈ flow.nodeIds ∧ site ∈ sitesOf flow id := by
  rcases List.mem_cons.1 h with rfl | h
  · cases howner
  · obtain ⟨other, hother, hmem⟩ := List.mem_flatMap.1 h
    obtain rfl : other = id := Option.some.inj ((owner_of_mem_sitesOf hmem).symm.trans howner)
    exact ⟨hother, hmem⟩

/-! ## Edges of inner sites -/

section Edges

variable {flow : Flow} {id : Text} {rung : Nat}

theorem finish_mem_sites (h : .finish id ∈ sites flow) :
    waysFrom flow id = [] ∧ .activity id ∈ sites flow := by
  obtain ⟨hid, hmem⟩ := mem_sitesOf_of_owner h rfl
  have hways : waysFrom flow id = [] := by
    unfold sitesOf at hmem
    split at hmem <;> simp_all
  refine ⟨hways, ?_⟩
  have hsite : siteOf flow id = .activity id := by simp [siteOf, hways]
  exact hsite ▸ siteOf_mem_sites hid

theorem edges_activity (flow : Flow) (id : Text) :
    (waysFrom flow id = [] ∧ (Site.activity id).edges flow = [(.finish id, none)] ∧
        (Site.activity id).innerEdges flow = []) ∨
      waysFrom flow id ≠ [] ∧ ∃ target, target.isInner = true ∧
        (Site.activity id).edges flow = [(target, none)] ∧
        (Site.activity id).innerEdges flow = [(target, none)] := by
  cases hways : waysFrom flow id with
  | nil =>
      have hedges : (Site.activity id).edges flow = [(.finish id, none)] := by
        rw [Site.edges, hways]
      exact .inl ⟨rfl, hedges, by rw [Site.innerEdges, hedges]; rfl⟩
  | cons way ways =>
      have hinner := isInner_siteOf flow way.1
      have hedges : (Site.activity id).edges flow = [(siteOf flow way.1, none)] := by
        rw [Site.edges, hways]
      refine .inr ⟨List.cons_ne_nil _ _, siteOf flow way.1, hinner, hedges, ?_⟩
      rw [Site.innerEdges, hedges, List.filter_eq_self]
      exact List.forall_mem_singleton.2 hinner

theorem label_of_ways (h : PlainFlow flow) (hlabelled : Labelled flow) (hid : id ∈ flow.nodeIds)
    (hsplit : 1 < (waysFrom flow id).length) :
    ∀ way ∈ waysFrom flow id, ∃ label, way.2 = some label ∧ PlainLine label := by
  obtain ⟨node, hnode, hlast, -⟩ := Flow.exists_lastNode hid
  have hways : waysFrom flow id = ways node := by rw [waysFrom, hlast]; rfl
  rw [hways] at hsplit ⊢
  have hlength : 1 < node.outlets.length := by
    rwa [ways, List.length_map, ← List.length_map Prod.fst, Node.map_fst_branches] at hsplit
  intro way hway
  obtain ⟨branch, hbranch, rfl⟩ := List.mem_map.1 hway
  have hspoken := Node.label_of_split hlength (hlabelled node hnode) branch hbranch
  obtain ⟨label, hlabel, hplain⟩ :=
    ((h.nodes node hnode).plain_branch branch hbranch).resolve_left (by simp [hspoken])
  refine ⟨label, ?_, hplain⟩
  simp [hlabel, Json.name?, hplain.nonempty]

theorem edges_decision (h : PlainFlow flow) (hlabelled : Labelled flow)
    (hsite : .decision id rung ∈ sites flow) :
    ∃ first second : Site × Text, first.1.isInner = true ∧ second.1.isInner = true ∧
      PlainLine first.2 ∧ PlainLine second.2 ∧
      (Site.decision id rung).edges flow =
        [(first.1, some first.2), (second.1, some second.2)] := by
  obtain ⟨hid, hmem⟩ := mem_sitesOf_of_owner hsite rfl
  have hrung : rung + 1 < (waysFrom flow id).length := by
    unfold sitesOf at hmem
    split at hmem
    · simp at hmem
    · simp at hmem
    · simp only [List.mem_map, List.mem_range, Site.decision.injEq] at hmem
      obtain ⟨other, hother, -, rfl⟩ := hmem
      omega
  have hlabels := label_of_ways h hlabelled hid (by omega)
  -- There are two ways at least from every rung, so both edges have ends.
  obtain ⟨way, next, rest, hdrop⟩ : ∃ way next rest,
      (waysFrom flow id).drop rung = way :: next :: rest := by
    match hdrop : (waysFrom flow id).drop rung with
    | [] => simp at hdrop; omega
    | [_] => have := congrArg List.length hdrop; simp at this; omega
    | way :: next :: rest => exact ⟨way, next, rest, rfl⟩
  have hkept : ∀ other ∈ way :: next :: rest, other ∈ waysFrom flow id :=
    fun other hother => List.mem_of_mem_drop (hdrop ▸ hother)
  obtain ⟨label, hlabel, hplain⟩ := hlabels way (hkept way (by simp))
  obtain ⟨label', hlabel', hplain'⟩ := hlabels next (hkept next (by simp))
  rw [Site.edges, hdrop, rungEdges, hlabel]
  cases rest with
  | nil =>
      refine ⟨(siteOf flow way.1, label), (siteOf flow next.1, label'), isInner_siteOf _ _,
        isInner_siteOf _ _, hplain, hplain', ?_⟩
      rw [pastRung, hlabel']
  | cons last rest =>
      exact ⟨(siteOf flow way.1, label), (.decision id (rung + 1), "no".toList),
        isInner_siteOf _ _, rfl, hplain, plainLine_no, rfl⟩

theorem label_of_edge (h : PlainFlow flow) (hlabelled : Labelled flow) {site : Site}
    (hsite : site ∈ sites flow) {edge : Site × Option Text} (hedge : edge ∈ site.edges flow) :
    ∀ label, edge.2 = some label → PlainLine label := by
  intro label hlabel
  cases site with
  | start =>
      rw [List.mem_singleton.1 hedge] at hlabel
      cases hlabel
  | activity id =>
      rcases edges_activity flow id with ⟨-, hedges, -⟩ | ⟨-, target, -, hedges, -⟩ <;>
        · rw [hedges] at hedge
          rw [List.mem_singleton.1 hedge] at hlabel
          cases hlabel
  | decision id rung =>
      obtain ⟨first, second, -, -, hfirst, hsecond, hedges⟩ := edges_decision h hlabelled hsite
      rw [hedges] at hedge
      rcases List.mem_cons.1 hedge with rfl | hedge
      · exact Option.some.inj hlabel ▸ hfirst
      · rw [List.mem_singleton.1 hedge] at hlabel
        exact Option.some.inj hlabel ▸ hsecond
  | finish id => exact absurd hedge List.not_mem_nil

theorem views_of_plain {label : Option Text} (h : ∀ s, label = some s → PlainLine s) :
    (Json.ofText? label).orElse .null = .ofText? label ∧ (Json.ofText? label).name? = label := by
  cases label with
  | none => exact ⟨rfl, rfl⟩
  | some s =>
      have hne := (h s rfl).nonempty
      simp [Json.ofText?, Json.orElse, Json.isVoid, Json.name?, hne]

theorem plainLabel_ofText {label : Option Text} (h : ∀ s, label = some s → PlainLine s) :
    PlainLabel (.ofText? label) := by
  cases label with
  | none => exact .inl rfl
  | some s => exact .inr ⟨s, rfl, h s rfl⟩

theorem labels_of_two (h : PlainFlow flow) (hlabelled : Labelled flow) {site : Site}
    (hsite : site ∈ sites flow) (htwo : (site.edges flow).length = 2) :
    ∀ edge ∈ site.edges flow, (Json.ofText? edge.2).isVoid = false := by
  cases site with
  | start => simp [Site.edges] at htwo
  | activity id =>
      rcases edges_activity flow id with ⟨-, hedges, -⟩ | ⟨-, target, -, hedges, -⟩ <;>
        simp [hedges] at htwo
  | decision id rung =>
      obtain ⟨first, second, -, -, hfirst, hsecond, hedges⟩ := edges_decision h hlabelled hsite
      rw [hedges]
      simp [Json.ofText?, hfirst.not_void, hsecond.not_void]
  | finish id => simp [Site.edges] at htwo

theorem edge_cases (h : PlainFlow flow) (hlabelled : Labelled flow) {site : Site}
    (hsite : site ∈ sites flow) {edge : Site × Option Text} (hedge : edge ∈ site.edges flow) :
    edge.1.isInner = true ∨
      ∃ id, site = .activity id ∧ waysFrom flow id = [] ∧ edge = (.finish id, none) := by
  cases site with
  | start => exact .inl (List.mem_singleton.1 hedge ▸ isInner_siteOf flow flow.start)
  | activity id =>
      rcases edges_activity flow id with ⟨hways, hedges, -⟩ | ⟨-, target, htarget, hedges, -⟩
      · rw [hedges] at hedge
        exact .inr ⟨id, rfl, hways, List.mem_singleton.1 hedge⟩
      · rw [hedges] at hedge
        exact .inl (List.mem_singleton.1 hedge ▸ htarget)
  | decision id rung =>
      obtain ⟨first, second, hfirst, hsecond, -, -, hedges⟩ := edges_decision h hlabelled hsite
      rw [hedges] at hedge
      rcases List.mem_cons.1 hedge with rfl | hedge
      · exact .inl hfirst
      · exact .inl (List.mem_singleton.1 hedge ▸ hsecond)
  | finish id => exact absurd hedge List.not_mem_nil

theorem innerEdges_eq (h : PlainFlow flow) (hlabelled : Labelled flow) {site : Site}
    (hsite : site ∈ sites flow) (hleaf : ∀ id, site = .activity id → waysFrom flow id ≠ []) :
    site.innerEdges flow = site.edges flow := by
  rw [Site.innerEdges, List.filter_eq_self]
  intro edge hedge
  rcases edge_cases h hlabelled hsite hedge with hinner | ⟨id, hid, hways, -⟩
  · exact hinner
  · exact absurd hways (hleaf id hid)

end Edges

theorem openBranches_of_edges {flow : Flow} {node : Node} {edges : List (Site × Option Text)}
    {rename : Site → Text}
    (houtlets : node.outlets.map (fun outlet => (outlet.target, outlet.label)) =
      edges.map fun edge => (rename edge.1, .ofText? edge.2))
    (htwo : edges.length = 2 → ∀ edge ∈ edges, (Json.ofText? edge.2).isVoid = false)
    (hresolved : ∀ edge ∈ edges, rename edge.1 ∈ flow.nodeIds) :
    openBranches flow node = edges.map fun edge => (rename edge.1, .ofText? edge.2) := by
  have hedge : ∀ outlet ∈ node.outlets, ∃ edge ∈ edges,
      (rename edge.1, Json.ofText? edge.2) = (outlet.target, outlet.label) := fun outlet houtlet =>
    List.mem_map.1 (houtlets ▸ List.mem_map_of_mem houtlet)
  have hlength : node.outlets.length = edges.length := by
    simpa using congrArg List.length houtlets
  have hspoken : node.outlets.length = 2 → ∀ outlet ∈ node.outlets, outlet.label.isVoid = false := by
    intro hpair outlet houtlet
    obtain ⟨edge, hmem, heq⟩ := hedge outlet houtlet
    exact (Prod.mk.inj heq).2 ▸ htwo (hlength ▸ hpair) edge hmem
  rw [openBranches, Node.branches_eq hspoken, List.filter_eq_self.2, List.map_map]
  · exact houtlets
  · refine List.forall_mem_map.2 fun outlet houtlet => ?_
    obtain ⟨edge, hmem, heq⟩ := hedge outlet houtlet
    exact List.contains_iff_mem.2 ((Prod.mk.inj heq).1 ▸ hresolved edge hmem)

/-! ## Names of sites -/

theorem Vertex.isPlain_of_mem_id {v : Vertex} {c : Char} (h : c ∈ v.id) :
    UniqueIds.isPlain c = true := by
  have hkind : (v.kind.name.all UniqueIds.isPlain) = true := by cases v.kind <;> decide
  rcases List.mem_append.1 h with h | h
  · exact List.all_eq_true.1 hkind c h
  · rcases List.mem_cons.1 h with rfl | h
    · decide
    · have hdigit : c.isDigit = true := Nat.isDigit_of_mem_toDigits (by decide) (by decide) h
      simp [UniqueIds.isPlain, Char.isAlphanum, hdigit]

namespace Plan

def name (plan : Plan) (site : Site) : Text := (plan.vertex site).id

variable {flow : Flow} {plan : Plan} {site other : Site}

theorem name_injective (h : site ∈ plan.sites) (heq : plan.name site = plan.name other) :
    site = other :=
  vertex_injective h (Vertex.id_injective heq)

theorem sanitize_name (plan : Plan) (site : Site) :
    UniqueIds.sanitize (plan.name site) = plan.name site :=
  UniqueIds.sanitize_eq_self (by simp [name, Vertex.id]) fun _ => Vertex.isPlain_of_mem_id

/-! ## The inner flow of a plan -/

/-- A plan that has drawn all sites of a flow, depth first. -/
structure Tours (flow : Flow) (plan : Plan) : Prop where
  distinct : plan.sites.Nodup
  drawn : plan.sites.Perm (Activity.sites flow)
  ordered : Visits (Site.next flow) (.start :: flow.nodeIds.map (siteOf flow)) [] plan.sites

/-- What the flow of a plan is without its start and its ends. -/
def inner (flow : Flow) (plan : Plan) : Flow where
  id := []
  title := .null
  start := plan.name (siteOf flow flow.start)
  nodes := (plan.sites.filter Site.isInner).map (Site.innerNode flow plan.name)

theorem nodeIds_inner (flow : Flow) (plan : Plan) :
    (plan.inner flow).nodeIds = (plan.sites.filter Site.isInner).map plan.name := by
  rw [Flow.nodeIds, inner, List.map_map]
  rfl

theorem Tours.edge_mem (hp : plan.Tours flow) (hsite : site ∈ plan.sites)
    {edge : Site × Option Text} (hedge : edge ∈ site.edges flow) : edge.1 ∈ plan.sites :=
  hp.ordered.closed (by simp) site hsite (List.mem_map_of_mem hedge)

theorem Tours.siteOf_mem (hp : plan.Tours flow) {id : Text} (hid : id ∈ flow.nodeIds) :
    siteOf flow id ∈ plan.sites :=
  hp.drawn.mem_iff.2 (siteOf_mem_sites hid)

theorem name_mem_inner (hsite : site ∈ plan.sites) :
    plan.name site ∈ (plan.inner flow).nodeIds ↔ site.isInner = true := by
  rw [nodeIds_inner, List.mem_map]
  constructor
  · rintro ⟨other, hother, heq⟩
    rw [name_injective hsite heq.symm]
    exact (List.mem_filter.1 hother).2
  · exact fun hinner => ⟨site, List.mem_filter.2 ⟨hsite, hinner⟩, rfl⟩

theorem title_of_inner (hsite : site ∈ Activity.sites flow) (hinner : site.isInner = true)
    (h : PlainFlow flow) : ∃ node ∈ flow.nodes, node.title = .str (site.title flow) := by
  obtain ⟨id, howner⟩ : ∃ id, site.owner? = some id := by
    cases site <;> simp_all [Site.owner?, Site.isInner]
  obtain ⟨node, hnode, hlast, -⟩ := Flow.exists_lastNode (mem_sitesOf_of_owner hsite howner).1
  obtain ⟨text, htitle, -⟩ := (h.nodes node hnode).titled
  refine ⟨node, hnode, ?_⟩
  cases site <;> simp_all [Site.owner?, Site.isInner, Site.title, Json.text?]

section Inner

variable (h : PlainFlow flow) (hlabelled : Labelled flow) (hp : plan.Tours flow)

include h hlabelled hp

theorem plainNode_inner (hsite : site ∈ plan.sites) (hinner : site.isInner = true) :
    PlainNode (site.innerNode flow plan.name) where
  titled := by
    obtain ⟨node, hnode, htitle⟩ := title_of_inner (hp.drawn.mem_iff.1 hsite) hinner h
    obtain ⟨text, htext, hplain⟩ := (h.nodes node hnode).titled
    obtain rfl : site.title flow = text := Json.str.inj (htitle.symm.trans htext)
    exact ⟨site.title flow, rfl, hplain⟩
  spoken := .inl rfl
  labelled := by
    intro outlet houtlet
    obtain ⟨edge, hedge, rfl⟩ := List.mem_map.1 houtlet
    exact plainLabel_ofText (label_of_edge h hlabelled (hp.drawn.mem_iff.1 hsite)
      (List.mem_of_mem_filter hedge))
  keyed := by
    intro outlet houtlet
    obtain ⟨edge, -, rfl⟩ := List.mem_map.1 houtlet
    exact ⟨rfl, rfl⟩

theorem plainFlow_inner : PlainFlow (plan.inner flow) where
  untitled := rfl
  distinct := by
    rw [nodeIds_inner]
    refine (hp.distinct.filter _).map_on fun site hsite other _ heq => ?_
    exact name_injective (List.mem_of_mem_filter hsite) heq
  apart := by
    intro id hid other hother heq
    rw [nodeIds_inner] at hid hother
    obtain ⟨site, -, rfl⟩ := List.mem_map.1 hid
    obtain ⟨site', -, rfl⟩ := List.mem_map.1 hother
    rwa [sanitize_name, sanitize_name] at heq
  started := (name_mem_inner (hp.siteOf_mem h.started)).2 (isInner_siteOf flow flow.start)
  resolved := by
    intro node hnode outlet houtlet
    obtain ⟨site, hsite, rfl⟩ := List.mem_map.1 hnode
    obtain ⟨edge, hedge, rfl⟩ := List.mem_map.1 houtlet
    obtain ⟨hedge, hinner⟩ := List.mem_filter.1 hedge
    exact (name_mem_inner (hp.edge_mem (List.mem_of_mem_filter hsite) hedge)).2 hinner
  nodes := by
    intro node hnode
    obtain ⟨site, hsite, rfl⟩ := List.mem_map.1 hnode
    obtain ⟨hsite, hinner⟩ := List.mem_filter.1 hsite
    exact plainNode_inner h hlabelled hp hsite hinner

theorem lastNode_inner (hsite : site ∈ plan.sites) (hinner : site.isInner = true) :
    (plan.inner flow).lastNode? (plan.name site) = some (site.innerNode flow plan.name) :=
  Flow.lastNode_eq (plainFlow_inner h hlabelled hp).distinct
    (List.mem_map_of_mem (List.mem_filter.2 ⟨hsite, hinner⟩))

theorem openBranches_inner (hsite : site ∈ plan.sites) :
    openBranches (plan.inner flow) (site.innerNode flow plan.name) =
      (site.innerEdges flow).map fun edge => (plan.name edge.1, .ofText? edge.2) := by
  apply openBranches_of_edges
  · rw [Site.innerNode, List.map_map]
    rfl
  · intro htwo edge hedge
    have hsites := hp.drawn.mem_iff.1 hsite
    have hedges : site.innerEdges flow = site.edges flow :=
      innerEdges_eq h hlabelled hsites fun id heq hways => by
        subst heq
        rcases edges_activity flow id with ⟨-, -, hnone⟩ | ⟨hne, -⟩
        · simp [hnone] at htwo
        · exact hne hways
    exact labels_of_two h hlabelled hsites (hedges ▸ htwo) edge (hedges ▸ hedge)
  · intro edge hedge
    obtain ⟨hedge, hinner⟩ := List.mem_filter.1 hedge
    exact (name_mem_inner (hp.edge_mem hsite hedge)).2 hinner

theorem waysFrom_inner (hsite : site ∈ plan.sites) (hinner : site.isInner = true) :
    waysFrom (plan.inner flow) (plan.name site) =
      (site.innerEdges flow).map fun edge => (plan.name edge.1, edge.2) := by
  have hlast := lastNode_inner h hlabelled hp hsite hinner
  rw [(plainFlow_inner h hlabelled hp).waysFrom_eq hlast (Flow.mem_of_lastNode hlast),
    openBranches_inner h hlabelled hp hsite, List.map_map]
  apply List.map_congr_left
  intro edge hedge
  have hplain := label_of_edge h hlabelled (hp.drawn.mem_iff.1 hsite)
    (List.mem_of_mem_filter hedge)
  exact congrArg (plan.name edge.1, ·) (views_of_plain hplain).2

end Inner

/-! ## Images of sites -/

def image (plan : Plan) : Site → Site
  | .start => .start
  | .activity id => .activity (plan.name (.activity id))
  | .decision id rung => .decision (plan.name (.decision id rung)) 0
  | .finish id => .finish (plan.name (.activity id))

@[simp] theorem kind_image (plan : Plan) (site : Site) : (plan.image site).kind = site.kind := by
  cases site <;> rfl

section Image

variable (h : PlainFlow flow) (hlabelled : Labelled flow) (hp : plan.Tours flow)

include hp

theorem Tours.activity_mem {id : Text} (hsite : .finish id ∈ plan.sites) :
    waysFrom flow id = [] ∧ .activity id ∈ plan.sites := by
  obtain ⟨hways, hmem⟩ := finish_mem_sites (hp.drawn.mem_iff.1 hsite)
  exact ⟨hways, hp.drawn.mem_iff.2 hmem⟩

theorem Tours.filter_sites : plan.sites.filter (fun site => site.kind ≠ .finish) =
    .start :: plan.sites.filter Site.isInner := by
  obtain ⟨rest, hsites⟩ : ∃ rest, plan.sites = .start :: rest :=
    List.head?_eq_some_iff.1 hp.ordered.head?_eq
  have hnew : .start ∉ rest := (List.nodup_cons.1 (hsites ▸ hp.distinct)).1
  rw [hsites, List.filter_cons_of_pos (by simp [Site.kind]),
    List.filter_cons_of_neg (by simp [Site.isInner])]
  congr 1
  apply List.filter_congr
  intro site hsite
  cases site with
  | start => exact absurd hsite hnew
  | activity | decision | finish => rfl

theorem image_injective (hsite : site ∈ plan.sites) (hother : other ∈ plan.sites)
    (heq : plan.image site = plan.image other) : site = other := by
  cases site <;> cases other <;> simp only [image, Site.activity.injEq, Site.decision.injEq,
    Site.finish.injEq, and_true, reduceCtorEq] at heq
  case start.start => rfl
  case activity.activity => exact name_injective hsite heq
  case decision.decision => exact name_injective hsite heq
  case finish.finish =>
    rw [Site.activity.inj (name_injective (hp.activity_mem hsite).2 heq)]

include h hlabelled

theorem siteOf_inner (hsite : site ∈ plan.sites) (hinner : site.isInner = true) :
    siteOf (plan.inner flow) (plan.name site) = plan.image site := by
  have hsites := hp.drawn.mem_iff.1 hsite
  rw [siteOf, waysFrom_inner h hlabelled hp hsite hinner, List.length_map]
  cases site with
  | start => cases hinner
  | activity id =>
      rcases edges_activity flow id with ⟨-, -, hinner⟩ | ⟨-, target, -, -, hinner⟩ <;>
        · rw [hinner]
          rfl
  | decision id rung =>
      obtain ⟨first, second, -, -, -, -, hedges⟩ := edges_decision h hlabelled hsites
      rw [innerEdges_eq h hlabelled hsites (by simp), hedges]
      rfl
  | finish id => cases hinner

theorem edges_image (hsite : site ∈ plan.sites) :
    (plan.image site).edges (plan.inner flow) =
      (site.edges flow).map fun edge => (plan.image edge.1, edge.2) := by
  have hsites := hp.drawn.mem_iff.1 hsite
  have hmem : ∀ edge ∈ site.edges flow, edge.1 ∈ plan.sites := fun _ => hp.edge_mem hsite
  cases site with
  | start =>
      have hfirst := siteOf_inner h hlabelled hp (hp.siteOf_mem h.started)
        (isInner_siteOf flow flow.start)
      exact congrArg (fun target => [(target, none)]) hfirst
  | activity id =>
      have hways := waysFrom_inner h hlabelled hp hsite rfl
      rcases edges_activity flow id with ⟨-, hedges, hinner⟩ | ⟨-, target, htarget, hedges, hinner⟩
      · rw [hinner] at hways
        rw [image, Site.edges, hways, hedges]
        rfl
      · have hnext := siteOf_inner h hlabelled hp (hmem _ (hedges ▸ List.mem_cons_self)) htarget
        rw [hinner] at hways
        rw [image, Site.edges, hways, hedges]
        exact congrArg (fun target => [(target, none)]) hnext
  | decision id rung =>
      have hways := waysFrom_inner h hlabelled hp hsite rfl
      obtain ⟨first, second, hfirst, hsecond, -, -, hedges⟩ := edges_decision h hlabelled hsites
      rw [hedges] at hmem
      have hnext := siteOf_inner h hlabelled hp (hmem _ List.mem_cons_self) hfirst
      have hlast := siteOf_inner h hlabelled hp
        (hmem _ (List.mem_cons_of_mem _ List.mem_cons_self)) hsecond
      rw [innerEdges_eq h hlabelled hsites (by simp), hedges] at hways
      rw [image, Site.edges, hways, hedges]
      simp only [List.drop_zero, List.map_cons, List.map_nil, rungEdges, pastRung, hnext, hlast]
  | finish id => rfl

theorem title_image (hsite : site ∈ plan.sites) :
    (plan.image site).title (plan.inner flow) = site.title flow := by
  cases site with
  | start => rfl
  | activity id =>
      rw [image, Site.title, lastNode_inner h hlabelled hp hsite rfl]
      rfl
  | decision id rung =>
      rw [image, Site.title, lastNode_inner h hlabelled hp hsite rfl]
      rfl
  | finish id => rfl

theorem image_visits :
    Visits (Site.next (plan.inner flow))
      (.start :: (plan.inner flow).nodeIds.map (siteOf (plan.inner flow))) []
      (plan.sites.map plan.image) := by
  -- Visiting all but the ends in the order in which they were visited gives the same order.
  have hagain : Visits (Site.next flow) (plan.sites.filter fun site => site.kind ≠ .finish) []
      plan.sites := by
    refine hp.ordered.again (fun site hsite => ?_) rfl
    rcases List.mem_cons.1 hsite with rfl | hsite
    · rfl
    · obtain ⟨id, -, rfl⟩ := List.mem_map.1 hsite
      unfold siteOf
      split <;> rfl
  have hmapped := hagain.map (g := Site.next (plan.inner flow)) (f := plan.image)
    (p := fun site => site ∈ plan.sites)
    (fun site hsite => by
      rw [Site.next, edges_image h hlabelled hp hsite, Site.next, List.map_map, List.map_map]
      rfl)
    (fun site hsite => hp.ordered.closed (by simp) site hsite)
    (fun site other hsite hother => image_injective hp hsite hother)
    (fun site hsite => List.mem_of_mem_filter hsite) (by simp)
  rw [hp.filter_sites, List.map_cons] at hmapped
  have hstarts : (plan.sites.filter Site.isInner).map plan.image =
      (plan.inner flow).nodeIds.map (siteOf (plan.inner flow)) := by
    rw [nodeIds_inner, List.map_map]
    apply List.map_congr_left
    intro site hsite
    obtain ⟨hsite, hinner⟩ := List.mem_filter.1 hsite
    exact (siteOf_inner h hlabelled hp hsite hinner).symm
  rwa [hstarts] at hmapped

theorem sites_inner {later : Plan} (hlater : later.Tours (plan.inner flow)) :
    later.sites = plan.sites.map plan.image :=
  hlater.ordered.unique (image_visits h hlabelled hp)

theorem vertex_image {later : Plan} (hlater : later.Tours (plan.inner flow))
    (hsite : site ∈ plan.sites) : later.vertex (plan.image site) = plan.vertex site := by
  have hsites := sites_inner h hlabelled hp hlater
  have hdistinct := hlater.distinct
  rw [hsites] at hdistinct
  obtain ⟨n, hn, rfl⟩ := List.getElem_of_mem hsite
  have hn' : n < (plan.sites.map plan.image).length := by rwa [List.length_map]
  have himage : plan.image plan.sites[n] = (plan.sites.map plan.image)[n] := by simp
  rw [vertex, vertex, kind_image, hsites, himage, hdistinct.idxOf_getElem,
    hp.distinct.idxOf_getElem]

theorem node_image {later : Plan} (hlater : later.Tours (plan.inner flow))
    (hsite : site ∈ plan.sites) :
    (plan.image site).node (plan.inner flow) later.name = site.node flow plan.name := by
  have hname : ∀ other ∈ plan.sites, later.name (plan.image other) = plan.name other :=
    fun other hother => congrArg Vertex.id (vertex_image h hlabelled hp hlater hother)
  rw [Site.node, Site.node, edges_image h hlabelled hp hsite, title_image h hlabelled hp hsite,
    hname site hsite, List.foldl_map]
  apply List.foldl_ext
  intro node edge hedge
  rw [hname edge.1 (hp.edge_mem hsite hedge)]

end Image

end Plan

end Flowchart.Activity
