import Flowchart.Proofs.Activity.Inner
import Flowchart.Proofs.Activity.Markers
import Flowchart.Proofs.Caption
import Flowchart.Proofs.Flow.Sound

/-!
# Redrawn flows

A flow that was read from a diagram has the nodes of a plan.  It is a flow with markers, and the
plain flow of its other nodes is the inner flow of the plan.
-/

namespace Flowchart.Activity

def Untagged (flow : Flow) : Prop :=
  ∀ node ∈ flow.nodes, ∀ s ∈ node.title.text?, replaceBreakTags s = s

instance (flow : Flow) : Decidable (Untagged flow) :=
  inferInstanceAs (Decidable (∀ node ∈ flow.nodes, ∀ s ∈ node.title.text?, replaceBreakTags s = s))

theorem PlainLine.caption {s : Text} (h : PlainLine s) (htags : replaceBreakTags s = s) :
    Caption.ofText s = ⟨s, s⟩ := by
  have hsplit : Text.split '\n' s = [s] := Text.splitWhere_of_none fun c hc => by
    have hbreak := h.unbroken c hc
    rw [beq_eq_false_iff_ne]
    rintro rfl
    exact absurd hbreak (by decide)
  have hlined : s.Lined := by
    rw [Text.Lined, hsplit]
    exact List.forall_mem_singleton.2 ⟨h.nonempty, h.trimmed⟩
  rw [Caption.ofText_of_replaced htags hlined, hsplit]
  rfl

namespace Site

variable (flow : Flow) (rename : Site → Text) (site : Site)

@[simp] theorem id_node : (site.node flow rename).id = rename site := by
  rw [node, Node.kept_foldl Node.id fun _ _ => Node.id_addOutlet ..]

@[simp] theorem title_node :
    (site.node flow rename).title = .str (Caption.ofText (site.title flow)).title := by
  rw [node, Node.kept_foldl Node.title]
  exact fun _ _ => rfl

@[simp] theorem content_node :
    (site.node flow rename).content = .str (Caption.ofText (site.title flow)).content := by
  rw [node, Node.kept_foldl Node.content]
  exact fun _ _ => rfl

theorem outlets_node :
    (site.node flow rename).outlets.map (fun outlet => (outlet.target, outlet.label)) =
      (site.edges flow).map fun edge => (rename edge.1, (Json.ofText? edge.2).orElse .null) := by
  rw [node, Node.map_outlets_foldl (fun outlet => (outlet.target, outlet.label))
    fun edge : Site × Option Text => (rename edge.1, (Json.ofText? edge.2).orElse .null)]
  · rfl
  · intro node edge
    simp [Node.addOutlet, Node.nextOutlet]

theorem keyed_node : ∀ outlet ∈ (site.node flow rename).outlets, outlet.Keyed := by
  have hviews : (site.node flow rename).outlets.map
      (fun outlet => (outlet.id.items?, outlet.id.fields?)) =
        (site.edges flow).map fun _ => (none, none) := by
    rw [node, Node.map_outlets_foldl (fun outlet => (outlet.id.items?, outlet.id.fields?))
      fun _ : Site × Option Text => (none, none)]
    · rfl
    · intro node edge
      simp [Node.addOutlet, Node.nextOutlet, Json.items?, Json.fields?]
  intro outlet houtlet
  obtain ⟨edge, -, heq⟩ := List.mem_map.1 (hviews ▸ List.mem_map_of_mem houtlet)
  exact ⟨(Prod.mk.inj heq).1.symm, (Prod.mk.inj heq).2.symm⟩

end Site

/-- A flow with the nodes of a plan, and with its start. -/
structure Redraws (flow : Flow) (plan : Plan) (full : Flow) : Prop where
  nodes : full.nodes = plan.sites.map (Site.node flow plan.name)
  start : full.start = plan.name .start

namespace Redraws

variable {flow full : Flow} {plan : Plan} (hr : Redraws flow plan full)

include hr

theorem nodeIds : full.nodeIds = plan.sites.map plan.name := by
  rw [Flow.nodeIds, hr.nodes, List.map_map]
  exact List.map_congr_left fun site _ => Site.id_node flow plan.name site

variable (hp : plan.Tours flow) {site : Site} (hsite : site ∈ plan.sites)

include hp

theorem distinct : full.nodeIds.Nodup := by
  rw [hr.nodeIds]
  exact hp.distinct.map_on fun site hsite other _ heq => Plan.name_injective hsite heq

include hsite

theorem lastNode : full.lastNode? (plan.name site) = some (site.node flow plan.name) := by
  have hnode : site.node flow plan.name ∈ full.nodes := hr.nodes ▸ List.mem_map_of_mem hsite
  rw [← Site.id_node flow plan.name site]
  exact Flow.lastNode_eq (hr.distinct hp) hnode

theorem openBranches_eq (h : PlainFlow flow) (hlabelled : Labelled flow) :
    openBranches full (site.node flow plan.name) =
      (site.edges flow).map fun edge => (plan.name edge.1, .ofText? edge.2) := by
  have hsites := hp.drawn.mem_iff.1 hsite
  apply openBranches_of_edges
  · rw [Site.outlets_node]
    apply List.map_congr_left
    intro edge hedge
    exact congrArg (plan.name edge.1, ·) (views_of_plain (label_of_edge h hlabelled hsites hedge)).1
  · exact labels_of_two h hlabelled hsites
  · intro edge hedge
    rw [hr.nodeIds]
    exact List.mem_map_of_mem (hp.edge_mem hsite hedge)

end Redraws

/-- The end behind a site, if the site is an activity that leads nowhere else. -/
def Site.end? (flow : Flow) : Site → Option Site
  | .activity id => if waysFrom flow id = [] then some (.finish id) else none
  | .start | .decision _ _ | .finish _ => none

theorem end?_eq_some {flow : Flow} {site last : Site} :
    site.end? flow = some last ↔
      ∃ id, site = .activity id ∧ waysFrom flow id = [] ∧ last = .finish id := by
  cases site with
  | activity id =>
      simp only [Site.end?, Option.ite_none_right_eq_some, Option.some.injEq, Site.activity.injEq]
      exact ⟨fun ⟨hways, heq⟩ => ⟨id, rfl, hways, heq.symm⟩,
        fun ⟨_, hid, hways, heq⟩ => hid ▸ ⟨hways, heq.symm⟩⟩
  | start | decision | finish => simp [Site.end?]

theorem end?_of_next {flow : Flow} (h : PlainFlow flow) (hlabelled : Labelled flow) {site : Site}
    (hsite : site ∈ sites flow) {id : Text} (hnext : .finish id ∈ site.next flow) :
    site.end? flow = some (.finish id) := by
  obtain ⟨edge, hedge, heq⟩ := List.mem_map.1 hnext
  rcases edge_cases h hlabelled hsite hedge with hinner | ⟨owner, hid, hways, rfl⟩
  · rw [heq] at hinner
    cases hinner
  · exact end?_eq_some.2 ⟨owner, hid, hways, heq.symm⟩

namespace Plan

def finish? (flow : Flow) (plan : Plan) (id : Text) : Option Text :=
  ((plan.sites.find? fun site => plan.name site = id).bind (Site.end? flow)).map plan.name

theorem finish?_name {flow : Flow} {plan : Plan} {site : Site} (hsite : site ∈ plan.sites) :
    plan.finish? flow (plan.name site) = (site.end? flow).map plan.name := by
  have hfound : plan.sites.find? (fun other => plan.name other = plan.name site) = some site := by
    cases hfind : plan.sites.find? (fun other => plan.name other = plan.name site) with
    | none => simpa using List.find?_eq_none.1 hfind site hsite
    | some other =>
        have hname : plan.name other = plan.name site := by simpa using List.find?_some hfind
        rw [name_injective (List.mem_of_find?_eq_some hfind) hname]
  rw [finish?, hfound]
  rfl

theorem Tours.finish_cases {flow : Flow} {plan : Plan} {site : Site} (hp : plan.Tours flow)
    (hsite : site ∈ plan.sites) {last : Text}
    (hlast : plan.finish? flow (plan.name site) = some last) :
    ∃ id, site = .activity id ∧ waysFrom flow id = [] ∧ .finish id ∈ plan.sites ∧
      last = plan.name (.finish id) := by
  rw [finish?_name hsite] at hlast
  obtain ⟨finish, hfinish, rfl⟩ := Option.map_eq_some_iff.1 hlast
  obtain ⟨id, rfl, hways, rfl⟩ := end?_eq_some.1 hfinish
  have hedges : (Site.activity id).edges flow = [(.finish id, none)] := by rw [Site.edges, hways]
  exact ⟨id, rfl, hways, hp.edge_mem hsite (hedges ▸ List.mem_cons_self), rfl⟩

theorem exists_site {flow : Flow} {plan : Plan} {id : Text}
    (hid : id ∈ (plan.inner flow).nodeIds) :
    ∃ site ∈ plan.sites, site.isInner = true ∧ plan.name site = id := by
  rw [nodeIds_inner] at hid
  obtain ⟨site, hsite, rfl⟩ := List.mem_map.1 hid
  exact ⟨site, List.mem_of_mem_filter hsite, (List.mem_filter.1 hsite).2, rfl⟩

end Plan

section Inner

variable {flow : Flow} {plan : Plan} (h : PlainFlow flow) (huntagged : Untagged flow)
  (hp : plan.Tours flow) {site : Site} (hsite : site ∈ plan.sites) (hinner : site.isInner = true)

include h huntagged hp hsite hinner

theorem titled_of_inner : Caption.ofText (site.title flow) = ⟨site.title flow, site.title flow⟩ ∧
    PlainLine (site.title flow) ∧ site.title flow ≠ "Start".toList ∧
      site.title flow ≠ "End".toList := by
  obtain ⟨node, hnode, htitle⟩ := Plan.title_of_inner (hp.drawn.mem_iff.1 hsite) hinner h
  obtain ⟨text, htext, hplain, hstart, hend⟩ := (h.nodes node hnode).titled
  obtain rfl : site.title flow = text := Json.str.inj (htitle.symm.trans htext)
  have htext : site.title flow ∈ node.title.text? := by
    rw [htitle]
    rfl
  exact ⟨hplain.caption (huntagged node hnode _ htext), hplain, hstart, hend⟩

theorem plainNode_node (hlabelled : Labelled flow) : PlainNode (site.node flow plan.name) where
  titled := by
    obtain ⟨hcaption, hplain⟩ := titled_of_inner h huntagged hp hsite hinner
    exact ⟨site.title flow, by rw [Site.title_node, hcaption], hplain⟩
  spoken := by
    rw [Site.content_node, Site.title_node, (titled_of_inner h huntagged hp hsite hinner).1]
    exact .inr rfl
  labelled := by
    intro outlet houtlet
    obtain ⟨edge, hedge, heq⟩ := List.mem_map.1
      (Site.outlets_node flow plan.name site ▸ List.mem_map_of_mem houtlet)
    have hplain := label_of_edge h hlabelled (hp.drawn.mem_iff.1 hsite) hedge
    rw [← (Prod.mk.inj heq).2, (views_of_plain hplain).1]
    exact plainLabel_ofText hplain
  keyed := Site.keyed_node flow plan.name site

end Inner

namespace Redraws

variable {flow full : Flow} {plan : Plan} (hr : Redraws flow plan full) (h : PlainFlow flow)
  (hlabelled : Labelled flow) (huntagged : Untagged flow) (hp : plan.Tours flow)

include hr h hlabelled hp

theorem begins : ∃ node label, full.lastNode? full.start = some node ∧
    isStartMarker (Graph.ofFlow full) node = true ∧
    openBranches full node = [((plan.inner flow).start, label)] := by
  -- No edge leads to the start, so it is a marker.
  have hstart : Site.start ∈ plan.sites := hp.drawn.mem_iff.2 List.mem_cons_self
  refine ⟨_, .null, hr.start ▸ hr.lastNode hp hstart, ?_, hr.openBranches_eq hp hstart h hlabelled⟩
  have hdegree : (Graph.ofFlow full).inDegree (plan.name .start) = 0 := by
    apply Graph.inDegree_ofFlow
    rw [hr.nodes]
    refine List.forall_mem_map.2 fun site hsite outlet houtlet heq => ?_
    obtain ⟨edge, hedge, hviews⟩ := List.mem_map.1
      (Site.outlets_node flow plan.name site ▸ List.mem_map_of_mem houtlet)
    have hname : plan.name .start = plan.name edge.1 :=
      heq.symm.trans (Prod.mk.inj hviews).1.symm
    have hfirst := Plan.name_injective hstart hname
    rcases edge_cases h hlabelled (hp.drawn.mem_iff.1 hsite) hedge with hinner | ⟨_, _, _, rfl⟩
    · rw [← hfirst] at hinner
      cases hinner
    · cases hfirst
  rw [isStartMarker, Site.title_node, Site.id_node, hdegree]
  rfl

include huntagged in
theorem said {site : Site} (hsite : site ∈ plan.sites) (hinner : site.isInner = true) :
    ∃ node other, full.lastNode? (plan.name site) = some node ∧
      (plan.inner flow).lastNode? (plan.name site) = some other ∧ PlainNode node ∧
      node.title = other.title ∧
      (plan.finish? flow (plan.name site) = none →
        openBranches full node = openBranches (plan.inner flow) other) ∧
      ∀ last, plan.finish? flow (plan.name site) = some last →
        openBranches (plan.inner flow) other = [] ∧
          ∃ label, openBranches full node = [(last, label)] := by
  have hbranches := hr.openBranches_eq hp hsite h hlabelled
  have hbranches' := Plan.openBranches_inner h hlabelled hp hsite
  refine ⟨_, _, hr.lastNode hp hsite, Plan.lastNode_inner h hlabelled hp hsite hinner,
    plainNode_node h huntagged hp hsite hinner hlabelled, ?_, ?_, ?_⟩
  · rw [Site.title_node, (titled_of_inner h huntagged hp hsite hinner).1]
    rfl
  · intro hnone
    rw [Plan.finish?_name hsite, Option.map_eq_none_iff] at hnone
    rw [hbranches, hbranches', innerEdges_eq h hlabelled (hp.drawn.mem_iff.1 hsite)]
    intro id hid hways
    rw [end?_eq_some.2 ⟨id, hid, hways, rfl⟩] at hnone
    cases hnone
  · intro last hlast
    obtain ⟨id, rfl, hways, -, rfl⟩ := hp.finish_cases hsite hlast
    rcases edges_activity flow id with ⟨-, hedges, hnone⟩ | ⟨hne, -⟩
    · rw [hbranches, hbranches', hedges, hnone]
      exact ⟨rfl, .null, rfl⟩
    · exact absurd hways hne

theorem ends {site : Site} (hsite : site ∈ plan.sites) {last : Text}
    (hlast : plan.finish? flow (plan.name site) = some last) :
    last ∉ (plan.inner flow).nodeIds ∧ last ≠ full.start ∧
      ∃ node, full.lastNode? last = some node ∧ node.title = .str "End".toList ∧
        openBranches full node = [] := by
  obtain ⟨id, -, -, hfinish, rfl⟩ := hp.finish_cases hsite hlast
  refine ⟨?_, ?_, _, hr.lastNode hp hfinish, ?_, ?_⟩
  · rw [Plan.name_mem_inner hfinish]
    exact Bool.false_ne_true
  · rw [hr.start]
    intro heq
    cases Plan.name_injective hfinish heq
  · rw [Site.title_node]
    rfl
  · rw [hr.openBranches_eq hp hfinish h hlabelled]
    rfl

theorem follows {before after : List Text} {last : Text}
    (hall : full.nodeIds = before ++ last :: after) :
    last ∈ (plan.inner flow).nodeIds ∨ last = full.start ∨
      ∃ id ∈ before, id ∈ (plan.inner flow).nodeIds ∧ plan.finish? flow id = some last := by
  rw [hr.nodeIds] at hall
  obtain ⟨earlier, rest, hsites, rfl, hrest⟩ := List.map_eq_append_iff.1 hall
  obtain ⟨site, later, rfl, rfl, rfl⟩ := List.map_eq_cons_iff.1 hrest
  have hsite : site ∈ plan.sites := hsites ▸ List.mem_append_right _ List.mem_cons_self
  cases site with
  | start => exact .inr (.inl hr.start.symm)
  | activity id => exact .inl ((Plan.name_mem_inner hsite).2 rfl)
  | decision id rung => exact .inl ((Plan.name_mem_inner hsite).2 rfl)
  | finish id =>
      rcases hp.ordered.exists_before hsites with hseen | hroot | ⟨owner, howner, hnext⟩
      · cases hseen
      · rcases List.mem_cons.1 hroot with hroot | hroot
        · cases hroot
        · obtain ⟨other, -, hother⟩ := List.mem_map.1 hroot
          have hinner := isInner_siteOf flow other
          rw [hother] at hinner
          cases hinner
      · have hmem : owner ∈ plan.sites := hsites ▸ List.mem_append_left _ howner
        have hend := end?_of_next h hlabelled (hp.drawn.mem_iff.1 hmem) hnext
        obtain ⟨_, rfl, -, -⟩ := end?_eq_some.1 hend
        refine .inr (.inr ⟨_, List.mem_map_of_mem howner, (Plan.name_mem_inner hmem).2 rfl, ?_⟩)
        rw [Plan.finish?_name hmem, hend]
        rfl

include huntagged in
theorem marked : Marked full (plan.inner flow) (plan.finish? flow) where
  plain := Plan.plainFlow_inner h hlabelled hp
  started := by
    rw [hr.start, hr.nodeIds]
    exact List.mem_map_of_mem (hp.drawn.mem_iff.2 List.mem_cons_self)
  hidden := by
    rw [hr.start, Plan.name_mem_inner (hp.drawn.mem_iff.2 List.mem_cons_self)]
    exact Bool.false_ne_true
  begins := hr.begins h hlabelled hp
  said := by
    intro id hid
    obtain ⟨site, hsite, hinner, rfl⟩ := Plan.exists_site hid
    exact hr.said h hlabelled huntagged hp hsite hinner
  ends := by
    intro id hid last hlast
    obtain ⟨site, hsite, -, rfl⟩ := Plan.exists_site hid
    exact hr.ends h hlabelled hp hsite hlast
  apart := by
    intro id hid other hother last hlast hlast'
    obtain ⟨site, hsite, -, rfl⟩ := Plan.exists_site hid
    obtain ⟨site', hsite', -, rfl⟩ := Plan.exists_site hother
    obtain ⟨id, rfl, -, hfinish, rfl⟩ := hp.finish_cases hsite hlast
    obtain ⟨id', rfl, -, -, heq⟩ := hp.finish_cases hsite' hlast'
    rw [Site.finish.inj (Plan.name_injective hfinish heq)]
  kept := by
    rw [hr.nodeIds, List.filter_map]
    refine (Plan.nodeIds_inner flow plan).trans (congrArg _ (List.filter_congr fun site hsite => ?_))
    have hname : plan.name site ∈ (plan.inner flow).nodeIds ↔ site.isInner = true :=
      Plan.name_mem_inner hsite
    rw [Bool.eq_iff_iff, ← hname]
    exact List.contains_iff_mem.symm
  follows := fun _ _ _ hall => hr.follows h hlabelled hp hall

end Redraws

end Flowchart.Activity
