import Flowchart.Proofs.Activity.Plan
import Flowchart.Proofs.Activity.Walking

/-!
# Accounts of a walk

While a walk goes through a flow, the machine draws a plan of it: each node gets its sites when it
is visited, and each site gets its edges one by one.  What a site still lacks is owed to it.
-/

namespace Flowchart.Activity

abbrev Debts := Site → List (Site × Option Text)

namespace Debts

def owe (debts : Debts) (site : Site) (edges : List (Site × Option Text)) : Debts :=
  fun other => (if site = other then edges else []) ++ debts other

/-- The edge of a loose end is owed until it is led to its target. -/
def await (debts : Debts) (gate : Option Loose) (target : Site) : Debts :=
  fun site => Plan.gateEdge gate target site ++ debts site

theorem owe_cons (debts : Debts) (site target : Site) (label : Option Text)
    (edges : List (Site × Option Text)) :
    debts.owe site ((target, label) :: edges) =
      (debts.owe site edges).await (some ⟨site, label⟩) target := by
  funext other
  by_cases h : site = other <;> simp [owe, await, Plan.gateEdge, h]

theorem owe_nil (debts : Debts) (site : Site) : debts.owe site [] = debts := by
  funext other
  simp [owe]

end Debts

/-- The sites and edges of a plan agree with the flow, but for the edges that are owed. -/
structure Accounts (flow : Flow) (visited : List Text) (plan : Plan) (debts : Debts) : Prop where
  closed : plan.Closed
  distinct : plan.sites.Nodup
  owned : ∀ site ∈ plan.sites, ∀ id, site.owner? = some id → id ∈ visited
  sited : ∀ id ∈ visited, siteOf flow id ∈ plan.sites
  known : ∀ id ∈ visited, id ∈ flow.nodeIds
  once : visited.Nodup
  balanced : ∀ site ∈ plan.sites, plan.edges site ++ debts site = site.edges flow
  solvent : ∀ site, site ∉ plan.sites → debts site = []

/-- The labels of visited nodes are bound to the vertices at which they are entered. -/
structure Registers (flow : Flow) (targets visited : List Text) (plan : Plan) (m : Machine) :
    Prop where
  bound : ∀ id ∈ visited, id ∈ targets →
    m.labels.lookup (labelName id) = some (plan.vertex (siteOf flow id))
  unbound : ∀ id ∈ flow.nodeIds, id ∉ visited → m.labels.lookup (labelName id) = none
  settled : m.pendingLabels = [] ∧ m.gotos = [] ∧ m.warnings = []

/-- The machine of a walk has drawn a plan, with one loose end at most. -/
structure Traces (flow : Flow) (targets : List Text) (walk : Walk) (plan : Plan)
    (gate : Option Loose) (debts : Debts) : Prop where
  draws : (walk.machine targets).Draws (plan.sketch flow) (plan.exits gate)
  gated : ∀ loose ∈ gate, loose.source ∈ plan.sites
  accounts : Accounts flow walk.visited plan debts
  registers : Registers flow targets walk.visited plan (walk.machine targets)

section Accounts

variable {flow : Flow} {visited : List Text} {plan : Plan} {debts : Debts} {site : Site}
  {gate : Option Loose}

theorem Accounts.lead (h : Accounts flow visited plan (debts.await gate site))
    (hgate : ∀ loose ∈ gate, loose.source ∈ plan.sites) (hsite : site ∈ plan.sites) :
    Accounts flow visited (plan.lead gate site) debts where
  closed := Plan.closed_lead h.closed hgate hsite
  distinct := h.distinct
  owned := h.owned
  sited := h.sited
  known := h.known
  once := h.once
  balanced := by
    intro other hother
    rw [Plan.edges_lead, List.append_assoc]
    exact h.balanced other hother
  solvent := fun other hother => (List.append_eq_nil_iff.1 (h.solvent other hother)).2

/-- A new site pays the edge that leads to it, and owes all of its own. -/
theorem Accounts.add (h : Accounts flow visited plan (debts.await gate site))
    (hgate : ∀ loose ∈ gate, loose.source ∈ plan.sites) (hsite : site ∉ plan.sites)
    (ids : List Text) (hids : (visited ++ ids).Nodup) (hknown : ∀ id ∈ ids, id ∈ flow.nodeIds)
    (howner : ∀ id, site.owner? = some id → id ∈ visited ++ ids)
    (hentry : ∀ id ∈ ids, siteOf flow id = site) :
    Accounts flow (visited ++ ids) (plan.add site gate) (debts.owe site (site.edges flow)) where
  closed := Plan.closed_add h.closed hgate
  distinct := by
    rw [Plan.sites_add]
    exact List.nodup_append.2 ⟨h.distinct, List.nodup_singleton site, by
      intro other hother new hnew heq
      rw [List.mem_singleton.1 hnew] at heq
      exact hsite (heq ▸ hother)⟩
  owned := by
    intro other hother id hid
    rcases List.mem_append.1 hother with hother | hother
    · exact List.mem_append_left _ (h.owned other hother id hid)
    · rw [List.mem_singleton.1 hother] at hid
      exact howner id hid
  sited := by
    intro id hid
    rw [Plan.sites_add, List.mem_append, List.mem_singleton]
    rcases List.mem_append.1 hid with hid | hid
    · exact .inl (h.sited id hid)
    · exact .inr (hentry id hid)
  known := by
    intro id hid
    rcases List.mem_append.1 hid with hid | hid
    · exact h.known id hid
    · exact hknown id hid
  once := hids
  balanced := by
    have hdebts : ∀ other, debts.owe site (site.edges flow) other =
        (if site = other then site.edges flow else []) ++ debts other := fun _ => rfl
    intro other hother
    rw [hdebts, Plan.edges_add]
    rcases List.mem_append.1 hother with hother | hother
    · have hne : site ≠ other := fun heq => hsite (heq ▸ hother)
      rw [if_neg hne, List.nil_append, List.append_assoc]
      exact h.balanced other hother
    -- Nothing was drawn from the new site or waits there, so all of its edges are owed.
    · obtain rfl := List.mem_singleton.1 hother
      obtain ⟨hgateEdge, hnone⟩ := List.append_eq_nil_iff.1 (h.solvent other hsite)
      rw [hgateEdge, hnone, Plan.edges_of_not_mem h.closed hsite, if_pos rfl]
      simp
  solvent := by
    intro other hother
    rw [Plan.sites_add, List.mem_append, List.mem_singleton, not_or] at hother
    have hnone := (List.append_eq_nil_iff.1 (h.solvent other hother.1)).2
    simp [Debts.owe, Ne.symm hother.2, hnone]

end Accounts

theorem Machine.book_create_of_named {m : Machine} {name : Text} (hname : m.pendingLabels = [name])
    (hfree : m.labels.lookup name = none) (kind : VertexKind) (text : Text) :
    (m.create kind text).book =
      (m.labels ++ [(name, m.nextVertex kind)], [], m.gotos, m.warnings) := by
  simp [create, book, hname, bindLabel, hfree]

theorem labelName_injective {flow : Flow} (h : PlainFlow flow) {id other : Text}
    (hid : id ∈ flow.nodeIds) (hother : other ∈ flow.nodeIds)
    (heq : labelName id = labelName other) : id = other :=
  h.apart id hid other hother (List.append_cancel_left heq)

section Registers

variable {flow : Flow} {targets visited : List Text} {plan later : Plan} {m n : Machine}

theorem Registers.keep (h : Registers flow targets visited plan m) (hbook : n.book = m.book)
    (hsited : ∀ id ∈ visited, siteOf flow id ∈ plan.sites)
    (hextends : plan.sites <+: later.sites) : Registers flow targets visited later n := by
  have hlabels : n.labels = m.labels := congrArg (fun book => book.1) hbook
  refine ⟨?_, ?_, ?_⟩
  · intro id hid htarget
    rw [hlabels, h.bound id hid htarget, Plan.vertex_of_prefix hextends (hsited id hid)]
  · intro id hid hnew
    rw [hlabels]
    exact h.unbound id hid hnew
  · obtain ⟨hpending, hgotos, hwarnings⟩ := h.settled
    exact ⟨(congrArg (fun book => book.2.1) hbook).trans hpending,
      (congrArg (fun book => book.2.2.1) hbook).trans hgotos,
      (congrArg (fun book => book.2.2.2) hbook).trans hwarnings⟩

theorem Registers.visit (hflow : PlainFlow flow) (h : Registers flow targets visited plan m)
    (hsited : ∀ id ∈ visited, siteOf flow id ∈ plan.sites)
    {id : Text} (hid : id ∈ flow.nodeIds) (hnew : id ∉ visited) {kind : VertexKind} {text : Text} {gate : Option Loose}
    (hvertex : (plan.add (siteOf flow id) gate).vertex (siteOf flow id) = m.nextVertex kind)
    (hbook : n.book = ((if id ∈ targets then m.step (.label (labelName id)) else m).create kind
      text).book) :
    Registers flow targets (visited ++ [id]) (plan.add (siteOf flow id) gate) n := by
  obtain ⟨hpending, hgotos, hwarnings⟩ := h.settled
  -- The label is heard before the vertex is made, so the vertex settles it at once.
  have hbook' : n.book = (if id ∈ targets then m.labels ++ [(labelName id, m.nextVertex kind)]
      else m.labels, [], [], []) := by
    rw [hbook]
    by_cases htarget : id ∈ targets
    · rw [if_pos htarget, if_pos htarget]
      have hname : (m.step (.label (labelName id))).pendingLabels = [labelName id] := by
        simp [Machine.step, hpending]
      rw [Machine.book_create_of_named hname (h.unbound id hid hnew)]
      simp [Machine.step, hgotos, hwarnings, Machine.nextVertex]
    · rw [if_neg htarget, if_neg htarget, Machine.book_create_of_idle hpending]
      simp [Machine.book, hpending, hgotos, hwarnings]
  have hlabels : n.labels = if id ∈ targets then
      m.labels ++ [(labelName id, m.nextVertex kind)] else m.labels :=
    congrArg (fun book => book.1) hbook'
  refine ⟨?_, ?_, ?_⟩
  · intro other hother htarget
    rcases List.mem_append.1 hother with hother | hother
    · have hold := h.bound other hother htarget
      rw [Plan.vertex_add_of_mem (hsited other hother), ← hold, hlabels]
      split
      · rw [List.lookup_append, hold]
        rfl
      · rfl
    · obtain rfl := List.mem_singleton.1 hother
      rw [hlabels, if_pos htarget, List.lookup_append, h.unbound other hid hnew, hvertex]
      simp
  · intro other hother hfresh
    rw [List.mem_append, List.mem_singleton, not_or] at hfresh
    have hold := h.unbound other hother hfresh.1
    rw [hlabels]
    split
    · have hne : labelName other ≠ labelName id :=
        fun heq => hfresh.2 (labelName_injective hflow hother hid heq)
      simp [List.lookup_append, hold, List.lookup_cons, beq_eq_false_iff_ne.2 hne]
    · exact hold
  · exact ⟨congrArg (fun book => book.2.1) hbook', congrArg (fun book => book.2.2.1) hbook',
      congrArg (fun book => book.2.2.2) hbook'⟩

end Registers

end Flowchart.Activity
