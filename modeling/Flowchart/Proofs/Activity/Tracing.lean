import Flowchart.Proofs.Activity.Accounts

/-!
# Tracing a walk

The machine that runs the lines of a walk draws the sites of every node that the walk visits, with
all their edges.  One lemma for each kind of line carries the accounts along, and an induction on
the fuel of the walk puts them together.
-/

namespace Flowchart.Activity

section Steps

variable {flow : Flow} {targets : List Text} {walk : Walk} {plan : Plan} {gate : Option Loose}
  {debts : Debts} (depth : Nat) {id : Text}

theorem Traces.jump
    (h : Traces flow targets walk plan gate (debts.await gate (siteOf flow id)))
    (hid : id ∈ walk.visited) (htarget : id ∈ targets) :
    Traces flow targets (walk.jump depth id) (plan.lead gate (siteOf flow id)) none debts ∧
      ((walk.jump depth id).machine targets).frames =
        (walk.machine targets).frames.modifyHead Frame.take := by
  obtain ⟨hdraws, hframes, hbook⟩ := h.draws.goto (h.registers.bound id hid htarget)
  rw [← Walk.machine_jump depth] at hdraws hframes hbook
  refine ⟨⟨?_, by simp, ?_, ?_⟩, hframes⟩
  · rwa [Plan.sketch_lead, ← Plan.exits_eraseDups]
  · rw [Walk.visited_jump]
    exact h.accounts.lead h.gated (h.accounts.sited id hid)
  · rw [Walk.visited_jump]
    exact h.registers.keep hbook h.accounts.sited (List.prefix_refl _)

theorem Traces.draws_visit (h : Traces flow targets walk plan gate debts) (id : Text) :
    ((walk.visit depth id).machine targets).Draws (plan.sketch flow) (plan.exits gate) ∧
      ((walk.visit depth id).machine targets).frames = (walk.machine targets).frames := by
  rw [Walk.machine_visit]
  split
  · exact ⟨h.draws.label _, rfl⟩
  · exact ⟨h.draws, rfl⟩

theorem site_not_mem_of_not_visited (h : Accounts flow walk.visited plan debts)
    (hnew : id ∉ walk.visited) : siteOf flow id ∉ plan.sites :=
  fun hsite => hnew (h.owned _ hsite id owner_siteOf)

theorem exits_add_self (flow : Flow) {site : Site} (hsite : site ∉ plan.sites) (label : Option Text) :
    (plan.add site gate).exits (some ⟨site, label⟩) =
      [⟨(plan.sketch flow).nextVertex site.kind, label⟩] := by
  simp [Plan.exits, Plan.vertex_add_self flow gate hsite]

theorem Traces.visit (hflow : PlainFlow flow)
    (h : Traces flow targets walk plan gate (debts.await gate (siteOf flow id)))
    (hid : id ∈ flow.nodeIds) (hnew : id ∉ walk.visited) {later : Walk} {label : Option Text}
    (hvisited : later.visited = walk.visited ++ [id])
    (hdraws : (later.machine targets).Draws
      ((plan.sketch flow).add (siteOf flow id).kind ((siteOf flow id).title flow)
        (plan.exits gate))
      [⟨(plan.sketch flow).nextVertex (siteOf flow id).kind, label⟩])
    (hbook : (later.machine targets).book =
      (((walk.visit depth id).machine targets).create (siteOf flow id).kind
        ((siteOf flow id).title flow)).book) :
    Traces flow targets later (plan.add (siteOf flow id) gate) (some ⟨siteOf flow id, label⟩)
      (debts.owe (siteOf flow id) ((siteOf flow id).edges flow)) := by
  have hsite := site_not_mem_of_not_visited h.accounts hnew
  refine ⟨?_, by simp, ?_, ?_⟩
  · rwa [Plan.sketch_add h.accounts.closed h.gated hsite, exits_add_self flow hsite]
  · rw [hvisited]
    refine h.accounts.add h.gated hsite [id] ?_ ?_ ?_ ?_
    · exact List.nodup_append.2 ⟨h.accounts.once, List.nodup_singleton id, by
        intro other hother new hmem heq
        rw [List.mem_singleton.1 hmem] at heq
        exact hnew (heq ▸ hother)⟩
    · simpa using hid
    · intro owner howner
      rw [owner_siteOf] at howner
      simp [← Option.some.inj howner]
    · simp
  · rw [hvisited]
    rw [Walk.machine_visit] at hbook
    refine h.registers.visit hflow h.accounts.sited hid hnew ?_ hbook
    rw [Plan.vertex_add_self flow gate hsite, Machine.nextVertex_eq h.draws.places]

theorem Traces.activity (hflow : PlainFlow flow)
    (h : Traces flow targets walk plan gate (debts.await gate (siteOf flow id)))
    (hid : id ∈ flow.nodeIds) (hnew : id ∉ walk.visited) (hkind : siteOf flow id = .activity id)
    {text : Text} (htitle : (siteOf flow id).title flow = text) (hspoken : text ≠ []) :
    Traces flow targets ((walk.visit depth id).write depth (.activity (.str text)))
        (plan.add (siteOf flow id) gate) (some ⟨siteOf flow id, none⟩)
        (debts.owe (siteOf flow id) ((siteOf flow id).edges flow)) ∧
      (((walk.visit depth id).write depth (.activity (.str text))).machine targets).frames =
        (walk.machine targets).frames.modifyHead Frame.take := by
  obtain ⟨hvisit, hsame⟩ := h.draws_visit depth id
  have hstep : ((walk.visit depth id).write depth (.activity (.str text))).machine targets =
      ((walk.visit depth id).machine targets).advance .activity text := by
    rw [Walk.machine_write]
    simp [Phrase.statement, Json.text?, Machine.step, hspoken]
  have hkind' : (siteOf flow id).kind = .activity := by rw [hkind]; rfl
  constructor
  · apply h.visit depth hflow hid hnew rfl
    · rw [hstep, hkind', htitle]
      exact hvisit.advance .activity text
    · rw [hstep, hkind', htitle]
      exact Machine.book_advance ..
  · rw [hstep, hvisit.ready.frames_advance, hsame]

theorem Traces.ifThen (hflow : PlainFlow flow)
    (h : Traces flow targets walk plan gate (debts.await gate (siteOf flow id)))
    (hid : id ∈ flow.nodeIds) (hnew : id ∉ walk.visited) (hkind : siteOf flow id = .decision id 0)
    {text : Text} (htitle : (siteOf flow id).title flow = text) (label : Json) :
    Traces flow targets ((walk.visit depth id).write depth (.ifThen (.str text) label))
        (plan.add (siteOf flow id) gate) (some ⟨siteOf flow id, label.name?⟩)
        (debts.owe (siteOf flow id) ((siteOf flow id).edges flow)) ∧
      (((walk.visit depth id).write depth (.ifThen (.str text) label)).machine targets).frames =
        { decision := (plan.add (siteOf flow id) gate).vertex (siteOf flow id)
          thenLabel := label.name? } :: (walk.machine targets).frames.modifyHead Frame.take := by
  obtain ⟨hvisit, hsame⟩ := h.draws_visit depth id
  obtain ⟨hdraws, hframes⟩ := hvisit.ifThen text label.name?
  have hstep : ((walk.visit depth id).write depth (.ifThen (.str text) label)).machine targets =
      ((walk.visit depth id).machine targets).step (.ifThen text label.name?) :=
    Walk.machine_write
  have hkind' : (siteOf flow id).kind = .decision := by rw [hkind]; rfl
  have hsite := site_not_mem_of_not_visited h.accounts hnew
  constructor
  · apply h.visit depth hflow hid hnew rfl
    · rw [hstep, hkind', htitle]
      exact hdraws
    · rw [hstep, hkind', htitle]
      exact Machine.book_advance ..
  · rw [hstep, hframes, hsame, Plan.vertex_add_self flow gate hsite, hkind']

theorem Traces.stop
    (h : Traces flow targets walk plan gate (debts.await gate (.finish id)))
    (hid : id ∈ walk.visited) (hsite : .finish id ∉ plan.sites) :
    Traces flow targets (walk.write depth .stop) (plan.add (.finish id) gate) none debts ∧
      ((walk.write depth .stop).machine targets).frames =
        (walk.machine targets).frames.modifyHead Frame.take := by
  have hstep : (walk.write depth .stop).machine targets = (walk.machine targets).step .stop :=
    Walk.machine_write
  have hbook : ((walk.machine targets).step .stop).book = (walk.machine targets).book :=
    (Machine.book_advance ..).trans
      (Machine.book_create_of_idle h.registers.settled.1 ..)
  have hframes : ((walk.machine targets).step .stop).frames =
      (walk.machine targets).frames.modifyHead Frame.take := h.draws.ready.frames_advance ..
  have haccounts := h.accounts.add h.gated hsite [] (by simpa using h.accounts.once)
    (by simp) (by simpa [Site.owner?] using hid) (by simp)
  rw [Site.edges, Debts.owe_nil, List.append_nil] at haccounts
  refine ⟨⟨?_, by simp, haccounts, ?_⟩, by rw [hstep, hframes]⟩
  · rw [hstep, Plan.sketch_add h.accounts.closed h.gated hsite]
    exact h.draws.stop
  · rw [hstep]
    exact h.registers.keep hbook h.accounts.sited (List.prefix_append _ _)

/-- The machine is between two branches of a condition.  Its innermost frame stands for the rung,
and no branch of the chain left a loose end. -/
def Laddered (m : Machine) (rung : Vertex) (base : List Frame) : Prop :=
  ∃ top below, m.frames = top :: below ∧ top.decision = rung ∧ top.inElse = false ∧
    Machine.collected (top :: below) = [] ∧ (Machine.splitChain (top :: below)).2 = base

variable {rung : Nat} {base : List Frame} (label : Json)

theorem Traces.elseIf
    (h : Traces flow targets walk plan none
      (debts.owe (.decision id rung) [(.decision id (rung + 1), some "no".toList)]))
    (hid : id ∈ walk.visited) (hrung : .decision id rung ∈ plan.sites)
    (hnext : .decision id (rung + 1) ∉ plan.sites) {text : Text}
    (htitle : (Site.decision id (rung + 1)).title flow = text)
    (hladder : Laddered (walk.machine targets) (plan.vertex (.decision id rung)) base) :
    let gate : Option Loose := some ⟨.decision id rung, some "no".toList⟩
    let later := walk.write depth (.elseIf (.str text) label)
    let grown := plan.add (.decision id (rung + 1)) gate
    Traces flow targets later grown (some ⟨.decision id (rung + 1), label.name?⟩)
        (debts.owe (.decision id (rung + 1)) ((Site.decision id (rung + 1)).edges flow)) ∧
      Laddered (later.machine targets) (grown.vertex (.decision id (rung + 1))) base := by
  intro gate later grown
  obtain ⟨top, below, hframes, hdecision, -, hcollected, hbase⟩ := hladder
  have hexits : plan.exits none = [] := rfl
  obtain ⟨hdraws, hnew⟩ :=
    h.draws.elseIf hframes "no".toList text label.name?
  have hstep : later.machine targets =
      (walk.machine targets).elseIf "no".toList text label.name? := Walk.machine_write
  have hbook : (later.machine targets).book = (walk.machine targets).book := by
    rw [hstep]
    exact Machine.book_elseIf (by simp [hframes]) h.registers.settled.1 ..
  have hgate : ∀ loose ∈ gate, loose.source ∈ plan.sites := by simpa [gate] using hrung
  have hvertex := Plan.vertex_add_self flow gate hnext
  -- The new rung is a site of a node visited before, so no id is added.
  have haccounts := h.accounts
  rw [Debts.owe_cons, Debts.owe_nil] at haccounts
  have hgrown := haccounts.add hgate hnext [] (by simpa using h.accounts.once)
    (by simp) (by simpa [Site.owner?] using hid) (by simp)
  rw [List.append_nil] at hgrown
  refine ⟨⟨?_, by simp [grown], hgrown, ?_⟩, ?_⟩
  · rw [hstep, Plan.sketch_add h.accounts.closed hgate hnext, exits_add_self flow hnext,
      htitle]
    rwa [hdecision] at hdraws
  · exact h.registers.keep hbook h.accounts.sited (List.prefix_append _ _)
  · rw [hstep]
    refine ⟨_, _, hnew, hvertex.symm, rfl, ?_, ?_⟩
    · rw [Machine.collected_cons, Machine.collected_turn, hcollected, hexits]
      rfl
    · rw [← hbase, Machine.splitChain_snd_of_chained top
        (top.turn (plan.exits none) (some "no".toList) true) rfl]
      rfl

theorem Traces.otherwise (h : Traces flow targets walk plan none debts)
    (hrung : .decision id rung ∈ plan.sites)
    (hladder : Laddered (walk.machine targets) (plan.vertex (.decision id rung)) base) :
    let later := walk.write depth (.otherwise label)
    Traces flow targets later plan (some ⟨.decision id rung, label.name?⟩) debts ∧
      ∃ top below, (later.machine targets).frames = top :: below ∧ top.inElse = true ∧
        Machine.collected (top :: below) = [] ∧
        (Machine.splitChain (top :: below)).2 = base := by
  intro later
  obtain ⟨top, below, hframes, hdecision, -, hcollected, hbase⟩ := hladder
  obtain ⟨hdraws, hnew⟩ := h.draws.otherwise hframes label.name?
  have hstep : later.machine targets = (walk.machine targets).otherwise label.name? :=
    Walk.machine_write
  have hbook : (later.machine targets).book = (walk.machine targets).book := by
    rw [hstep]
    exact Machine.book_otherwise (by simp [hframes]) label.name?
  refine ⟨⟨?_, by simpa using hrung, h.accounts, ?_⟩, ?_⟩
  · rw [hstep]
    rwa [hdecision] at hdraws
  · exact h.registers.keep hbook h.accounts.sited (List.prefix_refl _)
  · rw [hstep, hnew]
    refine ⟨_, _, rfl, rfl, ?_, ?_⟩
    · rw [Machine.collected_turn, hcollected]
      rfl
    · rw [← hbase]
      exact Machine.splitChain_snd_of_chained
        (top.turn (plan.exits none) label.name? false) top rfl below

theorem Traces.endIf (h : Traces flow targets walk plan none debts) {top : Frame}
    {below : List Frame} (hframes : (walk.machine targets).frames = top :: below)
    (helse : top.inElse = true) (hcollected : Machine.collected (top :: below) = [])
    (hbase : (Machine.splitChain (top :: below)).2 = base)
    (htaken : ∀ other others, base = other :: others → other.branchTaken = true) :
    Traces flow targets (walk.write depth .endIf) plan none debts ∧
      ((walk.write depth .endIf).machine targets).frames = base := by
  subst hbase
  obtain ⟨hdraws, hnew⟩ := h.draws.endIf hframes htaken
  have hstep : (walk.write depth .endIf).machine targets = (walk.machine targets).endIf :=
    Walk.machine_write
  have hbook : ((walk.write depth .endIf).machine targets).book = (walk.machine targets).book := by
    rw [hstep]
    exact Machine.book_endIf (by simp [hframes])
  refine ⟨⟨?_, by simp, h.accounts, ?_⟩, by rw [hstep, hnew]⟩
  · rw [hstep]
    rw [hcollected, helse] at hdraws
    exact hdraws
  · exact h.registers.keep hbook h.accounts.sited (List.prefix_refl _)

end Steps

/-- Between two moments of a walk some nodes were visited, and their sites were drawn, together
with some further ones. -/
def Grown (flow : Flow) (further : List Site) (walk later : Walk) (plan grown : Plan) : Prop :=
  ∃ ids new, later.visited = walk.visited ++ ids ∧ grown.sites = plan.sites ++ new ∧
    new.Perm (further ++ ids.flatMap (sitesOf flow))

section Grown

variable {flow : Flow} {further others : List Site} {walk later last : Walk}
  {plan grown final : Plan}

theorem grown_self (h : later.visited = walk.visited) (hsites : grown.sites = plan.sites) :
    Grown flow [] walk later plan grown :=
  ⟨[], [], by simpa using h, by simpa using hsites, .nil⟩

theorem Grown.trans (h : Grown flow further walk later plan grown)
    (hlast : Grown flow others later last grown final) :
    Grown flow (further ++ others) walk last plan final := by
  obtain ⟨ids, new, hvisited, hsites, hperm⟩ := h
  obtain ⟨ids', new', hvisited', hsites', hperm'⟩ := hlast
  refine ⟨ids ++ ids', new ++ new', ?_, ?_, ?_⟩
  · rw [hvisited', hvisited, List.append_assoc]
  · rw [hsites', hsites, List.append_assoc]
  · refine (hperm.append hperm').trans ?_
    rw [List.flatMap_append, List.append_assoc, List.append_assoc]
    apply List.Perm.append_left
    rw [← List.append_assoc, ← List.append_assoc]
    exact List.perm_append_comm.append_right _

theorem grown_add (flow : Flow) (walk : Walk) {site : Site} {gate : Option Loose} (h : later.visited = walk.visited) :
    Grown flow [site] walk later plan (plan.add site gate) :=
  ⟨[], [site], by simpa using h, rfl, by simp⟩

theorem Grown.visit {id : Text} {gate : Option Loose}
    (h : Grown flow others later last (plan.add (siteOf flow id) gate) final)
    (hvisited : later.visited = walk.visited ++ [id])
    (hsites : (siteOf flow id :: others).Perm (sitesOf flow id)) :
    Grown flow [] walk last plan final := by
  obtain ⟨ids, new, hids, hnew, hperm⟩ := h
  refine ⟨id :: ids, siteOf flow id :: new, ?_, ?_, ?_⟩
  · rw [hids, hvisited, List.append_assoc, List.singleton_append]
  · rw [hnew, Plan.sites_add, List.append_assoc, List.singleton_append]
  · rw [List.nil_append, List.flatMap_cons]
    exact (hperm.cons (siteOf flow id)).trans (hsites.append_right _)

theorem Grown.visited_subset (h : Grown flow further walk later plan grown) :
    walk.visited ⊆ later.visited := by
  obtain ⟨ids, -, hvisited, -⟩ := h
  rw [hvisited]
  exact List.subset_append_left _ _

theorem Grown.sites_extends (h : Grown flow further walk later plan grown) :
    plan.sites <+: grown.sites := by
  obtain ⟨-, new, -, hsites, -⟩ := h
  rw [hsites]
  exact List.prefix_append _ _

theorem Grown.length_le (h : Grown flow further walk later plan grown) :
    walk.visited.length ≤ later.visited.length := by
  obtain ⟨ids, -, hvisited, -⟩ := h
  simp [hvisited]

theorem Grown.not_mem (h : Grown flow [] walk later plan grown) (honce : later.visited.Nodup)
    {site : Site} {id : Text} (howner : site.owner? = some id) (hid : id ∈ walk.visited)
    (hsite : site ∉ plan.sites) : site ∉ grown.sites := by
  obtain ⟨ids, new, hvisited, hsites, hperm⟩ := h
  rw [hsites, List.mem_append, not_or]
  refine ⟨hsite, fun hnew => ?_⟩
  rw [hperm.mem_iff, List.nil_append, List.mem_flatMap] at hnew
  obtain ⟨other, hother, hmem⟩ := hnew
  obtain rfl : other = id :=
    Option.some.inj ((owner_of_mem_sitesOf hmem).symm.trans howner)
  rw [hvisited] at honce
  exact (List.nodup_append.1 honce).2.2 other hid other hother rfl

end Grown

end Flowchart.Activity
