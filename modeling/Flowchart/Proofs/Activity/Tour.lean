import Flowchart.Proofs.Activity.Tracing
import Flowchart.Proofs.Activity.Visits
import Mathlib.Data.List.Perm.Subperm

/-!
# Complete walks

A walk from a node draws all that the walk visits and leaves nothing owed; the walk through a whole
flow draws every site with exactly its edges.
-/

namespace Flowchart.Activity

def walkBranch (flow : Flow) (graph : Graph) (fuel depth : Nat) (node : Node) (count : Nat)
    (walk : Walk) (entry : (Text × Json) × Nat) : Walk :=
  walkFrom flow graph fuel (depth + 1) entry.1.1
    (walk.write depth (branchOpening node count entry.2 entry.1.2))

/-- What a walk from a node has done once it is back: the node is visited, all that was visited is
drawn depth first, and the branch that led here is taken. -/
def Walked (flow : Flow) (targets : List Text) (id : Text) (walk : Walk) (plan : Plan)
    (debts : Debts) (later : Walk) : Prop :=
  ∃ grown, Traces flow targets later grown none debts ∧ Grown flow [] walk later plan grown ∧
    id ∈ later.visited ∧
    (later.machine targets).frames = (walk.machine targets).frames.modifyHead Frame.take ∧
    Visits (Site.next flow) [siteOf flow id] plan.sites grown.sites

/-- Walks with so much fuel come back. -/
def Walks (flow : Flow) (graph : Graph) (targets : List Text) (fuel : Nat) : Prop :=
  ∀ (depth : Nat) (id : Text) (walk : Walk) (plan : Plan) (gate : Option Loose) (debts : Debts),
    Traces flow targets walk plan gate (debts.await gate (siteOf flow id)) →
    id ∈ flow.nodeIds → flow.nodes.length < fuel + walk.visited.length →
    (walkFrom flow graph fuel depth id walk).targets ⊆ targets →
    Walked flow targets id walk plan debts (walkFrom flow graph fuel depth id walk)

section Ladder

variable {flow : Flow} {graph : Graph} {targets : List Text} {fuel depth : Nat} {node : Node}

theorem subset_targets_foldl_walkBranch (flow : Flow) (graph : Graph)
    (fuel depth : Nat) (node : Node) (count : Nat) (entries : List ((Text × Json) × Nat))
    (walk : Walk) :
    walk.targets ⊆
      (entries.foldl (walkBranch flow graph fuel depth node count) walk).targets := by
  induction entries generalizing walk with
  | nil => exact List.Subset.refl _
  | cons entry entries ih =>
      refine List.Subset.trans ?_ (ih _)
      exact subset_targets_walkFrom flow graph fuel (depth + 1) entry.1.1
        (walk.write depth (branchOpening node count entry.2 entry.1.2))

def wayOf (branch : Text × Json) : Text × Option Text := (branch.1, branch.2.name?)

theorem laddered_take {m n : Machine} {rung : Vertex} {base : List Frame}
    (h : Laddered m rung base) (hframes : n.frames = m.frames.modifyHead Frame.take) :
    Laddered n rung base := by
  obtain ⟨top, below, heq, hdecision, helse, hcollected, hbase⟩ := h
  refine ⟨top.take, below, by rw [hframes, heq]; rfl, hdecision, helse, ?_, ?_⟩
  · rw [Machine.collected_take, hcollected]
  · rw [Machine.splitChain_take, hbase]

/-- A walk on a ladder between two of its branches: the rungs so far are drawn, and the last of them
owes what is past it. -/
structure Climbs (flow : Flow) (targets : List Text) (id : Text) (rung : Nat)
    (branches : List (Text × Json)) (base : List Frame) (walk : Walk) (plan : Plan)
    (debts : Debts) : Prop where
  traces : Traces flow targets walk plan none
    (debts.owe (.decision id rung) (pastRung flow id (rung + 1) (branches.map wayOf)))
  ways : (waysFrom flow id).drop (rung + 1) = branches.map wayOf
  visited : id ∈ walk.visited
  drawn : .decision id rung ∈ plan.sites
  above : ∀ above, rung < above → .decision id above ∉ plan.sites
  ladder : Laddered (walk.machine targets) (plan.vertex (.decision id rung)) base

/-- What a walk on a ladder has done once the ladder is closed. -/
def Climbed (flow : Flow) (targets : List Text) (id : Text) (rung : Nat)
    (branches : List (Text × Json)) (base : List Frame) (walk : Walk) (plan : Plan)
    (debts : Debts) (later : Walk) : Prop :=
  ∃ grown, Traces flow targets later grown none debts ∧
    Grown flow ((List.range' (rung + 1) (branches.length - 1)).map (.decision id)) walk later plan
      grown ∧
    (later.machine targets).frames = base ∧
    Visits (Site.next flow) ((pastRung flow id (rung + 1) (branches.map wayOf)).map Prod.fst)
      plan.sites grown.sites

section Branch

variable {id : Text} {rung : Nat} {base : List Frame} {walk : Walk} {plan : Plan} {debts : Debts}
  {branch : Text × Json} (ih : Walks flow graph targets fuel)
  (hopen : branch.1 ∈ flow.nodeIds) (hfuel : flow.nodes.length < fuel + walk.visited.length)

include ih hopen hfuel

theorem Climbs.last (h : Climbs flow targets id rung [branch] base walk plan debts)
    (htaken : ∀ other others, base = other :: others → other.branchTaken = true) {walked : Walk}
    (hwalked : walked = walkFrom flow graph fuel (depth + 1) branch.1
      (walk.write depth (.otherwise branch.2))) (htargets : walked.targets ⊆ targets) :
    Climbed flow targets id rung [branch] base walk plan debts (walked.write depth .endIf) := by
  subst hwalked
  obtain ⟨hopened, top, below, hframes, helse, hcollected, hbase⟩ :=
    h.traces.otherwise depth branch.2 h.drawn h.ladder
  change Traces flow targets _ plan _ (debts.owe _ [(siteOf flow branch.1, _)]) at hopened
  rw [Debts.owe_cons, Debts.owe_nil] at hopened
  obtain ⟨grown, htraces, hgrown, -, htop, hvisits⟩ :=
    ih (depth + 1) branch.1 _ plan _ debts hopened hopen hfuel htargets
  rw [hframes] at htop
  obtain ⟨hend, hbaseFrames⟩ := htraces.endIf depth htop helse
    ((Machine.collected_take top below).trans hcollected)
    ((Machine.splitChain_take top below).trans hbase) htaken
  exact ⟨grown, hend, hgrown, hbaseFrames, hvisits⟩

theorem Climbs.next {next : Text × Json} {rest : List (Text × Json)}
    (h : Climbs flow targets id rung (branch :: next :: rest) base walk plan debts) {text : Text}
    (htitle : (Site.decision id (rung + 1)).title flow = text) {walked : Walk}
    (hwalked : walked = walkFrom flow graph fuel (depth + 1) branch.1
      (walk.write depth (.elseIf (.str text) branch.2))) (htargets : walked.targets ⊆ targets) :
    ∃ grown, Climbs flow targets id (rung + 1) (next :: rest) base walked grown debts ∧
      walk.visited.length ≤ walked.visited.length ∧
      ∀ later, Climbed flow targets id (rung + 1) (next :: rest) base walked grown debts later →
        Climbed flow targets id rung (branch :: next :: rest) base walk plan debts later := by
  subst hwalked
  have hnew := h.above _ (Nat.lt_succ_self rung)
  obtain ⟨hopened, hladder⟩ := h.traces.elseIf depth branch.2 h.visited h.drawn hnew htitle h.ladder
  -- The branch pays for the first edge of the rung; the one past it is owed to the next rung.
  have hedges : (Site.decision id (rung + 1)).edges flow =
      (siteOf flow branch.1, branch.2.name?) ::
        pastRung flow id (rung + 1 + 1) ((next :: rest).map wayOf) := by
    rw [Site.edges, h.ways]
    rfl
  rw [hedges, Debts.owe_cons] at hopened
  obtain ⟨grown, htraces, hgrown, -, htop, hvisits⟩ :=
    ih (depth + 1) branch.1 _ _ _ _ hopened hopen hfuel htargets
  have hvisited : id ∈ (walk.write depth (.elseIf (.str text) branch.2)).visited := h.visited
  have hsites := hgrown.sites_extends
  have hmem : Site.decision id (rung + 1) ∈ (plan.add (.decision id (rung + 1))
      (some ⟨.decision id rung, some "no".toList⟩)).sites := by simp
  have hladdered := laddered_take hladder htop
  rw [← Plan.vertex_of_prefix hsites hmem] at hladdered
  refine ⟨grown, ?_, by simpa using hgrown.length_le, ?_⟩
  · refine {
      traces := htraces
      ways := by rw [← List.drop_drop, h.ways]; rfl
      visited := hgrown.visited_subset hvisited
      drawn := hsites.subset hmem
      above := fun above hlt => hgrown.not_mem htraces.accounts.once rfl hvisited ?_
      ladder := hladdered }
    have hne : above ≠ rung + 1 := by omega
    simpa [hne] using h.above above (by omega)
  · rintro later ⟨final, hfinal, hfinalGrown, hbase, hrest⟩
    refine ⟨final, hfinal, ?_, hbase, .root hnew ?_⟩
    · have hall := ((grown_add flow walk rfl).trans hgrown).trans hfinalGrown
      simpa [List.range'_succ] using hall
    · rw [Site.next, hedges]
      exact hvisits.append hrest

end Branch

/-- From a rung on, the branches that are left draw the rungs above and all that they lead to. -/
theorem Walks.ladder (ih : Walks flow graph targets fuel) {id : Text} {text : Text}
    (htitle : ∀ rung, (Site.decision id rung).title flow = text)
    (hquestion : question node = .str text) {branches : List (Text × Json)} (hne : branches ≠ [])
    (hopen : ∀ branch ∈ branches, branch.1 ∈ flow.nodeIds) {rung count : Nat}
    (hcount : rung + 1 + branches.length = count) {base : List Frame} {walk : Walk} {plan : Plan}
    {debts : Debts} (h : Climbs flow targets id rung branches base walk plan debts)
    (htaken : ∀ other others, base = other :: others → other.branchTaken = true)
    (hfuel : flow.nodes.length < fuel + walk.visited.length)
    {walked : Walk} (hwalked : walked = (branches.zipIdx (rung + 1)).foldl
      (walkBranch flow graph fuel depth node count) walk) (htargets : walked.targets ⊆ targets) :
    Climbed flow targets id rung branches base walk plan debts (walked.write depth .endIf) := by
  induction branches generalizing rung walk plan with
  | nil => contradiction
  | cons branch branches ihBranches =>
      have hbranch := hopen branch List.mem_cons_self
      -- An `else` opens the last branch, an `elseif` every one before it.
      cases branches with
      | nil =>
          have hopening : branchOpening node count (rung + 1) branch.2 = .otherwise branch.2 := by
            simp [branchOpening, ← hcount]
          simp only [List.zipIdx_cons, List.zipIdx_nil, List.foldl_cons, List.foldl_nil,
            walkBranch, hopening] at hwalked
          exact h.last ih hbranch hfuel htaken hwalked htargets
      | cons next rest =>
          have hopening : branchOpening node count (rung + 1) branch.2 =
              .elseIf (.str text) branch.2 := by
            simp only [List.length_cons] at hcount
            have hlast : (rung + 1 + 1 == count) = false := by
              rw [beq_eq_false_iff_ne]
              omega
            simp [branchOpening, hlast, hquestion]
          rw [List.zipIdx_cons, List.foldl_cons, walkBranch, hopening] at hwalked
          obtain ⟨grown, hclimbs, hlonger, hclimbed⟩ := h.next ih hbranch hfuel (htitle (rung + 1))
            rfl (List.Subset.trans (subset_targets_foldl_walkBranch flow graph fuel depth node count
              ((next :: rest).zipIdx (rung + 1 + 1)) _) (hwalked ▸ htargets))
          refine hclimbed _ (ihBranches (by simp)
            (fun other hother => hopen other (List.mem_cons_of_mem _ hother)) ?_ hclimbs ?_ hwalked)
          · simp only [List.length_cons] at hcount ⊢
            omega
          · omega

end Ladder

/-! ## One node after the other -/

section Node

variable {flow : Flow} {graph : Graph} {fuel depth : Nat} {id : Text} {walk : Walk} {node : Node}

theorem walkFrom_of_visited (h : id ∈ walk.visited) :
    walkFrom flow graph (fuel + 1) depth id walk = walk.jump depth id := by
  rw [walkFrom, if_pos (List.contains_iff_mem.2 h)]

variable (hflow : PlainFlow flow) (hnew : id ∉ walk.visited)
  (hlast : flow.lastNode? id = some node) (hnode : node ∈ flow.nodes)

include hnew hlast

theorem walkFrom_of_new : walkFrom flow graph (fuel + 1) depth id walk =
    match openBranches flow node with
    | [] =>
      (if node.title == .str "End".toList then walk.visit depth id
        else (walk.visit depth id).write depth (.activity node.caption)).write depth .stop
    | [branch] =>
      walkFrom flow graph fuel depth branch.1
        (if isStartMarker graph node then walk.visit depth id
        else (walk.visit depth id).write depth (.activity node.caption))
    | branches =>
      (branches.zipIdx.foldl (walkBranch flow graph fuel depth node branches.length)
        (walk.visit depth id)).write depth .endIf := by
  rw [walkFrom, if_neg (by simpa using hnew), hlast]
  rfl

include hflow hnode

theorem walkFrom_of_none (h : openBranches flow node = []) :
    walkFrom flow graph (fuel + 1) depth id walk =
      ((walk.visit depth id).write depth (.activity node.title)).write depth .stop := by
  obtain ⟨hcaption, -⟩ := (hflow.nodes node hnode).said
  obtain ⟨-, hend⟩ := (hflow.nodes node hnode).unmarked graph
  rw [walkFrom_of_new hnew hlast, h, hcaption]
  simp only [hend, Bool.false_eq_true, if_false]

theorem walkFrom_of_one {branch : Text × Json} (h : openBranches flow node = [branch]) :
    walkFrom flow graph (fuel + 1) depth id walk =
      walkFrom flow graph fuel depth branch.1
        ((walk.visit depth id).write depth (.activity node.title)) := by
  obtain ⟨hcaption, -⟩ := (hflow.nodes node hnode).said
  obtain ⟨hstart, -⟩ := (hflow.nodes node hnode).unmarked graph
  rw [walkFrom_of_new hnew hlast, h, hcaption]
  simp only [hstart, Bool.false_eq_true, if_false]

theorem walkFrom_of_many {first second : Text × Json} {rest : List (Text × Json)}
    (h : openBranches flow node = first :: second :: rest) :
    walkFrom flow graph (fuel + 1) depth id walk =
      (((second :: rest).zipIdx 1).foldl
        (walkBranch flow graph fuel depth node (rest.length + 2))
        (walkFrom flow graph fuel (depth + 1) first.1
          ((walk.visit depth id).write depth (.ifThen node.title first.2)))).write depth .endIf := by
  obtain ⟨-, hquestion⟩ := (hflow.nodes node hnode).said
  rw [walkFrom_of_new hnew hlast, h]
  simp only [List.zipIdx_cons, List.foldl_cons, List.length_cons]
  simp [walkBranch, branchOpening, hquestion]

end Node

theorem modifyHead_take_take (frames : List Frame) :
    (frames.modifyHead Frame.take).modifyHead Frame.take = frames.modifyHead Frame.take := by
  cases frames <;> rfl

theorem length_visited_le {flow : Flow} {visited : List Text} {plan : Plan} {debts : Debts}
    (h : Accounts flow visited plan debts) : visited.length ≤ flow.nodes.length := by
  have hsub : visited.Subperm flow.nodeIds := h.once.subperm h.known
  simpa [Flow.nodeIds] using hsub.length_le

section Visit

variable {flow : Flow} (hflow : PlainFlow flow) {graph : Graph} {targets : List Text}
  {fuel depth : Nat} {id text : Text} {walk : Walk} {plan : Plan} {gate : Option Loose}
  {debts : Debts}
  (h : Traces flow targets walk plan gate (debts.await gate (siteOf flow id)))
  (hid : id ∈ flow.nodeIds) (hnew : id ∉ walk.visited)
  (hsaid : ∀ site : Site, site.owner? = some id → site ≠ .finish id → site.title flow = text)

include hflow h hid hnew hsaid

theorem Traces.leaf (hspoken : text ≠ []) (hways : waysFrom flow id = []) :
    Walked flow targets id walk plan debts
      (((walk.visit depth id).write depth (.activity (.str text))).write depth .stop) := by
  have hsite : siteOf flow id = .activity id := by simp [siteOf, hways]
  obtain ⟨hactivity, hframes⟩ := h.activity depth hflow hid hnew hsite
    (hsaid _ owner_siteOf (by simp [hsite])) hspoken
  have hedges : (siteOf flow id).edges flow = [(.finish id, none)] := by
    simp [hsite, Site.edges, hways]
  have hfinish : Site.finish id ∉ (plan.add (siteOf flow id) gate).sites := by
    have hold : Site.finish id ∉ plan.sites :=
      fun hmem => hnew (h.accounts.owned _ hmem id rfl)
    simpa [hsite] using hold
  rw [hedges, Debts.owe_cons, Debts.owe_nil] at hactivity
  obtain ⟨hstop, hframes'⟩ := hactivity.stop depth (by simp) hfinish
  refine ⟨_, hstop, (grown_add flow _ rfl).visit rfl ?_, by simp, ?_, .root ?_ ?_⟩
  · simp [hsite, sitesOf, hways]
  · rw [hframes', hframes, modifyHead_take_take]
  · exact site_not_mem_of_not_visited h.accounts hnew
  · rw [Site.next, hedges]
    exact .root hfinish (.done _)

variable (ih : Walks flow graph targets fuel)
  (hfuel : flow.nodes.length < fuel + (walk.visited ++ [id]).length)

include ih hfuel

variable (depth) in
theorem Traces.pass (hspoken : text ≠ []) {way : Text × Option Text}
    (hways : waysFrom flow id = [way]) (hopen : way.1 ∈ flow.nodeIds) {later : Walk}
    (hlater : later = walkFrom flow graph fuel depth way.1
      ((walk.visit depth id).write depth (.activity (.str text))))
    (htargets : later.targets ⊆ targets) :
    Walked flow targets id walk plan debts later := by
  subst hlater
  have hsite : siteOf flow id = .activity id := by simp [siteOf, hways]
  obtain ⟨hactivity, hframes⟩ := h.activity depth hflow hid hnew hsite
    (hsaid _ owner_siteOf (by simp [hsite])) hspoken
  have hedges : (siteOf flow id).edges flow = [(siteOf flow way.1, none)] := by
    simp [hsite, Site.edges, hways]
  rw [hedges, Debts.owe_cons, Debts.owe_nil] at hactivity
  obtain ⟨grown, htraces, hgrown, -, hframes', hvisits⟩ :=
    ih depth way.1 _ _ _ _ hactivity hopen hfuel htargets
  refine ⟨grown, htraces, hgrown.visit rfl ?_, hgrown.visited_subset (by simp), ?_, .root ?_ ?_⟩
  · simp [hsite, sitesOf, hways]
  · rw [hframes', hframes, modifyHead_take_take]
  · exact site_not_mem_of_not_visited h.accounts hnew
  · rw [Site.next, hedges]
    exact hvisits

variable {first second : Text × Json} {rest : List (Text × Json)}
  (hways : waysFrom flow id = (first :: second :: rest).map wayOf)

include hways

theorem Traces.firstRung (hopen : first.1 ∈ flow.nodeIds) {walked : Walk}
    (hwalked : walked = walkFrom flow graph fuel (depth + 1) first.1
      ((walk.visit depth id).write depth (.ifThen (.str text) first.2)))
    (htargets : walked.targets ⊆ targets) :
    ∃ grown, Climbs flow targets id 0 (second :: rest)
        ((walk.machine targets).frames.modifyHead Frame.take) walked grown debts ∧
      (walk.visited ++ [id]).length ≤ walked.visited.length ∧
      ∀ later, Climbed flow targets id 0 (second :: rest)
          ((walk.machine targets).frames.modifyHead Frame.take) walked grown debts later →
        Walked flow targets id walk plan debts later := by
  subst hwalked
  have hsite : siteOf flow id = .decision id 0 := by simp [siteOf, hways]
  obtain ⟨hopened, hframes⟩ := h.ifThen depth hflow hid hnew hsite
    (hsaid _ owner_siteOf (by simp [hsite])) first.2
  have hedges : (siteOf flow id).edges flow = (siteOf flow first.1, first.2.name?) ::
      pastRung flow id (0 + 1) ((second :: rest).map wayOf) := by
    rw [hsite, Site.edges, hways]
    rfl
  rw [hedges, Debts.owe_cons] at hopened
  obtain ⟨grown, htraces, hgrown, -, hframes', hvisits⟩ :=
    ih (depth + 1) first.1 _ _ _ _ hopened hopen hfuel htargets
  have hmem : siteOf flow id ∈ (plan.add (siteOf flow id) gate).sites := by simp
  have hidMem : id ∈ walk.visited ++ [id] := by simp
  have hladder : Laddered (((walk.visit depth id).write depth
      (.ifThen (.str text) first.2)).machine targets)
      ((plan.add (siteOf flow id) gate).vertex (siteOf flow id))
      ((walk.machine targets).frames.modifyHead Frame.take) :=
    ⟨_, _, hframes, rfl, rfl, by simp [Machine.collected_cons], by simp [Machine.splitChain]⟩
  have hladder' := laddered_take hladder hframes'
  rw [← Plan.vertex_of_prefix hgrown.sites_extends hmem] at hladder'
  have hrung := hgrown.sites_extends.subset hmem
  -- The higher rungs belong to this node alone, which was not visited before.
  have habove : ∀ above, 0 < above → Site.decision id above ∉ grown.sites := by
    intro above habove
    refine hgrown.not_mem htraces.accounts.once rfl hidMem ?_
    have hold : Site.decision id above ∉ plan.sites :=
      fun hmem => hnew (h.accounts.owned _ hmem id rfl)
    simpa [hsite, Nat.pos_iff_ne_zero.1 habove] using hold
  rw [hsite] at htraces hladder' hrung
  refine ⟨grown, ?_, by simpa using hgrown.length_le, ?_⟩
  · exact {
      traces := htraces
      ways := by rw [hways]; rfl
      visited := hgrown.visited_subset hidMem
      drawn := hrung
      above := habove
      ladder := hladder' }
  · rintro later ⟨final, hfinal, hfinalGrown, hbase, hrest⟩
    have hall := hgrown.trans hfinalGrown
    refine ⟨final, hfinal, hall.visit rfl ?_, hall.visited_subset hidMem, hbase, .root ?_ ?_⟩
    · rw [sitesOf_of_rungs hways (by simp), hsite]
      simp [List.range_succ_eq_map, List.range'_eq_map_range, Function.comp_def, Nat.add_comm]
    · exact site_not_mem_of_not_visited h.accounts hnew
    · rw [Site.next, hedges]
      exact hvisits.append hrest

theorem Traces.climb {node : Node} (hquestion : question node = .str text)
    (hopen : ∀ branch ∈ first :: second :: rest, branch.1 ∈ flow.nodeIds) {later : Walk}
    (hlater : later = ((second :: rest).zipIdx 1).foldl
      (walkBranch flow graph fuel depth node (rest.length + 2))
      (walkFrom flow graph fuel (depth + 1) first.1
        ((walk.visit depth id).write depth (.ifThen (.str text) first.2))))
    (htargets : later.targets ⊆ targets) :
    Walked flow targets id walk plan debts (later.write depth .endIf) := by
  obtain ⟨hfirst, hothers⟩ := List.forall_mem_cons.1 hopen
  obtain ⟨grown, hclimbs, hlonger, hwalked⟩ :=
    h.firstRung hflow hid hnew hsaid ih hfuel hways hfirst rfl
      (List.Subset.trans (subset_targets_foldl_walkBranch flow graph fuel depth node
        (rest.length + 2) ((second :: rest).zipIdx 1) _) (hlater ▸ htargets))
  exact hwalked _ (Walks.ladder ih (fun rung => hsaid _ rfl (by simp)) hquestion (by simp)
    hothers (by simp only [List.length_cons]; omega) hclimbs
    (fun _ _ heq => Machine.taken_of_modifyHead heq) (by omega)
    hlater htargets)

end Visit

/-- Every walk through a plain flow comes back with all it visited drawn. -/
theorem walks {flow : Flow} (hflow : PlainFlow flow) (graph : Graph) (targets : List Text)
    (fuel : Nat) : Walks flow graph targets fuel := by
  -- A visit takes one unit of fuel and adds a node, so fuel for all nodes is never used up.
  induction fuel with
  | zero =>
      intro depth id walk plan gate debts h _ hfuel
      have := length_visited_le h.accounts
      omega
  | succ fuel ih =>
      intro depth id walk plan gate debts h hid hfuel htargets
      by_cases hvisited : id ∈ walk.visited
      · rw [walkFrom_of_visited hvisited] at htargets ⊢
        obtain ⟨htraces, hframes⟩ :=
          h.jump depth hvisited (htargets Walk.mem_targets_jump)
        exact ⟨_, htraces, grown_self (by simp) rfl, by simpa using hvisited, hframes,
          .known (h.accounts.sited id hvisited) (.done _)⟩
      · obtain ⟨node, hnode, hlast, -⟩ := Flow.exists_lastNode hid
        obtain ⟨text, htitle, hplain, -⟩ := (hflow.nodes node hnode).titled
        obtain ⟨-, hquestion⟩ := (hflow.nodes node hnode).said
        have hways : waysFrom flow id = (openBranches flow node).map wayOf :=
          hflow.waysFrom_eq hlast hnode
        have hopen : ∀ branch ∈ openBranches flow node, branch.1 ∈ flow.nodeIds :=
          fun branch hbranch => (hflow.mem_openBranches hnode hbranch).1
        have hsaid : ∀ site : Site, site.owner? = some id → site ≠ .finish id →
            site.title flow = text := by
          intro site howner hne
          cases site <;> simp_all [Site.owner?, Site.title, Json.text?]
        have hfuel' : flow.nodes.length < fuel + (walk.visited ++ [id]).length := by
          rw [List.length_append, List.length_singleton]
          omega
        rw [htitle] at hquestion
        cases hbranches : openBranches flow node with
        | nil =>
            rw [walkFrom_of_none hflow hvisited hlast hnode hbranches, htitle]
            exact h.leaf hflow hid hvisited hsaid hplain.nonempty (by rw [hways, hbranches]; rfl)
        | cons first rest =>
            rw [hbranches] at hways hopen
            cases rest with
            | nil =>
                refine h.pass hflow depth hid hvisited hsaid ih hfuel' hplain.nonempty hways
                  (hopen first List.mem_cons_self) ?_ htargets
                rw [walkFrom_of_one hflow hvisited hlast hnode hbranches, htitle]
                rfl
            | cons second rest =>
                rw [walkFrom_of_many hflow hvisited hlast hnode hbranches, htitle] at htargets ⊢
                exact h.climb hflow hid hvisited hsaid ih hfuel' hways hquestion hopen rfl htargets

/-! ## The walk through a whole flow -/

def walkNew (flow : Flow) (graph : Graph) (walk : Walk) (id : Text) : Walk :=
  if walk.visited.contains id then walk
  else walkFrom flow graph (flow.nodes.length + 1) 0 id walk

theorem walkNew_of_visited {flow : Flow} {graph : Graph} {walk : Walk} {id : Text}
    (h : id ∈ walk.visited) : walkNew flow graph walk id = walk :=
  if_pos (List.contains_iff_mem.2 h)

theorem walkNew_of_new {flow : Flow} {graph : Graph} {walk : Walk} {id : Text}
    (h : id ∉ walk.visited) :
    walkNew flow graph walk id = walkFrom flow graph (flow.nodes.length + 1) 0 id walk :=
  if_neg (by simpa using h)

theorem subset_targets_foldl_walkNew (flow : Flow) (graph : Graph) (ids : List Text)
    (walk : Walk) :
    walk.targets ⊆ (ids.foldl (walkNew flow graph) walk).targets := by
  induction ids generalizing walk with
  | nil => exact List.Subset.refl _
  | cons id ids ih =>
      refine List.Subset.trans ?_ (ih _)
      unfold walkNew
      split
      · exact List.Subset.refl _
      · exact subset_targets_walkFrom flow graph _ 0 id walk

section Whole

variable {flow : Flow} (hflow : PlainFlow flow) (graph : Graph)

include hflow

theorem walkNew_traces {targets ids : List Text} (hids : ∀ id ∈ ids, id ∈ flow.nodeIds)
    {walk : Walk} {plan : Plan} {debts : Debts} (h : Traces flow targets walk plan none debts)
    (hframes : (walk.machine targets).frames = [])
    (htargets : (ids.foldl (walkNew flow graph) walk).targets ⊆ targets) :
    ∃ grown, Traces flow targets (ids.foldl (walkNew flow graph) walk) grown none debts ∧
      Grown flow [] walk (ids.foldl (walkNew flow graph) walk) plan grown ∧
      ((ids.foldl (walkNew flow graph) walk).machine targets).frames = [] ∧
      (∀ id ∈ ids, id ∈ (ids.foldl (walkNew flow graph) walk).visited) ∧
      Visits (Site.next flow) (ids.map (siteOf flow)) plan.sites grown.sites := by
  induction ids generalizing walk plan with
  | nil => exact ⟨plan, h, grown_self rfl rfl, hframes, by simp, .done _⟩
  | cons id ids ih =>
      rw [List.foldl_cons] at htargets ⊢
      have hrest := fun other hother => hids other (List.mem_cons_of_mem _ hother)
      by_cases hvisited : id ∈ walk.visited
      · rw [walkNew_of_visited hvisited] at htargets ⊢
        obtain ⟨grown, htraces, hgrown, hend, hall, hvisits⟩ := ih hrest h hframes htargets
        refine ⟨grown, htraces, hgrown, hend, ?_, .known (h.accounts.sited id hvisited) hvisits⟩
        intro other hother
        rcases List.mem_cons.1 hother with rfl | hother
        · exact hgrown.visited_subset hvisited
        · exact hall other hother
      -- A new id begins a run of its own, with no frame open.
      · rw [walkNew_of_new hvisited] at htargets ⊢
        obtain ⟨middle, hmiddle, hfirst, hid, htop, hroot⟩ :=
          walks hflow graph targets _ 0 id walk plan none debts h (hids id List.mem_cons_self)
            (by omega)
            (List.Subset.trans (subset_targets_foldl_walkNew flow graph ids _) htargets)
        rw [hframes] at htop
        obtain ⟨grown, htraces, hgrown, hend, hall, hvisits⟩ := ih hrest hmiddle htop htargets
        refine ⟨grown, htraces, hfirst.trans hgrown, hend, ?_, hroot.append hvisits⟩
        intro other hother
        rcases List.mem_cons.1 hother with rfl | hother
        · exact hgrown.visited_subset hid
        · exact hall other hother

end Whole

theorem walkAll_eq {flow : Flow} (h : flow.start ∈ flow.nodeIds) (graph : Graph) :
    walkAll flow graph = flow.nodeIds.foldl (walkNew flow graph)
      (walkFrom flow graph (flow.nodes.length + 1) 0 flow.start (Walk.write {} 0 .start)) := by
  have hstart : flow.nodeIds.contains flow.start = true := List.contains_iff_mem.2 h
  unfold walkAll
  rw [hstart]
  rfl

theorem accounts_empty (flow : Flow) : Accounts flow [] {} fun _ => [] where
  closed := by simp [Plan.Closed]
  distinct := List.nodup_nil
  owned := by simp
  sited := by simp
  known := by simp
  once := List.nodup_nil
  balanced := by simp
  solvent := fun _ _ => rfl

theorem start_traces (flow : Flow) (targets : List Text) :
    Traces flow targets (Walk.write {} 0 .start) (({} : Plan).add .start none)
      (some ⟨.start, none⟩)
      (Debts.await (fun _ => []) (some ⟨.start, none⟩) (siteOf flow flow.start)) := by
  have hempty : Accounts flow [] {} (Debts.await (fun _ => []) none .start) := accounts_empty flow
  have haccounts := hempty.add (by simp) (by simp) [] (by simp) (by simp) (by simp [Site.owner?])
    (by simp)
  rw [Site.edges, Debts.owe_cons, Debts.owe_nil] at haccounts
  have hdraws : ((Walk.write {} 0 .start).machine targets).Draws _ _ :=
    Machine.draws_empty.advance .start "Start".toList
  exact ⟨hdraws, by simp, haccounts, ⟨by simp, fun _ _ _ => rfl, rfl, rfl, rfl⟩⟩

/-- The machine that runs all lines of a plain flow draws each of its sites with its edges, depth
first from the start and from every node in turn, and closes all conditions. -/
theorem walkAll_tours {flow : Flow} (hflow : PlainFlow flow) (graph : Graph) :
    ∃ plan, Traces flow (walkAll flow graph).targets (walkAll flow graph) plan none (fun _ => []) ∧
      plan.sites.Perm (sites flow) ∧
      Visits (Site.next flow) (.start :: flow.nodeIds.map (siteOf flow)) [] plan.sites ∧
      ((walkAll flow graph).machine (walkAll flow graph).targets).frames = [] := by
  rw [walkAll_eq hflow.started graph]
  generalize htargets : (flow.nodeIds.foldl (walkNew flow graph) _).targets = targets
  obtain ⟨first, hfirst, hgrown, -, htop, hroot⟩ :=
    walks hflow graph targets (flow.nodes.length + 1) 0 flow.start _ _ _ _
      (start_traces flow targets) hflow.started (by omega)
      (htargets ▸ subset_targets_foldl_walkNew flow graph flow.nodeIds _)
  obtain ⟨plan, htraces, hgrown', hframes, hall, hvisits⟩ :=
    walkNew_traces hflow graph (fun id hid => hid) hfirst htop (htargets ▸ List.Subset.refl _)
  refine ⟨plan, htraces, ?_, ?_, hframes⟩
  · obtain ⟨ids, new, hvisited, hsites, hperm⟩ := hgrown.trans hgrown'
    have honce := htraces.accounts.once
    have hknown := htraces.accounts.known
    rw [hvisited] at honce hknown hall
    have hids : ids.Perm flow.nodeIds :=
      (List.perm_ext_iff_of_nodup honce hflow.distinct).2 fun id => ⟨hknown id, hall id⟩
    rw [hsites]
    exact (hperm.trans (hids.flatMap_right _)).cons .start
  · exact .new List.not_mem_nil (hroot.append hvisits)

theorem walkAll_traces {flow : Flow} (hflow : PlainFlow flow) (graph : Graph) :
    ∃ plan, Traces flow (walkAll flow graph).targets (walkAll flow graph) plan none (fun _ => []) ∧
      plan.sites.Perm (sites flow) ∧ plan.sites.head? = some .start ∧
      ((walkAll flow graph).machine (walkAll flow graph).targets).frames = [] := by
  obtain ⟨plan, htraces, hsites, hvisits, hframes⟩ := walkAll_tours hflow graph
  exact ⟨plan, htraces, hsites, hvisits.head?_eq, hframes⟩

end Flowchart.Activity
