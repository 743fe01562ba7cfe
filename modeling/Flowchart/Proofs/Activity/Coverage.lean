import Flowchart.Proofs.Activity.LabelNames
import Flowchart.Proofs.Activity.Tour

/-!
# Coverage

A walk goes to every node once, in a run from the start or in a run of its own.  Where the lines of
a node begin stands a statement that is its own: its activity, its condition, or a stop.  Only a
node that looks like the start of a diagram, with a single way on, is passed over, and it is so in
any run.
-/

namespace Flowchart.Activity

/-! ## Ways on -/

def openTargets (flow : Flow) (id : Text) : List Text :=
  ((flow.lastNode? id).map fun node => (openBranches flow node).map Prod.fst).getD []

def Leads (flow : Flow) (id other : Text) : Prop :=
  other ∈ flow.nodeIds ∧ ∃ node ∈ flow.nodes, node.id = id ∧
    ∃ outlet ∈ node.outlets, outlet.target = other

def Reaches (flow : Flow) : Text → Text → Prop := Relation.ReflTransGen (Leads flow)

theorem openTargets_of_lastNode {flow : Flow} {id : Text} {node : Node}
    (h : flow.lastNode? id = some node) :
    openTargets flow id = (openBranches flow node).map Prod.fst := by
  rw [openTargets, h]
  rfl

theorem mem_openBranches_targets {flow : Flow} {node : Node} {id : Text} :
    id ∈ (openBranches flow node).map Prod.fst ↔
      id ∈ flow.nodeIds ∧ ∃ outlet ∈ node.outlets, outlet.target = id := by
  rw [openBranches, List.map_map, ← node.map_fst_branches]
  simp only [List.mem_map, List.mem_filter, List.contains_iff_mem, Function.comp]
  constructor
  · rintro ⟨branch, ⟨hbranch, hopen⟩, rfl⟩
    exact ⟨hopen, branch.1, ⟨branch, hbranch, rfl⟩, rfl⟩
  · rintro ⟨hopen, -, ⟨branch, hbranch, rfl⟩, rfl⟩
    exact ⟨branch, ⟨hbranch, hopen⟩, rfl⟩

theorem openTargets_subset (flow : Flow) (id : Text) : openTargets flow id ⊆ flow.nodeIds := by
  intro other hother
  cases hlast : flow.lastNode? id with
  | none => simp [openTargets, hlast] at hother
  | some node =>
      rw [openTargets_of_lastNode hlast] at hother
      exact (mem_openBranches_targets.1 hother).1

theorem mem_openTargets_iff {flow : Flow} (h : flow.nodeIds.Nodup) {id other : Text} :
    other ∈ openTargets flow id ↔ Leads flow id other := by
  constructor
  · intro hother
    cases hlast : flow.lastNode? id with
    | none => simp [openTargets, hlast] at hother
    | some node =>
        rw [openTargets_of_lastNode hlast] at hother
        obtain ⟨hopen, houtlet⟩ := mem_openBranches_targets.1 hother
        have hid : node.id = id := by simpa using List.find?_some hlast
        exact ⟨hopen, node, Flow.mem_of_lastNode hlast, hid, houtlet⟩
  · rintro ⟨hopen, node, hnode, rfl, houtlet⟩
    rw [openTargets_of_lastNode (Flow.lastNode_eq h hnode)]
    exact mem_openBranches_targets.2 ⟨hopen, houtlet⟩

theorem reaches_eq {flow : Flow} (h : flow.nodeIds.Nodup) :
    Reaches flow = Relation.ReflTransGen fun id other => other ∈ openTargets flow id := by
  have hleads : Leads flow = fun id other => other ∈ openTargets flow id := by
    funext id other
    exact propext (mem_openTargets_iff h).symm
  rw [Reaches, hleads]

/-! ## What stands where the lines of a node begin -/

/-- A statement of a node's own. The stop is that of a node whose title says that it is an end. -/
inductive OwnPhrase (flow : Flow) (node : Node) : Phrase → Prop where
  | activity (h : (openBranches flow node).length ≤ 1) :
    OwnPhrase flow node (.activity node.caption)
  | stop (h : openBranches flow node = []) (hend : node.title = .str "End".toList) :
    OwnPhrase flow node .stop
  | condition {first second : Text × Json} {rest : List (Text × Json)}
    (h : openBranches flow node = first :: second :: rest) :
    OwnPhrase flow node (.ifThen (question node) first.2)

/-- A node with one way on that looks like the start of a diagram. -/
def PassedOver (flow : Flow) (node : Node) : Prop :=
  isStartMarker (Graph.ofFlow flow) node = true ∧ (openBranches flow node).length = 1

instance (flow : Flow) (node : Node) : Decidable (PassedOver flow node) :=
  inferInstanceAs (Decidable (_ ∧ _))

/-- The marks behind the anchor of a node: a statement of its own, or the next node where it is
passed over. -/
inductive Opens (flow : Flow) (node : Node) (depth : Nat) : List Mark → Prop where
  | own {phrase : Phrase} (h : OwnPhrase flow node phrase) (hkept : ¬ PassedOver flow node)
    (rest : List Mark) : Opens flow node depth (.line ⟨depth, phrase⟩ :: rest)
  | passed {id : Text} {next : Mark} (hpassed : PassedOver flow node)
    (hid : id ∈ (openBranches flow node).map Prod.fst)
    (hnext : next = .anchor depth id ∨ next = .line ⟨depth, .goto id⟩) (rest : List Mark) :
    Opens flow node depth (next :: rest)

theorem Opens.append {flow : Flow} {node : Node} {depth : Nat} {marks : List Mark}
    (h : Opens flow node depth marks) (more : List Mark) :
    Opens flow node depth (marks ++ more) := by
  cases h with
  | own h hkept rest => exact .own h hkept (rest ++ more)
  | passed hpassed hid hnext rest => exact .passed hpassed hid hnext (rest ++ more)

/-- Marks in which what stands at each anchor is as it should be. -/
inductive Recites (flow : Flow) : List Mark → Prop where
  | nil : Recites flow []
  | line (line : Line) {rest : List Mark} (h : Recites flow rest) :
    Recites flow (.line line :: rest)
  | anchor {depth : Nat} {id : Text} {node : Node} {rest : List Mark}
    (hlast : flow.lastNode? id = some node) (hopens : Opens flow node depth rest)
    (h : Recites flow rest) : Recites flow (.anchor depth id :: rest)

namespace Recites

variable {flow : Flow} {marks more : List Mark}

theorem append (h : Recites flow marks) (hmore : Recites flow more) :
    Recites flow (marks ++ more) := by
  induction h with
  | nil => exact hmore
  | line line _ ih => exact .line line ih
  | anchor hlast hopens _ ih => exact .anchor hlast (hopens.append more) ih

theorem opens (h : Recites flow marks) {id : Text} (hid : id ∈ marks.filterMap Mark.anchor?) :
    ∃ before depth node after, marks = before ++ .anchor depth id :: after ∧
      flow.lastNode? id = some node ∧ Opens flow node depth after := by
  induction h with
  | nil => cases hid
  | line line _ ih =>
      obtain ⟨before, depth, node, after, rfl, hopens⟩ := ih hid
      exact ⟨.line line :: before, depth, node, after, rfl, hopens⟩
  | @anchor depth other node rest hlast hopens _ ih =>
      rcases List.mem_cons.1 hid with rfl | hid
      · exact ⟨[], depth, node, rest, rfl, hlast, hopens⟩
      · obtain ⟨before, depth', node', after, rfl, hopens'⟩ := ih hid
        exact ⟨.anchor depth other :: before, depth', node', after, rfl, hopens'⟩

end Recites

/-! ## What a walk adds -/

/-- The nodes that were visited are nodes of the flow, each of them once. -/
structure Known (flow : Flow) (visited : List Text) : Prop where
  once : visited.Nodup
  nodes : visited ⊆ flow.nodeIds

namespace Known

variable {flow : Flow} {visited : List Text}

theorem length_le (h : Known flow visited) : visited.length ≤ flow.nodes.length := by
  simpa [Flow.nodeIds] using (h.once.subperm h.nodes).length_le

theorem snoc (h : Known flow visited) {id : Text} (hid : id ∈ flow.nodeIds)
    (hnew : id ∉ visited) : Known flow (visited ++ [id]) where
  once := by
    rw [← List.concat_eq_append]
    exact h.once.concat hnew
  nodes := List.append_subset.2 ⟨h.nodes, List.cons_subset.2 ⟨hid, List.nil_subset _⟩⟩

theorem visits {todo later : List Text} (h : Known flow visited) (htodo : todo ⊆ flow.nodeIds)
    (hvisits : Visits (openTargets flow) todo visited later) : Known flow later where
  once := hvisits.nodup h.once
  nodes := hvisits.subset htodo h.nodes (openTargets_subset flow)

end Known

/-- What a walk adds on its way through what is to be done. -/
structure Adds (flow : Flow) (todo : List Text) (walk later : Walk) (run : List Mark) : Prop where
  marks : later.marks = walk.marks ++ run
  visited : later.visited = walk.visited ++ run.filterMap Mark.anchor?
  recites : Recites flow run
  visits : Visits (openTargets flow) todo walk.visited later.visited

namespace Adds

variable {flow : Flow} {todo more : List Text} {walk middle later : Walk} {run others : List Mark}

theorem nothing (flow : Flow) (walk : Walk) : Adds flow [] walk walk [] where
  marks := (List.append_nil _).symm
  visited := (List.append_nil _).symm
  recites := .nil
  visits := .done _

theorem append (h : Adds flow todo walk middle run) (hmore : Adds flow more middle later others) :
    Adds flow (todo ++ more) walk later (run ++ others) where
  marks := by rw [hmore.marks, h.marks, List.append_assoc]
  visited := by rw [hmore.visited, h.visited, List.filterMap_append, List.append_assoc]
  recites := h.recites.append hmore.recites
  visits := h.visits.append hmore.visits

theorem write (flow : Flow) (walk : Walk) (depth : Nat) (phrase : Phrase) :
    Adds flow [] walk (walk.write depth phrase) [.line ⟨depth, phrase⟩] where
  marks := rfl
  visited := (List.append_nil _).symm
  recites := .line _ .nil
  visits := .done _

theorem jump (flow : Flow) (depth : Nat) {id : Text} (h : id ∈ walk.visited) :
    Adds flow [id] walk (walk.jump depth id) [.line ⟨depth, .goto id⟩] where
  marks := marks_jump walk depth id
  visited := by
    rw [Walk.visited_jump]
    exact (List.append_nil _).symm
  recites := .line _ .nil
  visits := by
    rw [Walk.visited_jump]
    exact .known h (.done _)

theorem visit {depth : Nat} {id : Text} {node : Node} (hnew : id ∉ walk.visited)
    (hlast : flow.lastNode? id = some node)
    (h : Adds flow ((openBranches flow node).map Prod.fst) (walk.visit depth id) later run)
    (hopens : Opens flow node depth run) : Adds flow [id] walk later (.anchor depth id :: run) where
  marks := by
    rw [h.marks]
    exact List.append_assoc ..
  visited := by
    rw [h.visited]
    exact List.append_assoc ..
  recites := .anchor hlast hopens h.recites
  visits := .root hnew (openTargets_of_lastNode hlast ▸ h.visits)

theorem length_le (h : Adds flow todo walk later run) :
    walk.visited.length ≤ later.visited.length := by
  rw [h.visited, List.length_append]
  omega

theorem known {id : Text} (h : Adds flow [id] walk later run) (hknown : Known flow walk.visited)
    (hid : id ∈ flow.nodeIds) : Known flow later.visited :=
  hknown.visits (List.cons_subset.2 ⟨hid, List.nil_subset _⟩) h.visits

end Adds

/-! ## Walks from a node -/

/-- Where the walk comes to a node: the beginning of its lines, or a jump there. -/
def arrival (walk : Walk) (depth : Nat) (id : Text) : Mark :=
  if walk.visited.contains id then .line ⟨depth, .goto id⟩ else .anchor depth id

theorem arrival_of_visited {walk : Walk} {depth : Nat} {id : Text} (h : id ∈ walk.visited) :
    arrival walk depth id = .line ⟨depth, .goto id⟩ :=
  if_pos (List.contains_iff_mem.2 h)

theorem arrival_of_new {walk : Walk} {depth : Nat} {id : Text} (h : id ∉ walk.visited) :
    arrival walk depth id = .anchor depth id :=
  if_neg fun hcontains => h (List.contains_iff_mem.1 hcontains)

/-- Walks with so much fuel get through all that a node leads to. -/
def Covers (flow : Flow) (fuel : Nat) : Prop :=
  ∀ (depth : Nat) (id : Text) (walk : Walk), id ∈ flow.nodeIds → Known flow walk.visited →
    flow.nodes.length < fuel + walk.visited.length →
    ∃ run, Adds flow [id] walk (walkFrom flow (Graph.ofFlow flow) fuel depth id walk)
      (arrival walk depth id :: run)

section Covers

variable {flow : Flow} {fuel : Nat} {walk : Walk} (ih : Covers flow fuel)
  (hknown : Known flow walk.visited)

include ih hknown

theorem Covers.branch (depth : Nat) (node : Node) (count : Nat) (entry : (Text × Json) × Nat)
    (hopen : entry.1.1 ∈ flow.nodeIds) (hfuel : flow.nodes.length < fuel + walk.visited.length) :
    ∃ run, Adds flow [entry.1.1] walk
      (walkBranch flow (Graph.ofFlow flow) fuel depth node count walk entry)
      (.line ⟨depth, branchOpening node count entry.2 entry.1.2⟩ :: run) := by
  obtain ⟨run, hrun⟩ := ih (depth + 1) entry.1.1 (walk.write depth _) hopen hknown hfuel
  exact ⟨_, (Adds.write flow walk depth (branchOpening node count entry.2 entry.1.2)).append hrun⟩

theorem Covers.branches (depth : Nat) (node : Node) (count : Nat)
    (entries : List ((Text × Json) × Nat)) (hopen : ∀ entry ∈ entries, entry.1.1 ∈ flow.nodeIds)
    (hfuel : flow.nodes.length < fuel + walk.visited.length) :
    ∃ run, Adds flow (entries.map fun entry => entry.1.1) walk
      (entries.foldl (walkBranch flow (Graph.ofFlow flow) fuel depth node count) walk) run := by
  induction entries generalizing walk with
  | nil => exact ⟨[], .nothing flow walk⟩
  | cons entry entries ihEntries =>
      obtain ⟨hentry, hopen⟩ := List.forall_mem_cons.1 hopen
      obtain ⟨first, hfirst⟩ := Covers.branch ih hknown depth node count entry hentry hfuel
      have hlonger := hfirst.length_le
      obtain ⟨others, hothers⟩ := ihEntries (hfirst.known hknown hentry) hopen (by omega)
      exact ⟨_, hfirst.append hothers⟩

end Covers

section New

variable {flow : Flow} {fuel depth : Nat} {id : Text} {node : Node} {walk : Walk}
  (hnew : id ∉ walk.visited) (hlast : flow.lastNode? id = some node)

include hnew hlast

theorem Adds.leaf (h : openBranches flow node = []) :
    ∃ run, Adds flow [id] walk ((if node.title == .str "End".toList then walk.visit depth id
      else (walk.visit depth id).write depth (.activity node.caption)).write depth .stop)
        (.anchor depth id :: run) := by
  have htodo : (openBranches flow node).map Prod.fst = [] := by rw [h]; rfl
  have hkept : ¬ PassedOver flow node := fun hpassed => absurd hpassed.2 (by simp [h])
  split
  · rename_i hend
    have hstop := Adds.write flow (walk.visit depth id) depth .stop
    exact ⟨_, .visit hnew hlast (by rwa [htodo]) (.own (.stop h (eq_of_beq hend)) hkept [])⟩
  · have hsaid := (Adds.write flow (walk.visit depth id) depth (.activity node.caption)).append
      (Adds.write flow _ depth .stop)
    exact ⟨_, .visit hnew hlast (by rwa [htodo]) (.own (.activity (by simp [h])) hkept _)⟩

variable (ih : Covers flow fuel) (hid : id ∈ flow.nodeIds) (hknown : Known flow walk.visited)
  (hfuel : flow.nodes.length < fuel + (walk.visited ++ [id]).length)

include ih hid hknown hfuel

theorem Covers.pass {branch : Text × Json} (h : openBranches flow node = [branch]) :
    ∃ run, Adds flow [id] walk (walkFrom flow (Graph.ofFlow flow) fuel depth branch.1
      (if isStartMarker (Graph.ofFlow flow) node then walk.visit depth id
        else (walk.visit depth id).write depth (.activity node.caption)))
        (.anchor depth id :: run) := by
  have htodo : (openBranches flow node).map Prod.fst = [branch.1] := by rw [h]; rfl
  have hbranch : branch.1 ∈ (openBranches flow node).map Prod.fst := by simp [htodo]
  have hopen := (mem_openBranches_targets.1 hbranch).1
  split
  · rename_i hmarker
    obtain ⟨run, hrun⟩ := ih depth branch.1 (walk.visit depth id) hopen (hknown.snoc hid hnew) hfuel
    refine ⟨_, .visit hnew hlast (by rwa [htodo]) (.passed ⟨hmarker, by simp [h]⟩ hbranch ?_ run)⟩
    unfold arrival
    split
    · exact .inr rfl
    · exact .inl rfl
  · rename_i hmarker
    obtain ⟨run, hrun⟩ := ih depth branch.1
      ((walk.visit depth id).write depth (.activity node.caption)) hopen (hknown.snoc hid hnew)
      hfuel
    have hsaid := (Adds.write flow (walk.visit depth id) depth (.activity node.caption)).append hrun
    refine ⟨_, .visit hnew hlast (by rwa [htodo]) (.own (.activity (by simp [h])) ?_ _)⟩
    exact fun hpassed => hmarker hpassed.1

theorem Covers.split {first second : Text × Json} {rest : List (Text × Json)}
    (h : openBranches flow node = first :: second :: rest) :
    ∃ run, Adds flow [id] walk (((first :: second :: rest).zipIdx.foldl
      (walkBranch flow (Graph.ofFlow flow) fuel depth node (first :: second :: rest).length)
      (walk.visit depth id)).write depth .endIf) (.anchor depth id :: run) := by
  have hopen : ∀ branch ∈ openBranches flow node, branch.1 ∈ flow.nodeIds := fun branch hbranch =>
    (mem_openBranches_targets.1 (List.mem_map_of_mem hbranch)).1
  rw [h, List.forall_mem_cons] at hopen
  have hentered : Known flow (walk.visit depth id).visited := hknown.snoc hid hnew
  obtain ⟨opened, hopened⟩ := Covers.branch ih hentered depth node
    (first :: second :: rest).length (first, 0) hopen.1 hfuel
  have hlonger := hopened.length_le
  obtain ⟨others, hothers⟩ := Covers.branches ih (hopened.known hentered hopen.1) depth node
    (first :: second :: rest).length ((second :: rest).zipIdx 1)
    (fun entry hentry => hopen.2 _ (List.fst_mem_of_mem_zipIdx hentry))
    (by simp only [Walk.visited_visit] at hlonger; omega)
  have hwalked := (hopened.append hothers).append (Adds.write flow _ depth .endIf)
  have hothersTodo : ((second :: rest).zipIdx 1).map (fun entry => entry.1.1) =
      (second :: rest).map Prod.fst := by
    rw [← List.zipIdx_map_fst 1 (second :: rest), List.map_map, List.zipIdx_map_fst]
    rfl
  have htodo : [first.1] ++ ((second :: rest).zipIdx 1).map (fun entry => entry.1.1) ++ [] =
      (openBranches flow node).map Prod.fst := by
    rw [h, hothersTodo, List.append_nil]
    rfl
  rw [htodo] at hwalked
  have hkept : ¬ PassedOver flow node := fun hpassed => absurd hpassed.2 (by simp [h])
  exact ⟨_, .visit hnew hlast hwalked (.own (.condition h) hkept _)⟩

end New

theorem covers (flow : Flow) (fuel : Nat) : Covers flow fuel := by
  -- A visit takes one unit of fuel and adds a node, so fuel for all nodes is never used up.
  induction fuel with
  | zero =>
      intro depth id walk _ hknown hfuel
      have := hknown.length_le
      omega
  | succ fuel ih =>
      intro depth id walk hid hknown hfuel
      by_cases hvisited : id ∈ walk.visited
      · rw [walkFrom_of_visited hvisited, arrival_of_visited hvisited]
        exact ⟨[], .jump flow depth hvisited⟩
      · obtain ⟨node, -, hlast, -⟩ := Flow.exists_lastNode hid
        have hfuel' : flow.nodes.length < fuel + (walk.visited ++ [id]).length := by
          rw [List.length_append, List.length_singleton]
          omega
        rw [walkFrom_of_new hvisited hlast, arrival_of_new hvisited]
        cases hbranches : openBranches flow node with
        | nil => exact Adds.leaf hvisited hlast hbranches
        | cons first rest =>
            cases rest with
            | nil => exact Covers.pass hvisited hlast ih hid hknown hfuel' hbranches
            | cons second rest => exact Covers.split hvisited hlast ih hid hknown hfuel' hbranches

/-! ## The walk through a whole flow -/

def entrance (flow : Flow) : Text :=
  if flow.nodeIds.contains flow.start then flow.start else flow.nodeIds.headD []

theorem entrance_mem {flow : Flow} (h : flow.nodes ≠ []) : entrance flow ∈ flow.nodeIds := by
  unfold entrance
  split
  · rename_i hstart
    exact List.contains_iff_mem.1 hstart
  · obtain ⟨node, nodes, heq⟩ := List.exists_cons_of_ne_nil h
    simp [Flow.nodeIds, heq]

/-- A run of its own: it begins without depth at a node that the start does not lead to, and goes
where that node leads. -/
structure Detached (flow : Flow) (root : Text) (run : List Mark) : Prop where
  begins : run.head? = some (.anchor 0 root)
  apart : ¬ Reaches flow (entrance flow) root
  led : ∀ id ∈ run.filterMap Mark.anchor?, Reaches flow root id

/-- What the walk through a flow has done in the end. -/
structure Covered (flow : Flow) (walk : Walk) : Prop where
  visited : walk.visited.Perm flow.nodeIds
  anchors : walk.marks.filterMap Mark.anchor? = walk.visited
  opens : ∀ node ∈ flow.nodes, ∃ before depth after,
    walk.marks = before ++ .anchor depth node.id :: after ∧ Opens flow node depth after
  /-- The first run is that of the nodes which the start leads to; all others are in later runs. -/
  runs : ∃ first roots others,
    walk.marks = .line ⟨0, .start⟩ :: .anchor 0 (entrance flow) :: first ++ others.flatten ∧
    (∀ id, id ∈ entrance flow :: first.filterMap Mark.anchor? ↔ Reaches flow (entrance flow) id) ∧
    roots.Sublist flow.nodeIds ∧ List.Forall₂ (Detached flow) roots others

section Whole

variable {flow : Flow} (hdistinct : flow.nodeIds.Nodup)

include hdistinct

theorem Adds.reaches {root : Text} {walk later : Walk} {run : List Mark}
    (h : Adds flow [root] walk later run) {id : Text} (hid : id ∈ later.visited) :
    id ∈ walk.visited ∨ Reaches flow root id := by
  rcases h.visits.led id hid with hold | ⟨other, hother, hled⟩
  · exact .inl hold
  · rw [reaches_eq hdistinct]
    exact .inr (List.mem_singleton.1 hother ▸ hled)

/-- Nodes that were not visited yet are gone through in runs of their own. -/
theorem exists_detached {ids : List Text} {walk : Walk} (hids : ids ⊆ flow.nodeIds)
    (hknown : Known flow walk.visited)
    (hreached : ∀ id, Reaches flow (entrance flow) id → id ∈ walk.visited) :
    ∃ roots runs, roots.Sublist ids ∧ List.Forall₂ (Detached flow) roots runs ∧
      Adds flow ids walk (ids.foldl (walkNew flow (Graph.ofFlow flow)) walk) runs.flatten := by
  induction ids generalizing walk with
  | nil => exact ⟨[], [], .slnil, .nil, .nothing flow walk⟩
  | cons id ids ih =>
      obtain ⟨hid, hids⟩ := List.cons_subset.1 hids
      rw [List.foldl_cons]
      by_cases hvisited : id ∈ walk.visited
      · obtain ⟨roots, runs, hroots, hruns, hadds⟩ := ih hids hknown hreached
        rw [walkNew_of_visited hvisited]
        exact ⟨roots, runs, hroots.cons id, hruns, hadds.marks, hadds.visited, hadds.recites,
          .known hvisited hadds.visits⟩
      · rw [walkNew_of_new hvisited]
        obtain ⟨run, hrun⟩ := covers flow (flow.nodes.length + 1) 0 id walk hid hknown (by omega)
        rw [arrival_of_new hvisited] at hrun
        have hlater := hrun.known hknown hid
        obtain ⟨roots, runs, hroots, hruns, hadds⟩ := ih hids hlater fun other hother =>
          hrun.visited ▸ List.mem_append_left _ (hreached other hother)
        refine ⟨id :: roots, _ :: runs, hroots.cons_cons id, .cons ?_ hruns, hrun.append hadds⟩
        refine ⟨rfl, fun hled => hvisited (hreached id hled), fun other hother => ?_⟩
        -- What this run came to was not visited before, so this root leads there.
        have honce := hlater.once
        rw [hrun.visited, List.nodup_append] at honce
        refine (hrun.reaches hdistinct (hrun.visited ▸ List.mem_append_right _ hother)).resolve_left
          fun hold => ?_
        exact absurd rfl (honce.2.2 other hold other hother)

/-- The walk through a flow with distinct ids goes to every node once, and says of each node what it
is where it gets there, unless the node is passed over. Nodes that the start does not lead to follow
in runs of their own. -/
theorem walkAll_covers (hne : flow.nodes ≠ []) :
    Covered flow (walkAll flow (Graph.ofFlow flow)) := by
  have hentrance := entrance_mem hne
  obtain ⟨first, hfirst⟩ := covers flow (flow.nodes.length + 1) 0 (entrance flow)
    (Walk.write {} 0 .start) hentrance ⟨List.nodup_nil, List.nil_subset _⟩ (by simp)
  rw [arrival_of_new (by simp)] at hfirst
  have hvisited := hfirst.visited
  -- The first run goes to all that the entrance leads to, so the rest are detached.
  have hreached : ∀ id, Reaches flow (entrance flow) id ↔
      id ∈ (walkFrom flow (Graph.ofFlow flow) (flow.nodes.length + 1) 0 (entrance flow)
        (Walk.write {} 0 .start)).visited := by
    intro id
    refine ⟨fun hled => ?_, fun hid => (hfirst.reaches hdistinct hid).resolve_left List.not_mem_nil⟩
    rw [reaches_eq hdistinct] at hled
    exact hfirst.visits.mem_of_led List.mem_cons_self hled
  obtain ⟨roots, others, hroots, hothers, hrest⟩ := exists_detached hdistinct (List.Subset.refl _)
    (hfirst.known ⟨List.nodup_nil, List.nil_subset _⟩ hentrance) fun id => (hreached id).1
  have hall := ((Adds.write flow {} 0 .start).append hfirst).append hrest
  have hwalk : walkAll flow (Graph.ofFlow flow) = flow.nodeIds.foldl
      (walkNew flow (Graph.ofFlow flow)) (walkFrom flow (Graph.ofFlow flow)
        (flow.nodes.length + 1) 0 (entrance flow) (Walk.write {} 0 .start)) := rfl
  rw [← hwalk] at hall
  have hanchored := anchored_walkAll flow (Graph.ofFlow flow)
  have hknown := Known.visits ⟨List.nodup_nil, List.nil_subset _⟩
    (List.append_subset.2 ⟨List.cons_subset.2 ⟨hentrance, List.nil_subset _⟩, List.Subset.refl _⟩)
    hall.visits
  have hmem : flow.nodeIds ⊆ (walkAll flow (Graph.ofFlow flow)).visited :=
    (List.append_subset.1 hall.visits.todo_subset).2
  refine {
    visited := (List.perm_ext_iff_of_nodup hknown.once hdistinct).2
      fun id => ⟨fun hid => hknown.nodes hid, fun hid => hmem hid⟩
    anchors := hanchored.anchors
    opens := ?_
    runs := ⟨first, roots, others, hall.marks, fun id => ?_, hroots, hothers⟩ }
  · intro node hnode
    have hid : node.id ∈ (walkAll flow (Graph.ofFlow flow)).marks.filterMap Mark.anchor? :=
      hanchored.anchors ▸ hmem (List.mem_map_of_mem hnode)
    rw [hall.marks] at hid
    obtain ⟨before, depth, found, after, hmarks, hlast, hopens⟩ := hall.recites.opens hid
    rw [Flow.lastNode_eq hdistinct hnode] at hlast
    obtain rfl := Option.some.inj hlast
    exact ⟨before, depth, after, hall.marks.trans hmarks, hopens⟩
  · rw [hreached, hvisited]
    rfl

end Whole

/-- The start of this flow is a plain node; another node looks like a start and leads to it. -/
def decoyFlow : Flow where
  id := "f".toList
  title := .null
  start := "a".toList
  nodes := [
    { id := "a".toList, title := .str "A".toList },
    { id := "s".toList, title := .str "Start".toList, outlets := [
      { id := .str "s-a-0".toList, target := "a".toList }] }]

/-- The node that only looks like a start is passed over, though no line stands for it. -/
theorem walkAll_covers_decoy :
    (decoyFlow.nodeIds.Nodup ∧ decoyFlow.nodes ≠ []) ∧
      (∃ node ∈ decoyFlow.nodes, node.id ≠ entrance decoyFlow ∧ PassedOver decoyFlow node) ∧
      Covered decoyFlow (walkAll decoyFlow (Graph.ofFlow decoyFlow)) :=
  ⟨by decide, by decide, walkAll_covers (by decide) (by decide)⟩

end Flowchart.Activity
