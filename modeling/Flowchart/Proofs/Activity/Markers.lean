import Flowchart.Proofs.Activity.Tour

/-!
# Markers

A start marker and the nodes titled as ends leave no lines of their own, as the lines `start` and
`stop` say them already.  A flow with markers is written like the flow of its other nodes.
-/

namespace Flowchart.Activity

/-- A flow with markers, and the plain flow of its other nodes.  The marker of the start leads to
the start of the plain flow, and a node that leads nowhere there leads to an end of its own. -/
structure Marked (full bare : Flow) (finish? : Text → Option Text) : Prop where
  plain : PlainFlow bare
  started : full.start ∈ full.nodeIds
  hidden : full.start ∉ bare.nodeIds
  begins : ∃ node label, full.lastNode? full.start = some node ∧
    isStartMarker (Graph.ofFlow full) node = true ∧
    openBranches full node = [(bare.start, label)]
  said : ∀ id ∈ bare.nodeIds, ∃ node other, full.lastNode? id = some node ∧
    bare.lastNode? id = some other ∧ PlainNode node ∧ node.title = other.title ∧
    (finish? id = none → openBranches full node = openBranches bare other) ∧
    ∀ last, finish? id = some last →
      openBranches bare other = [] ∧ ∃ label, openBranches full node = [(last, label)]
  ends : ∀ id ∈ bare.nodeIds, ∀ last, finish? id = some last →
    last ∉ bare.nodeIds ∧ last ≠ full.start ∧ ∃ node, full.lastNode? last = some node ∧
      node.title = .str "End".toList ∧ openBranches full node = []
  apart : ∀ id ∈ bare.nodeIds, ∀ other ∈ bare.nodeIds, ∀ last, finish? id = some last →
    finish? other = some last → id = other
  kept : bare.nodeIds = full.nodeIds.filter fun id => bare.nodeIds.contains id
  follows : ∀ before last after, full.nodeIds = before ++ last :: after →
    last ∈ bare.nodeIds ∨ last = full.start ∨
      ∃ id ∈ before, id ∈ bare.nodeIds ∧ finish? id = some last

def trail (finish? : Text → Option Text) (id : Text) : List Text := id :: (finish? id).toList

/-- Two walks write the same, but one of them has visited the markers as well. -/
structure Strips (full bare : Flow) (finish? : Text → Option Text) (walk other : Walk) : Prop where
  lines : ∀ targets, targets ⊆ bare.nodeIds →
    walk.marks.filterMap (Mark.line? targets) = other.marks.filterMap (Mark.line? targets)
  visited : walk.visited = full.start :: other.visited.flatMap (trail finish?)
  targets : walk.targets = other.targets
  aimed : other.targets ⊆ bare.nodeIds
  once : other.visited.Nodup
  known : other.visited ⊆ bare.nodeIds

namespace Strips

variable {full bare : Flow} {finish? : Text → Option Text} {walk other : Walk}
  (h : Strips full bare finish? walk other) (depth : Nat) {id last : Text}

include h

theorem outline_eq : walk.outline = other.outline := by
  rw [Activity.outline_eq, Activity.outline_eq, h.targets]
  exact h.lines _ h.aimed

theorem write (phrase : Phrase) :
    Strips full bare finish? (walk.write depth phrase) (other.write depth phrase) where
  lines targets htargets := by
    rw [Walk.write, Walk.write, List.filterMap_append, List.filterMap_append, h.lines _ htargets]
  visited := h.visited
  targets := h.targets
  aimed := h.aimed
  once := h.once
  known := h.known

theorem jump (hid : id ∈ bare.nodeIds) :
    Strips full bare finish? (walk.jump depth id) (other.jump depth id) := by
  have hwritten := h.write depth (.goto id)
  unfold Walk.jump
  rw [h.targets]
  split
  · exact hwritten
  · exact {
      lines := hwritten.lines
      visited := hwritten.visited
      targets := rfl
      aimed := List.append_subset.2 ⟨h.aimed, by simpa using hid⟩
      once := h.once
      known := h.known }

theorem once_visit (hnew : id ∉ other.visited) : (other.visited ++ [id]).Nodup := by
  rw [← List.concat_eq_append]
  exact h.once.concat hnew

theorem known_visit (hid : id ∈ bare.nodeIds) : other.visited ++ [id] ⊆ bare.nodeIds :=
  List.append_subset.2 ⟨h.known, by simpa using hid⟩

theorem visit (hid : id ∈ bare.nodeIds) (hnew : id ∉ other.visited) (hlast : finish? id = none) :
    Strips full bare finish? (walk.visit depth id) (other.visit depth id) where
  lines targets htargets := by
    rw [Walk.visit, Walk.visit, List.filterMap_append, List.filterMap_append, h.lines _ htargets]
  visited := by simp [h.visited, trail, hlast]
  targets := h.targets
  aimed := h.aimed
  once := h.once_visit hnew
  known := h.known_visit hid

theorem leaf (hid : id ∈ bare.nodeIds) (hnew : id ∉ other.visited) (hlast : finish? id = some last)
    (hhidden : last ∉ bare.nodeIds) (phrase : Phrase) :
    Strips full bare finish? (((walk.visit depth id).write depth phrase).visit depth last)
      ((other.visit depth id).write depth phrase) where
  lines targets htargets := by
    have hnone : Mark.line? targets (.anchor depth last) = none := by
      have hmem : targets.contains last = false := by
        simpa using fun hmem => hhidden (htargets hmem)
      simp only [Mark.line?, hmem, Bool.false_eq_true, if_false]
    simp only [Walk.visit, Walk.write, List.filterMap_append, h.lines _ htargets,
      List.filterMap_cons, hnone, List.filterMap_nil, List.append_nil]
  visited := by simp [h.visited, trail, hlast]
  targets := h.targets
  aimed := h.aimed
  once := h.once_visit hnew
  known := h.known_visit hid

theorem length_visited_lt (hid : id ∈ bare.nodeIds) (hnew : id ∉ other.visited) :
    other.visited.length < bare.nodes.length := by
  have hsub : (other.visited ++ [id]).Subperm bare.nodeIds :=
    (h.once_visit hnew).subperm (h.known_visit hid)
  have hlength := hsub.length_le
  rwa [List.length_append, Flow.nodeIds, List.length_map] at hlength

variable (hm : Marked full bare finish?)

include hm

theorem mem_visited (hid : id ∈ bare.nodeIds) : id ∈ walk.visited ↔ id ∈ other.visited := by
  rw [h.visited, List.mem_cons, List.mem_flatMap]
  constructor
  · rintro (rfl | ⟨known, hknown, hmem⟩)
    · exact absurd hid hm.hidden
    · rcases List.mem_cons.1 hmem with rfl | hmem
      · exact hknown
      · exact absurd hid (hm.ends known (h.known hknown) id (Option.mem_toList.1 hmem)).1
  · exact fun hvisited => .inr ⟨id, hvisited, List.mem_cons_self⟩

theorem finish_mem_visited (hid : id ∈ bare.nodeIds) (hlast : finish? id = some last) :
    last ∈ walk.visited ↔ id ∈ other.visited := by
  obtain ⟨hhidden, hstart, -⟩ := hm.ends id hid last hlast
  rw [h.visited, List.mem_cons, List.mem_flatMap]
  constructor
  · rintro (rfl | ⟨known, hknown, hmem⟩)
    · exact absurd rfl hstart
    · rcases List.mem_cons.1 hmem with rfl | hmem
      · exact absurd (h.known hknown) hhidden
      · rwa [hm.apart id hid known (h.known hknown) last hlast (Option.mem_toList.1 hmem)]
  · exact fun hvisited => .inr ⟨id, hvisited, by simp [trail, hlast]⟩

end Strips

theorem visited_prefix_walkFrom (flow : Flow) (graph : Graph) (fuel depth : Nat) (id : Text)
    (walk : Walk) : walk.visited <+: (walkFrom flow graph fuel depth id walk).visited := by
  apply walkFrom_invariant graph (P := fun later => walk.visited <+: later.visited)
  · exact fun _ _ _ _ hprefix => hprefix
  · exact fun _ _ _ _ hprefix => hprefix.trans (List.prefix_append _ _)
  · intro later depth id _ hprefix
    rwa [Walk.visited_jump]
  · exact List.prefix_refl _

theorem mem_visited_walkFrom {flow : Flow} (h : PlainFlow flow) (graph : Graph) {id : Text}
    (hid : id ∈ flow.nodeIds) (fuel depth : Nat) (walk : Walk) :
    id ∈ (walkFrom flow graph (fuel + 1) depth id walk).visited := by
  by_cases hvisited : id ∈ walk.visited
  · exact (visited_prefix_walkFrom flow graph _ depth id walk).subset hvisited
  · obtain ⟨node, hnode, hlast, -⟩ := Flow.exists_lastNode hid
    have hself : id ∈ (walk.visit depth id).visited := by simp
    cases hbranches : openBranches flow node with
    | nil =>
        rw [walkFrom_of_none h hvisited hlast hnode hbranches]
        exact hself
    | cons first rest =>
        cases rest with
        | nil =>
            rw [walkFrom_of_one h hvisited hlast hnode hbranches]
            exact (visited_prefix_walkFrom flow graph _ _ _ _).subset hself
        | cons second rest =>
            rw [walkFrom_of_many h hvisited hlast hnode hbranches, Walk.visited_write]
            have hstays : ∀ fuel depth next later, id ∈ later.visited →
                id ∈ (walkFrom flow graph fuel depth next later).visited :=
              fun fuel depth next later hmem =>
                (visited_prefix_walkFrom flow graph fuel depth next later).subset hmem
            exact List.foldlRecOn (motive := fun later : Walk => id ∈ later.visited) _ _
              (hstays _ _ _ _ hself) fun later hlater entry _ => hstays _ _ _ _ hlater

/-- From a node of the plain flow, walks with so much fuel write the same. -/
def Parallel (full bare : Flow) (finish? : Text → Option Text) (graph : Graph) (fuel : Nat) :
    Prop :=
  ∀ (more depth : Nat) (id : Text) (walk other : Walk), Strips full bare finish? walk other →
    id ∈ bare.nodeIds → bare.nodes.length < fuel + other.visited.length → fuel ≤ more →
    Strips full bare finish? (walkFrom full (Graph.ofFlow full) more depth id walk)
      (walkFrom bare graph fuel depth id other)

section Parallel

variable {full bare : Flow} {finish? : Text → Option Text} {fuel more depth : Nat}
  {walk other : Walk}

theorem Parallel.branches {graph : Graph} (ih : Parallel full bare finish? graph fuel)
    {node twin : Node} (hquestion : question node = question twin)
    {entries : List ((Text × Json) × Nat)} (hopen : ∀ entry ∈ entries, entry.1.1 ∈ bare.nodeIds)
    {count : Nat} (h : Strips full bare finish? walk other)
    (hfuel : bare.nodes.length < fuel + other.visited.length) (hmore : fuel ≤ more) :
    Strips full bare finish?
      (entries.foldl (walkBranch full (Graph.ofFlow full) more depth node count) walk)
      (entries.foldl (walkBranch bare graph fuel depth twin count) other) := by
  induction entries generalizing walk other with
  | nil => exact h
  | cons entry entries ihEntries =>
      obtain ⟨hentry, hentries⟩ := List.forall_mem_cons.1 hopen
      have hopening : branchOpening node count entry.2 entry.1.2 =
          branchOpening twin count entry.2 entry.1.2 := by
        simp only [branchOpening, hquestion]
      have hwritten := h.write depth (branchOpening twin count entry.2 entry.1.2)
      have hwalked := ih more (depth + 1) entry.1.1 _ _ hwritten hentry hfuel hmore
      have hlonger := (visited_prefix_walkFrom bare graph fuel (depth + 1) entry.1.1
        (other.write depth (branchOpening twin count entry.2 entry.1.2))).length_le
      rw [Walk.visited_write] at hlonger
      rw [List.foldl_cons, List.foldl_cons, walkBranch, walkBranch, hopening]
      exact ihEntries hentries hwalked (by omega)

variable (hm : Marked full bare finish?) (graph : Graph)

include hm

theorem Strips.walkFrom_last {id last : Text} (h : Strips full bare finish? walk other)
    (hid : id ∈ bare.nodeIds) (hnew : id ∉ other.visited) (hfinish : finish? id = some last) :
    Strips full bare finish? (walkFrom full (Graph.ofFlow full) (more + 2) depth id walk)
      (walkFrom bare graph (fuel + 1) depth id other) := by
  obtain ⟨node, twin, hnode, htwin, hplain, htitle, -, hleaf⟩ := hm.said id hid
  obtain ⟨hnone, label, hone⟩ := hleaf last hfinish
  obtain ⟨hhidden, -, marker, hlast, hsaid, hempty⟩ := hm.ends id hid last hfinish
  have hnew' : id ∉ walk.visited := fun hmem => hnew ((h.mem_visited hm hid).1 hmem)
  have hunseen : last ∉ ((walk.visit depth id).write depth (.activity node.caption)).visited := by
    rw [Walk.visited_write, Walk.visited_visit, List.mem_append, List.mem_singleton, not_or]
    exact ⟨fun hmem => hnew ((h.finish_mem_visited hm hid hfinish).1 hmem),
      fun heq => hhidden (heq ▸ hid)⟩
  rw [walkFrom_of_none hm.plain hnew htwin (Flow.mem_of_lastNode htwin) hnone,
    walkFrom_of_new hnew' hnode, hone]
  simp only [(hplain.unmarked (Graph.ofFlow full)).1, Bool.false_eq_true, if_false]
  rw [walkFrom_of_new hunseen hlast, hempty, hsaid, hplain.said.1, htitle]
  exact (h.leaf depth hid hnew hfinish hhidden _).write depth .stop

theorem Parallel.walkFrom_inner {graph : Graph} {id : Text}
    (ih : Parallel full bare finish? graph fuel) (h : Strips full bare finish? walk other)
    (hid : id ∈ bare.nodeIds) (hnew : id ∉ other.visited) (hfinish : finish? id = none)
    (hfuel : bare.nodes.length < fuel + 1 + other.visited.length) (hmore : fuel ≤ more) :
    Strips full bare finish? (walkFrom full (Graph.ofFlow full) (more + 1) depth id walk)
      (walkFrom bare graph (fuel + 1) depth id other) := by
  obtain ⟨node, twin, hnode, htwin, hplain, htitle, hsame, -⟩ := hm.said id hid
  obtain ⟨hmarker, hend⟩ := hplain.unmarked (Graph.ofFlow full)
  have htwins := Flow.mem_of_lastNode htwin
  have hnew' : id ∉ walk.visited := fun hmem => hnew ((h.mem_visited hm hid).1 hmem)
  have hentered := h.visit depth hid hnew hfinish
  have hspent : bare.nodes.length < fuel + (other.visit depth id).visited.length := by
    rw [Walk.visited_visit, List.length_append, List.length_singleton]
    omega
  have hopen : ∀ branch ∈ openBranches bare twin, branch.1 ∈ bare.nodeIds :=
    fun branch hbranch => (hm.plain.mem_openBranches htwins hbranch).1
  rw [walkFrom_of_new hnew' hnode, hsame hfinish]
  -- Both walks see the same branches, and differ in markers alone.
  cases hbranches : openBranches bare twin with
  | nil =>
      rw [walkFrom_of_none hm.plain hnew htwin htwins hbranches, ← htitle]
      simp only [hend, hplain.said.1, Bool.false_eq_true, if_false]
      exact (hentered.write depth _).write depth .stop
  | cons first rest =>
      rw [hbranches] at hopen
      cases rest with
      | nil =>
          rw [walkFrom_of_one hm.plain hnew htwin htwins hbranches, ← htitle]
          simp only [hmarker, hplain.said.1, Bool.false_eq_true, if_false]
          exact ih _ _ _ _ _ (hentered.write depth _) (hopen first List.mem_cons_self) hspent hmore
      | cons second rest =>
          rw [walkFrom_of_new hnew htwin, hbranches]
          refine Strips.write (ih.branches ?_ ?_ hentered hspent hmore) depth .endIf
          · rw [hplain.said.2, (hm.plain.nodes twin htwins).said.2, htitle]
          · intro entry hentry
            exact hopen entry.1 ((List.mem_zipIdx' hentry).2 ▸ List.getElem_mem _)

/-- A walk through the flow with markers writes what the walk through the plain flow writes. -/
theorem Marked.parallel (fuel : Nat) : Parallel full bare finish? graph fuel := by
  induction fuel with
  | zero =>
      intro more depth id walk other h _ hfuel
      have hlength := (h.once.subperm h.known).length_le
      rw [Flow.nodeIds, List.length_map] at hlength
      omega
  | succ fuel ih =>
      intro more depth id walk other h hid hfuel hmore
      obtain ⟨more, rfl⟩ := Nat.exists_eq_add_of_le' (Nat.le_trans (Nat.succ_pos fuel) hmore)
      by_cases hvisited : id ∈ other.visited
      · rw [walkFrom_of_visited hvisited, walkFrom_of_visited ((h.mem_visited hm hid).2 hvisited)]
        exact h.jump depth hid
      · cases hfinish : finish? id with
        | none => exact ih.walkFrom_inner hm h hid hvisited hfinish hfuel (by omega)
        | some last =>
            have hroom := h.length_visited_lt hid hvisited
            obtain ⟨more, rfl⟩ : ∃ rest, more = rest + 1 := ⟨more - 1, by omega⟩
            exact h.walkFrom_last hm graph hid hvisited hfinish

theorem Strips.foldl_walkNew {before after : List Text} (hall : full.nodeIds = before ++ after)
    (h : Strips full bare finish? walk other)
    (hbefore : ∀ id ∈ before, id ∈ bare.nodeIds → id ∈ other.visited)
    (hmore : bare.nodes.length ≤ full.nodes.length) :
    Strips full bare finish? (after.foldl (walkNew full (Graph.ofFlow full)) walk)
      ((after.filter fun id => bare.nodeIds.contains id).foldl (walkNew bare graph) other) := by
  induction after generalizing before walk other with
  | nil => exact h
  | cons id after ih =>
      have hall' : full.nodeIds = (before ++ [id]) ++ after := by simpa using hall
      rw [List.foldl_cons]
      by_cases hid : id ∈ bare.nodeIds
      · rw [List.filter_cons_of_pos (by simpa using hid), List.foldl_cons]
        by_cases hvisited : id ∈ other.visited
        · rw [walkNew_of_visited hvisited, walkNew_of_visited ((h.mem_visited hm hid).2 hvisited)]
          refine ih hall' h fun known hknown hmem => ?_
          rcases List.mem_append.1 hknown with hknown | hknown
          · exact hbefore known hknown hmem
          · exact List.mem_singleton.1 hknown ▸ hvisited
        · have hnew : id ∉ walk.visited := fun hmem => hvisited ((h.mem_visited hm hid).1 hmem)
          rw [walkNew_of_new hvisited, walkNew_of_new hnew]
          refine ih hall' (hm.parallel graph _ _ 0 id walk other h hid (by omega) (by omega))
            fun known hknown hmem => ?_
          rcases List.mem_append.1 hknown with hknown | hknown
          · exact (visited_prefix_walkFrom bare graph _ _ _ _).subset
              (hbefore known hknown hmem)
          · rw [List.mem_singleton.1 hknown]
            exact mem_visited_walkFrom hm.plain graph hid _ _ _
      · rw [List.filter_cons_of_neg (by simpa using hid)]
        -- A marker is missing in the bare flow. The full walk began with it, or came by it behind
        -- its owner.
        have hvisited : id ∈ walk.visited := by
          rcases hm.follows before id after hall with hmem | rfl | ⟨owner, howner, hmem, hfinish⟩
          · exact absurd hmem hid
          · rw [h.visited]
            exact List.mem_cons_self
          · exact (h.finish_mem_visited hm hmem hfinish).2 (hbefore owner howner hmem)
        rw [walkNew_of_visited hvisited]
        refine ih hall' h fun known hknown hmem => ?_
        rcases List.mem_append.1 hknown with hknown | hknown
        · exact hbefore known hknown hmem
        · exact absurd (List.mem_singleton.1 hknown ▸ hmem) hid

end Parallel

/-- A flow with markers has the outline of the flow without them. -/
theorem Marked.outline_walkAll {full bare : Flow} {finish? : Text → Option Text}
    (hm : Marked full bare finish?) (graph : Graph) :
    (walkAll full (Graph.ofFlow full)).outline = (walkAll bare graph).outline := by
  obtain ⟨node, label, hnode, hmarker, hone⟩ := hm.begins
  have hmore : bare.nodes.length < full.nodes.length := by
    have hlt : (full.nodeIds.filter fun id => bare.nodeIds.contains id).length <
        full.nodeIds.length :=
      List.length_filter_lt_length_iff_exists.2 ⟨full.start, hm.started, by simpa using hm.hidden⟩
    rw [← hm.kept] at hlt
    simpa [Flow.nodeIds] using hlt
  have hopened : Strips full bare finish? ((Walk.write {} 0 .start).visit 0 full.start)
      (Walk.write {} 0 .start) := {
    lines := fun targets htargets => by
      have hmem : full.start ∉ targets := fun hmem => hm.hidden (htargets hmem)
      simp [Walk.visit, Walk.write, Mark.line?, hmem]
    visited := rfl
    targets := rfl
    aimed := List.nil_subset _
    once := List.nodup_nil
    known := List.nil_subset _ }
  have hfirst : walkFrom full (Graph.ofFlow full) (full.nodes.length + 1) 0 full.start
      (Walk.write {} 0 .start) = walkFrom full (Graph.ofFlow full) full.nodes.length 0 bare.start
        ((Walk.write {} 0 .start).visit 0 full.start) := by
    rw [walkFrom_of_new (by simp [Walk.write]) hnode, hone]
    simp only [hmarker, if_true]
  rw [walkAll_eq hm.started, walkAll_eq hm.plain.started, hfirst, hm.kept]
  exact ((hm.parallel graph _ _ 0 bare.start _ _ hopened hm.plain.started (Nat.lt_succ_self _)
    hmore).foldl_walkNew hm graph (List.nil_append _).symm (by simp)
    (Nat.le_of_lt hmore)).outline_eq

end Flowchart.Activity
