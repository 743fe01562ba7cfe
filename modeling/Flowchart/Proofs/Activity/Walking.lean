import Flowchart.Proofs.Activity.Plain

/-!
# Walks

What the walk through a flow keeps from its start to its end, and the machine that runs the lines
of a walk.
-/

namespace Flowchart.Activity

def Mark.line? (targets : List Text) : Mark → Option Line
  | .line written => some written
  | .anchor depth id => if targets.contains id then some ⟨depth, .label id⟩ else none

theorem outline_eq (walk : Walk) :
    walk.outline = walk.marks.filterMap (Mark.line? walk.targets) := by
  apply congrArg fun f => walk.marks.filterMap f
  funext mark
  cases mark <;> rfl

/-- A phrase that a walk through the flow writes, apart from the jumps. -/
inductive Written (flow : Flow) : Phrase → Prop where
  | stop : Written flow .stop
  | endIf : Written flow .endIf
  | activity {node : Node} (hnode : node ∈ flow.nodes) : Written flow (.activity node.caption)
  | opening {node : Node} (hnode : node ∈ flow.nodes) {branch : Text × Json}
    (hbranch : branch ∈ openBranches flow node) (count position : Nat) :
    Written flow (branchOpening node count position branch.2)

section Invariants

variable {flow : Flow} (graph : Graph) {P : Walk → Prop} {R : Text → Prop}
  (hopen : ∀ node ∈ flow.nodes, ∀ branch ∈ openBranches flow node, R branch.1)
  (hwrite : ∀ walk depth phrase, Written flow phrase → P walk → P (walk.write depth phrase))
  (hvisit : ∀ walk depth id, id ∉ walk.visited → P walk → P (walk.visit depth id))

section Led

variable (hjump : ∀ walk depth id, id ∈ walk.visited → R id → P walk → P (walk.jump depth id))

include hopen hwrite hvisit hjump

/-- What holds of a walk holds later on, if it is kept by phrases, first visits and jumps back to
nodes that a branch leads to. -/
theorem walkFrom_invariant_of_led (fuel depth : Nat) (id : Text) {walk : Walk}
    (hid : id ∈ walk.visited → R id) (hwalk : P walk) :
    P (walkFrom flow graph fuel depth id walk) := by
  -- The cases are those of the walk: a jump, no node, an end, one branch and several.
  induction fuel generalizing depth id walk with
  | zero => exact hwalk
  | succ fuel ih =>
      unfold walkFrom
      split
      · rename_i hvisited
        have hvisited := List.contains_iff_mem.1 hvisited
        exact hjump _ _ _ hvisited (hid hvisited) hwalk
      · rename_i hnew
        split
        · exact hwalk
        · rename_i node hlast
          have hnode : node ∈ flow.nodes :=
            List.mem_reverse.1 (List.mem_of_find?_eq_some hlast)
          have hentered := hvisit walk depth id (by simpa using hnew) hwalk
          have hactivity := hwrite _ depth _ (.activity hnode) hentered
          split
          · apply hwrite _ _ .stop .stop
            split
            · exact hentered
            · exact hactivity
          · rename_i branch hbranches
            have hled := hopen node hnode branch (by simp [hbranches])
            apply ih _ _ fun _ => hled
            split
            · exact hentered
            · exact hactivity
          · apply hwrite _ _ .endIf .endIf
            refine List.foldlRecOn _ _ hentered fun walk hwalk entry hentry => ?_
            obtain ⟨branch, position⟩ := entry
            have hbranch : branch ∈ openBranches flow node := (List.mem_zipIdx' hentry).2 ▸
              List.getElem_mem _
            exact ih _ _ (fun _ => hopen node hnode branch hbranch)
              (hwrite _ _ _ (.opening hnode hbranch _ _) hwalk)

theorem walkAll_invariant_of_led (hstart : P (Walk.write {} 0 .start)) :
    P (walkAll flow graph) := by
  -- Every run begins at a node that was not visited before.
  have hrun := walkFrom_invariant_of_led graph hopen hwrite hvisit hjump
  refine List.foldlRecOn (motive := P) _ _
    (hrun _ 0 _ (fun hid => absurd hid List.not_mem_nil) hstart) fun walk hwalk id _ => ?_
  split
  · exact hwalk
  · rename_i hnew
    exact hrun _ 0 id (fun hid => absurd (List.contains_iff_mem.2 hid) hnew) hwalk

end Led

variable (hjump : ∀ walk depth id, id ∈ walk.visited → P walk → P (walk.jump depth id))

include hwrite hvisit hjump

theorem walkFrom_invariant (fuel depth : Nat) (id : Text) {walk : Walk} (hwalk : P walk) :
    P (walkFrom flow graph fuel depth id walk) :=
  walkFrom_invariant_of_led graph (R := fun _ => True) (fun _ _ _ _ => trivial) hwrite hvisit
    (fun walk depth id hid _ => hjump walk depth id hid) fuel depth id (fun _ => trivial) hwalk

theorem walkAll_invariant (hstart : P (Walk.write {} 0 .start)) : P (walkAll flow graph) :=
  walkAll_invariant_of_led graph (R := fun _ => True) (fun _ _ _ _ => trivial) hwrite hvisit
    (fun walk depth id hid _ => hjump walk depth id hid) hstart

end Invariants

theorem marks_jump (walk : Walk) (depth : Nat) (id : Text) :
    (walk.jump depth id).marks = walk.marks ++ [.line ⟨depth, .goto id⟩] := by
  unfold Walk.jump
  split <;> rfl

/-- Whatever a walk through the flow writes is of one kind. -/
structure Utters (flow : Flow) (Q : Phrase → Prop) : Prop where
  start : Q .start
  stop : Q .stop
  endIf : Q .endIf
  goto : ∀ id, Q (.goto id)
  label : ∀ id, Q (.label id)
  activity : ∀ node ∈ flow.nodes, Q (.activity node.caption)
  opening : ∀ node ∈ flow.nodes, ∀ branch ∈ openBranches flow node, ∀ count position,
    Q (branchOpening node count position branch.2)

namespace Utters

variable {flow : Flow} {Q : Phrase → Prop} (h : Utters flow Q)

include h

theorem of_written {phrase : Phrase} (hphrase : Written flow phrase) : Q phrase := by
  cases hphrase with
  | stop => exact h.stop
  | endIf => exact h.endIf
  | activity hnode => exact h.activity _ hnode
  | opening hnode hbranch count position => exact h.opening _ hnode _ hbranch count position

theorem outline_walkAll (graph : Graph) :
    ∀ line ∈ (walkAll flow graph).outline, Q line.phrase := by
  intro line hline
  rw [outline_eq, List.mem_filterMap] at hline
  obtain ⟨mark, hmark, hline⟩ := hline
  -- The targets grow along the walk, so the invariant is about the final ones from the start.
  generalize (walkAll flow graph).targets = targets at hline
  have happend : ∀ (walk : Walk) (mark : Mark),
      (∀ line, mark.line? targets = some line → Q line.phrase) →
      (∀ mark ∈ walk.marks, ∀ line, mark.line? targets = some line → Q line.phrase) →
      ∀ other ∈ walk.marks ++ [mark], ∀ line, other.line? targets = some line →
        Q line.phrase := by
    intro walk mark hmark hall
    rw [List.forall_mem_append, List.forall_mem_singleton]
    exact ⟨hall, hmark⟩
  have hwritten : ∀ written line, (Mark.line written).line? targets = some line →
      Q written.phrase → Q line.phrase :=
    fun _ _ heq hphrase => Option.some.inj heq ▸ hphrase
  have hall : ∀ mark ∈ (walkAll flow graph).marks, ∀ line,
      mark.line? targets = some line → Q line.phrase := by
    apply walkAll_invariant graph
      (P := fun walk => ∀ mark ∈ walk.marks, ∀ line, mark.line? targets = some line → Q line.phrase)
    · exact fun walk _ phrase hphrase hall =>
        happend walk _ (fun line heq => hwritten _ line heq (h.of_written hphrase)) hall
    · refine fun walk depth id _ hall => happend walk _ (fun line heq => ?_) hall
      obtain ⟨-, rfl⟩ : id ∈ targets ∧ (⟨depth, .label id⟩ : Line) = line := by
        simpa [Mark.line?] using heq
      exact h.label id
    · intro walk depth id _ hall
      rw [marks_jump]
      exact happend walk _ (fun line heq => hwritten _ line heq (h.goto id)) hall
    · simp [Walk.write, Mark.line?, h.start]
  exact hall mark hmark line hline

end Utters

theorem PlainFlow.utters {flow : Flow} (h : PlainFlow flow) : Utters flow Phrase.Plain where
  start := trivial
  stop := trivial
  endIf := trivial
  goto _ := trivial
  label _ := trivial
  activity := by
    intro node hnode
    obtain ⟨s, htitle, hs, -⟩ := (h.nodes node hnode).titled
    exact ⟨s, (h.nodes node hnode).said.1.trans htitle, hs⟩
  opening := by
    intro node hnode branch hbranch count position
    obtain ⟨s, htitle, hs, -⟩ := (h.nodes node hnode).titled
    have hlabel := (h.mem_openBranches hnode hbranch).2
    have hcondition : ∃ s, question node = .str s ∧ PlainLine s :=
      ⟨s, (h.nodes node hnode).said.2.trans htitle, hs⟩
    unfold branchOpening
    split
    · exact ⟨hcondition, hlabel⟩
    · split
      · exact hlabel
      · exact ⟨hcondition, hlabel⟩

theorem subset_targets_walkFrom (flow : Flow) (graph : Graph) (fuel depth : Nat) (id : Text)
    (walk : Walk) : walk.targets ⊆ (walkFrom flow graph fuel depth id walk).targets := by
  apply walkFrom_invariant graph (P := fun later => walk.targets ⊆ later.targets)
  · exact fun _ _ _ _ hsub => hsub
  · exact fun _ _ _ _ hsub => hsub
  · intro later depth id _ hsub
    unfold Walk.jump
    split
    · exact hsub
    · exact fun _ hid => List.mem_append_left _ (hsub hid)
  · exact fun _ hid => hid

namespace Walk

def machine (targets : List Text) (walk : Walk) : Machine :=
  Machine.run {} ((walk.marks.filterMap (Mark.line? targets)).map fun line =>
    line.phrase.statement)

variable {targets : List Text} {walk : Walk} {depth : Nat} {id : Text}

theorem machine_write {phrase : Phrase} :
    (walk.write depth phrase).machine targets =
      (walk.machine targets).step phrase.statement := by
  simp [machine, write, Mark.line?, Machine.run, List.filterMap_append]

variable (depth) in
theorem machine_jump :
    (walk.jump depth id).machine targets = (walk.machine targets).goto (labelName id) := by
  rw [machine, marks_jump]
  exact machine_write

theorem machine_visit :
    (walk.visit depth id).machine targets =
      if id ∈ targets then (walk.machine targets).step (.label (labelName id))
      else walk.machine targets := by
  by_cases hid : id ∈ targets <;>
    simp [machine, visit, Mark.line?, Machine.run, List.filterMap_append, hid, Phrase.statement]

theorem mem_targets_jump : id ∈ (walk.jump depth id).targets := by
  unfold jump
  split
  · rename_i hid
    exact List.contains_iff_mem.1 hid
  · simp

@[simp] theorem visited_write {phrase : Phrase} :
    (walk.write depth phrase).visited = walk.visited := rfl

@[simp] theorem visited_visit : (walk.visit depth id).visited = walk.visited ++ [id] := rfl

@[simp] theorem visited_jump : (walk.jump depth id).visited = walk.visited := by
  unfold jump
  split <;> rfl

end Walk

end Flowchart.Activity
