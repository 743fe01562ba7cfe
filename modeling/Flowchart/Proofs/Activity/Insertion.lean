import Flowchart.Proofs.Activity.Coverage
import Flowchart.Proofs.Outcome
import Mathlib.Data.Char
import Mathlib.Data.List.Lex
import Mathlib.Data.List.Sort
import Mathlib.Data.Prod.Lex

/-!
# Insertion of labels

Labels can be put into the lines of a walk when it is done, each at the index where the lines of its
node begin.  The last one comes first, so that no index moves before it is used.  That makes the
outline of the walk, since the node of a label always has a line of its own: no two labels share an
index.
-/

namespace Flowchart.Activity

/-- Where the label of a node goes: before the line of this index, at the depth of the node. -/
structure Anchor where
  index : Nat
  depth : Nat
  id : Text
  deriving DecidableEq, Repr

namespace Anchor

def label (anchor : Anchor) : Line := ⟨anchor.depth, .label anchor.id⟩

def insert (lines : List Line) (anchor : Anchor) : List Line :=
  lines.insertIdx anchor.index anchor.label

def key (anchor : Anchor) : Nat ×ₗ Nat ×ₗ Text :=
  toLex (anchor.index, toLex (anchor.depth, anchor.id))

def notBefore (anchor other : Anchor) : Bool := decide (other.key ≤ anchor.key)

theorem notBefore_trans (a b c : Anchor) (hab : a.notBefore b = true)
    (hbc : b.notBefore c = true) : a.notBefore c = true :=
  decide_eq_true (le_trans (of_decide_eq_true hbc) (of_decide_eq_true hab))

theorem notBefore_total (a b : Anchor) : (a.notBefore b || b.notBefore a) = true := by
  simpa [notBefore] using le_total b.key a.key

theorem index_le_of_notBefore {anchor other : Anchor} (h : anchor.notBefore other = true) :
    other.index ≤ anchor.index := by
  rcases Prod.Lex.le_iff.1 (of_decide_eq_true h) with hlt | ⟨heq, -⟩
  · exact Nat.le_of_lt hlt
  · exact Nat.le_of_eq heq

end Anchor

def Mark.written? : Mark → Option Line
  | .line written => some written
  | .anchor _ _ => none

/-- The anchors of marks that begin behind so many lines. -/
def anchorsFrom : Nat → List Mark → List Anchor
  | _, [] => []
  | index, .line _ :: marks => anchorsFrom (index + 1) marks
  | index, .anchor depth id :: marks => ⟨index, depth, id⟩ :: anchorsFrom index marks

namespace Walk

def lines (walk : Walk) : List Line := walk.marks.filterMap Mark.written?

def anchors (walk : Walk) : List Anchor := anchorsFrom 0 walk.marks

def anchor? (walk : Walk) (id : Text) : Option Anchor := walk.anchors.find? (·.id == id)

def targetAnchors (walk : Walk) : List Anchor := walk.targets.filterMap walk.anchor?

def insertLabels (walk : Walk) : List Line :=
  (walk.targetAnchors.mergeSort Anchor.notBefore).foldl Anchor.insert walk.lines

end Walk

theorem anchorsFrom_append (index : Nat) (marks more : List Mark) :
    anchorsFrom index (marks ++ more) = anchorsFrom index marks ++
      anchorsFrom (index + (marks.filterMap Mark.written?).length) more := by
  induction marks generalizing index with
  | nil => rfl
  | cons mark marks ih =>
      cases mark with
      | line written =>
          rw [List.cons_append, anchorsFrom, anchorsFrom, ih, List.filterMap_cons, Mark.written?,
            List.length_cons, Nat.add_right_comm, Nat.add_assoc]
      | anchor depth id =>
          rw [List.cons_append, anchorsFrom, anchorsFrom, ih, List.cons_append]
          rfl

namespace Walk

variable (walk : Walk) (depth : Nat)

@[simp] theorem lines_write (phrase : Phrase) :
    (walk.write depth phrase).lines = walk.lines ++ [⟨depth, phrase⟩] := by
  simp [lines, write, Mark.written?]

@[simp] theorem anchors_write (phrase : Phrase) :
    (walk.write depth phrase).anchors = walk.anchors := by
  simp [anchors, write, anchorsFrom_append, anchorsFrom]

@[simp] theorem lines_visit (id : Text) : (walk.visit depth id).lines = walk.lines := by
  simp [lines, visit, Mark.written?]

@[simp] theorem anchors_visit (id : Text) :
    (walk.visit depth id).anchors = walk.anchors ++ [⟨walk.lines.length, depth, id⟩] := by
  simp [anchors, lines, visit, anchorsFrom_append, anchorsFrom]

@[simp] theorem lines_jump (id : Text) :
    (walk.jump depth id).lines = walk.lines ++ [⟨depth, .goto id⟩] := by
  simp [lines, marks_jump, Mark.written?]

@[simp] theorem anchors_jump (id : Text) : (walk.jump depth id).anchors = walk.anchors := by
  simp [anchors, marks_jump, anchorsFrom_append, anchorsFrom]

end Walk

theorem map_id_anchorsFrom (index : Nat) (marks : List Mark) :
    (anchorsFrom index marks).map Anchor.id = marks.filterMap Mark.anchor? := by
  induction marks generalizing index with
  | nil => rfl
  | cons mark marks ih =>
      cases mark with
      | line written => exact ih (index + 1)
      | anchor depth id => exact congrArg (id :: ·) (ih index)

theorem index_le_of_mem {index : Nat} {marks : List Mark} {anchor : Anchor}
    (h : anchor ∈ anchorsFrom index marks) : index ≤ anchor.index := by
  induction marks generalizing index with
  | nil => cases h
  | cons mark marks ih =>
      cases mark with
      | line written => exact Nat.le_of_succ_le (ih h)
      | anchor depth id =>
          rcases List.mem_cons.1 h with rfl | h
          · exact Nat.le_refl _
          · exact ih h

theorem insertIdx_length_append {α : Type} (before after : List α) (a : α) :
    (before ++ after).insertIdx before.length a = before ++ a :: after := by
  induction before with
  | nil => rfl
  | cons b before ih => exact congrArg (b :: ·) ih

/-- Whatever stands before, the labels of marks come to stand where their anchors were. -/
theorem foldr_insert (targets : List Text) (before : List Line) (marks : List Mark) :
    ((anchorsFrom before.length marks).filter fun anchor => targets.contains anchor.id).foldr
        (fun anchor lines => Anchor.insert lines anchor)
        (before ++ marks.filterMap Mark.written?) =
      before ++ marks.filterMap (Mark.line? targets) := by
  induction marks generalizing before with
  | nil => rfl
  | cons mark marks ih =>
      cases mark with
      | line written =>
          have hrest := ih (before ++ [written])
          rw [List.length_append, List.length_singleton, List.append_assoc,
            List.append_assoc] at hrest
          exact hrest
      | anchor depth id =>
          rw [List.filterMap_cons, List.filterMap_cons, anchorsFrom, List.filter_cons]
          simp only [Mark.written?, Mark.line?]
          split
          · rw [List.foldr_cons, ih before]
            exact insertIdx_length_append before _ _
          · exact ih before

def Led (flow : Flow) (id : Text) : Prop :=
  ∃ node ∈ flow.nodes, id ∈ (openBranches flow node).map Prod.fst

theorem led_of_branch {flow : Flow} :
    ∀ node ∈ flow.nodes, ∀ branch ∈ openBranches flow node, Led flow branch.1 :=
  fun node hnode _ hbranch => ⟨node, hnode, List.mem_map_of_mem hbranch⟩

theorem led_of_target (flow : Flow) (graph : Graph) :
    ∀ id ∈ (walkAll flow graph).targets, Led flow id := by
  apply walkAll_invariant_of_led graph (P := fun walk => ∀ id ∈ walk.targets, Led flow id)
    led_of_branch
  · exact fun _ _ _ _ htargets => htargets
  · exact fun _ _ _ _ htargets => htargets
  · intro walk depth id _ hled htargets other hother
    rcases mem_targets_jump_iff.1 hother with hother | rfl
    · exact htargets other hother
    · exact hled
  · exact fun id hid => absurd hid List.not_mem_nil

theorem Led.not_passedOver {flow : Flow} {node : Node} (h : Led flow node.id) :
    ¬ PassedOver flow node := by
  rintro ⟨hmarker, -⟩
  obtain ⟨source, hsource, htarget⟩ := h
  obtain ⟨hid, outlet, houtlet, hto⟩ := mem_openBranches_targets.1 htarget
  have hdegree : 0 < (Graph.ofFlow flow).inDegree node.id := by
    rw [Graph.inDegree, List.countP_pos_iff]
    exact ⟨⟨source.id, outlet.target, outlet.id.edgeKey⟩,
      Graph.mem_edges_ofFlow.2 ⟨source, hsource, outlet, houtlet, hto ▸ hid, rfl⟩, by simp [hto]⟩
  simp only [isStartMarker, Bool.and_eq_true, beq_iff_eq] at hmarker
  omega

theorem exists_adds_walkNew {flow : Flow} {ids : List Text} {walk : Walk}
    (hids : ids ⊆ flow.nodeIds) (hknown : Known flow walk.visited) :
    ∃ run, Adds flow ids walk (ids.foldl (walkNew flow (Graph.ofFlow flow)) walk) run := by
  induction ids generalizing walk with
  | nil => exact ⟨[], .nothing flow walk⟩
  | cons id ids ih =>
      obtain ⟨hid, hids⟩ := List.cons_subset.1 hids
      rw [List.foldl_cons]
      by_cases hvisited : id ∈ walk.visited
      · obtain ⟨run, hrun⟩ := ih hids hknown
        rw [walkNew_of_visited hvisited]
        exact ⟨run, hrun.marks, hrun.visited, hrun.recites, .known hvisited hrun.visits⟩
      · obtain ⟨first, hfirst⟩ :=
          covers flow (flow.nodes.length + 1) 0 id walk hid hknown (by omega)
        obtain ⟨others, hothers⟩ := ih hids (hfirst.known hknown hid)
        rw [walkNew_of_new hvisited]
        exact ⟨_, hfirst.append hothers⟩

theorem recites_walkAll (flow : Flow) :
    Recites flow (walkAll flow (Graph.ofFlow flow)).marks := by
  by_cases hne : flow.nodes = []
  · have hnodes : flow.nodeIds = [] := by simp [Flow.nodeIds, hne]
    have hnone : ∀ id, flow.lastNode? id = none := by simp [Flow.lastNode?, hne]
    have hwalk : walkAll flow (Graph.ofFlow flow) = Walk.write {} 0 .start := by
      simp [walkAll, hnodes, walkFrom, hnone, Walk.write]
    rw [hwalk]
    exact .line _ .nil
  · have hknown : Known flow (Walk.write {} 0 .start).visited :=
      ⟨List.nodup_nil, List.nil_subset _⟩
    have hentrance := entrance_mem hne
    obtain ⟨first, hfirst⟩ := covers flow (flow.nodes.length + 1) 0 (entrance flow)
      (Walk.write {} 0 .start) hentrance hknown (by simp)
    obtain ⟨others, hothers⟩ := exists_adds_walkNew (List.Subset.refl flow.nodeIds)
      (hfirst.known hknown hentrance)
    have hall := ((Adds.write flow {} 0 .start).append hfirst).append hothers
    have hmarks : (walkAll flow (Graph.ofFlow flow)).marks = _ := hall.marks
    rw [hmarks]
    exact hall.recites

/-- What stands at the anchors of targets is a line, and so their indices go up. -/
theorem Recites.rising {flow : Flow} {targets : List Text} {marks : List Mark}
    (h : Recites flow marks) (hled : ∀ id ∈ targets, Led flow id) (index : Nat) :
    ((anchorsFrom index marks).filter fun anchor => targets.contains anchor.id).Pairwise
      fun anchor other => anchor.index < other.index := by
  induction h generalizing index with
  | nil => exact .nil
  | line written _ ih => exact ih (index + 1)
  | @anchor depth id node rest hlast hopens _ ih =>
      rw [anchorsFrom, List.filter_cons]
      split
      · rename_i hid
        refine .cons (fun other hother => ?_) (ih index)
        have hnode : node.id = id := by simpa using List.find?_some hlast
        have htarget := hled id (List.contains_iff_mem.1 hid)
        cases hopens with
        | own _ _ rest => exact index_le_of_mem (List.mem_of_mem_filter hother)
        | passed hpassed _ _ _ => exact absurd hpassed (hnode ▸ htarget).not_passedOver
      · exact ih index

theorem ids_anchors {walk : Walk} (h : Anchored walk) :
    walk.anchors.map Anchor.id = walk.visited :=
  (map_id_anchorsFrom 0 walk.marks).trans h.anchors

theorem anchor?_eq_some_iff {walk : Walk} (h : Anchored walk) {id : Text} {anchor : Anchor} :
    walk.anchor? id = some anchor ↔ anchor ∈ walk.anchors ∧ anchor.id = id := by
  constructor
  · exact fun hfound => ⟨List.mem_of_find?_eq_some hfound, by simpa using List.find?_some hfound⟩
  · rintro ⟨hmem, rfl⟩
    cases hfound : walk.anchor? anchor.id with
    | none =>
        have hnone := List.find?_eq_none.1 hfound anchor hmem
        simp at hnone
    | some other =>
        have hother : other.id = anchor.id := by simpa using List.find?_some hfound
        have honce : (walk.anchors.map Anchor.id).Nodup := ids_anchors h ▸ h.once
        rw [List.inj_on_of_nodup_map honce (List.mem_of_find?_eq_some hfound) hmem hother]

theorem exists_anchor {walk : Walk} (h : Anchored walk) {id : Text} (hid : id ∈ walk.visited) :
    ∃ anchor, walk.anchor? id = some anchor := by
  rw [← ids_anchors h] at hid
  obtain ⟨anchor, hanchor, rfl⟩ := List.mem_map.1 hid
  exact ⟨anchor, (anchor?_eq_some_iff h).2 ⟨hanchor, rfl⟩⟩

theorem map_id_targetAnchors {walk : Walk} (h : Anchored walk) :
    walk.targetAnchors.map Anchor.id = walk.targets := by
  have hself : ∀ id ∈ walk.targets, (walk.anchor? id).map Anchor.id = some id := by
    intro id hid
    obtain ⟨anchor, hanchor⟩ := exists_anchor h (h.aimed hid)
    rw [hanchor, Option.map_some, ((anchor?_eq_some_iff h).1 hanchor).2]
  rw [Walk.targetAnchors, List.map_filterMap, List.filterMap_congr hself, List.filterMap_some]

theorem targetAnchors_perm {walk : Walk} (h : Anchored walk) :
    walk.targetAnchors.Perm
      (walk.anchors.filter fun anchor => walk.targets.contains anchor.id) := by
  have hleft : walk.targetAnchors.Nodup :=
    .of_map Anchor.id (map_id_targetAnchors h ▸ h.apart)
  have hright : walk.anchors.Nodup := .of_map Anchor.id (ids_anchors h ▸ h.once)
  rw [List.perm_ext_iff_of_nodup hleft (hright.filter _)]
  intro anchor
  simp only [Walk.targetAnchors, List.mem_filterMap, anchor?_eq_some_iff h, List.mem_filter,
    List.contains_iff_mem]
  constructor
  · rintro ⟨id, hid, hanchor, rfl⟩
    exact ⟨hanchor, hid⟩
  · exact fun hanchor => ⟨anchor.id, hanchor.2, hanchor.1, rfl⟩

theorem mergeSort_targetAnchors {walk : Walk} (h : Anchored walk)
    (hrising : (walk.anchors.filter fun anchor => walk.targets.contains anchor.id).Pairwise
      fun anchor other => anchor.index < other.index) :
    walk.targetAnchors.mergeSort Anchor.notBefore =
      (walk.anchors.filter fun anchor => walk.targets.contains anchor.id).reverse := by
  have hsorted : (walk.targetAnchors.mergeSort Anchor.notBefore).Pairwise
      fun anchor other => anchor.notBefore other = true :=
    List.pairwise_mergeSort Anchor.notBefore_trans Anchor.notBefore_total _
  have hperm := (List.mergeSort_perm walk.targetAnchors Anchor.notBefore).trans
    ((targetAnchors_perm h).trans (List.reverse_perm _).symm)
  have hfalling : (walk.targetAnchors.mergeSort Anchor.notBefore).Pairwise
      fun anchor other => other.index ≤ anchor.index :=
    hsorted.imp Anchor.index_le_of_notBefore
  refine hperm.eq_of_pairwise (fun a b ha hb hba hab => ?_) hfalling
    (List.pairwise_reverse.2 (hrising.imp Nat.le_of_lt))
  have hindices : ((walk.anchors.filter fun anchor => walk.targets.contains anchor.id).map
      Anchor.index).Nodup :=
    List.pairwise_map.2 (hrising.imp Nat.ne_of_lt)
  exact List.inj_on_of_nodup_map hindices (List.mem_reverse.1 (hperm.mem_iff.1 ha))
    (List.mem_reverse.1 hb) (Nat.le_antisymm hab hba)

theorem insertLabels_eq_outline {walk : Walk} (h : Anchored walk)
    (hrising : (walk.anchors.filter fun anchor => walk.targets.contains anchor.id).Pairwise
      fun anchor other => anchor.index < other.index) : walk.insertLabels = walk.outline := by
  rw [Walk.insertLabels, mergeSort_targetAnchors h hrising, List.foldl_reverse, outline_eq]
  exact foldr_insert walk.targets [] walk.marks

def Behind (marks : List Mark) : Prop :=
  ∀ start, start <+: marks → start.filterMap Mark.jump? ⊆ start.filterMap Mark.anchor?

theorem Behind.snoc {marks : List Mark} (h : Behind marks) {mark : Mark}
    (hmark : ∀ id, mark.jump? = some id → id ∈ marks.filterMap Mark.anchor?) :
    Behind (marks ++ [mark]) := by
  intro start hstart
  rcases List.prefix_concat_iff.1 hstart with rfl | hstart
  · rw [List.filterMap_append, List.filterMap_append]
    intro id hid
    refine List.mem_append_left _ ?_
    rcases List.mem_append.1 hid with hid | hid
    · exact h marks (List.prefix_refl _) hid
    · obtain ⟨other, hother, hjump⟩ := List.mem_filterMap.1 hid
      exact hmark id (List.mem_singleton.1 hother ▸ hjump)
  · exact h start hstart

theorem behind_nil : Behind [] := by
  intro start hstart
  rw [List.prefix_nil.1 hstart]
  exact List.Subset.refl _

theorem behind_walkAll (flow : Flow) (graph : Graph) : Behind (walkAll flow graph).marks := by
  suffices h : Anchored (walkAll flow graph) ∧ Behind (walkAll flow graph).marks from h.2
  apply walkAll_invariant graph (P := fun walk => Anchored walk ∧ Behind walk.marks)
  · rintro walk depth phrase hphrase ⟨hanchored, hbehind⟩
    obtain ⟨hlabel, hgoto⟩ := silent_of_written hphrase
    exact ⟨hanchored.write depth hlabel hgoto, hbehind.snoc (by simp [Mark.jump?, hgoto])⟩
  · rintro walk depth id hnew ⟨hanchored, hbehind⟩
    exact ⟨hanchored.visit depth hnew, hbehind.snoc (by simp [Mark.jump?])⟩
  · rintro walk depth id hvisited ⟨hanchored, hbehind⟩
    refine ⟨hanchored.jump depth hvisited, ?_⟩
    rw [marks_jump]
    refine hbehind.snoc fun other hother => ?_
    obtain rfl : id = other := Option.some.inj hother
    rwa [hanchored.anchors]
  · exact ⟨anchored_start, behind_nil.snoc (by simp [Mark.jump?, Phrase.goto?])⟩

def Line.isLabel (line : Line) : Bool := line.phrase.label?.isSome

def withoutLabels (lines : List Line) : List Line := lines.filter fun line => !line.isLabel

theorem withoutLabels_filterMap {marks : List Mark}
    (h : ∀ line, .line line ∈ marks → line.phrase.label? = none) (targets : List Text) :
    withoutLabels (marks.filterMap (Mark.line? targets)) = marks.filterMap Mark.written? := by
  rw [withoutLabels, List.filter_filterMap]
  apply List.filterMap_congr
  intro mark hmark
  cases mark with
  | line written =>
      simp [Mark.line?, Mark.written?, Option.filter, Line.isLabel, h written hmark]
  | anchor depth id =>
      by_cases hid : id ∈ targets <;>
        simp [Mark.line?, Mark.written?, Option.filter, Line.isLabel, Phrase.label?, hid]

theorem gotos_lines (walk : Walk) :
    walk.lines.filterMap (fun line => line.phrase.goto?) = walk.marks.filterMap Mark.jump? := by
  rw [Walk.lines, List.filterMap_filterMap]
  apply List.filterMap_congr
  intro mark _
  cases mark <;> rfl

/-- The label of a node stands right before the first line of the node, at the same depth, and all
else is as it was. -/
inductive Placed (flow : Flow) (walk : Walk) (id : Text) : Prop
  | intro {node : Node} {anchor : Anchor} {phrase : Phrase} {before after : List Line}
    (hnode : flow.lastNode? id = some node) (hanchor : walk.anchor? id = some anchor)
    (hown : OwnPhrase flow node phrase)
    (hlines : walk.lines = withoutLabels before ++ ⟨anchor.depth, phrase⟩ :: withoutLabels after)
    (hindex : (withoutLabels before).length = anchor.index)
    (hlabelled : walk.insertLabels =
      before ++ ⟨anchor.depth, .label id⟩ :: ⟨anchor.depth, phrase⟩ :: after)

/-- How the labels of a walk stand among its lines. -/
structure Inserted (flow : Flow) (walk : Walk) : Prop where
  outline : walk.insertLabels = walk.outline
  unlabelled : withoutLabels walk.lines = walk.lines
  kept : withoutLabels walk.insertLabels = walk.lines
  aimed : ∀ id, id ∈ walk.lines.filterMap (fun line => line.phrase.goto?) ↔ id ∈ walk.targets
  labels : (walk.insertLabels.filterMap fun line => line.phrase.label?).Perm walk.targets
  once : walk.targets.Nodup
  placed : ∀ id ∈ walk.targets, Placed flow walk id
  anchored : walk.targetAnchors.map Anchor.id = walk.targets
  apart : (walk.targetAnchors.map Anchor.index).Nodup
  behind : ∀ before depth id after, walk.insertLabels = before ++ ⟨depth, .goto id⟩ :: after →
    ∃ outer, ⟨outer, .label id⟩ ∈ before

section Whole

variable (flow : Flow)

theorem insertLabels_eq : (walkAll flow (Graph.ofFlow flow)).insertLabels =
    (walkAll flow (Graph.ofFlow flow)).outline :=
  insertLabels_eq_outline (anchored_walkAll flow _)
    ((recites_walkAll flow).rising (led_of_target flow _) 0)

theorem placed_walkAll {id : Text} (hid : id ∈ (walkAll flow (Graph.ofFlow flow)).targets) :
    Placed flow (walkAll flow (Graph.ofFlow flow)) id := by
  have hanchored := anchored_walkAll flow (Graph.ofFlow flow)
  have hled := led_of_target flow _ id hid
  have houtline := insertLabels_eq flow
  have hvisited : id ∈ (walkAll flow (Graph.ofFlow flow)).marks.filterMap Mark.anchor? :=
    hanchored.anchors ▸ hanchored.aimed hid
  obtain ⟨before, depth, node, after, hmarks, hlast, hopens⟩ :=
    (recites_walkAll flow).opens hvisited
  have hnode : node.id = id := by simpa using List.find?_some hlast
  generalize walkAll flow (Graph.ofFlow flow) = walk at *
  cases hopens with
  | passed hpassed => exact absurd hpassed (hnode ▸ hled).not_passedOver
  | @own phrase hown _ rest =>
      have hunlabelled := hanchored.unlabelled
      rw [hmarks] at hunlabelled
      -- Without the labels, as many lines stand before the anchor as its position says.
      have hbefore : withoutLabels (before.filterMap (Mark.line? walk.targets)) =
          before.filterMap Mark.written? :=
        withoutLabels_filterMap (fun line hline => hunlabelled line (by simp [hline])) _
      have hrest : withoutLabels (rest.filterMap (Mark.line? walk.targets)) =
          rest.filterMap Mark.written? :=
        withoutLabels_filterMap (fun line hline => hunlabelled line (by simp [hline])) _
      have hanchor : walk.anchor? id =
          some ⟨(before.filterMap Mark.written?).length, depth, id⟩ := by
        refine (anchor?_eq_some_iff hanchored).2 ⟨?_, rfl⟩
        rw [Walk.anchors, hmarks, anchorsFrom_append, Nat.zero_add]
        exact List.mem_append_right _ List.mem_cons_self
      have hlines : walk.lines = withoutLabels (before.filterMap (Mark.line? walk.targets)) ++
          ⟨depth, phrase⟩ :: withoutLabels (rest.filterMap (Mark.line? walk.targets)) := by
        rw [hbefore, hrest, Walk.lines, hmarks, List.filterMap_append]
        rfl
      have hlabelled : walk.insertLabels = before.filterMap (Mark.line? walk.targets) ++
          ⟨depth, .label id⟩ :: ⟨depth, phrase⟩ :: rest.filterMap (Mark.line? walk.targets) := by
        rw [houtline, outline_eq, hmarks, List.filterMap_append]
        simp [Mark.line?, hid]
      exact .intro hlast hanchor hown hlines (congrArg List.length hbefore) hlabelled

theorem label_before_goto {before after : List Line} {depth : Nat} {id : Text}
    (h : (walkAll flow (Graph.ofFlow flow)).outline = before ++ ⟨depth, .goto id⟩ :: after) :
    ∃ outer, ⟨outer, .label id⟩ ∈ before := by
  have hanchored := anchored_walkAll flow (Graph.ofFlow flow)
  have hbehind := behind_walkAll flow (Graph.ofFlow flow)
  generalize walkAll flow (Graph.ofFlow flow) = walk at *
  rw [outline_eq, List.filterMap_eq_append_iff] at h
  obtain ⟨first, second, hmarks, rfl, hsecond⟩ := h
  obtain ⟨silent, mark, rest, rfl, hsilent, hmark, -⟩ := List.filterMap_eq_cons_iff.1 hsecond
  obtain rfl : mark = .line ⟨depth, .goto id⟩ := by
    cases mark with
    | line written => exact congrArg Mark.line (Option.some.inj hmark)
    | anchor level other =>
        rw [Mark.line?] at hmark
        split at hmark
        · cases hmark
        · cases hmark
  -- The anchor was there before the jump, and as jumps lead to it, it is a label.
  have hearlier : (first ++ silent) ++ [.line ⟨depth, .goto id⟩] <+: walk.marks :=
    ⟨rest, by simp [hmarks]⟩
  have hjump : id ∈ ((first ++ silent) ++ [Mark.line ⟨depth, .goto id⟩]).filterMap Mark.jump? := by
    rw [List.filterMap_append]
    exact List.mem_append_right _ List.mem_cons_self
  have htarget : id ∈ walk.targets :=
    (hanchored.jumps id).1 ((hearlier.filterMap _).subset hjump)
  have hanchor := hbehind _ hearlier hjump
  rw [List.filterMap_append, List.mem_append] at hanchor
  obtain ⟨mark, hmem, hid⟩ := List.mem_filterMap.1 (hanchor.resolve_right (by simp [Mark.anchor?]))
  cases mark with
  | line written => cases hid
  | anchor outer other =>
      obtain rfl : other = id := Option.some.inj hid
      have hlabel : (Mark.anchor outer other).line? walk.targets = some ⟨outer, .label other⟩ :=
        if_pos (List.contains_iff_mem.2 htarget)
      rcases List.mem_append.1 hmem with hmem | hmem
      · exact ⟨outer, List.mem_filterMap.2 ⟨_, hmem, hlabel⟩⟩
      · rw [hsilent _ hmem] at hlabel
        cases hlabel

/-- The lines of a diagram with nodes are those of the walk, with the labels put in. -/
theorem exists_lines_of_write {text : Text} (hne : flow.nodes ≠ []) (h : write flow = .ok text) :
    ∃ titles lines, titleLines flow = .ok titles ∧
      (walkAll flow (Graph.ofFlow flow)).insertLabels.mapM Line.text = .ok lines ∧
      text = Text.join ['\n']
        ("@startuml".toList :: titles ++ [[]] ++ (lines ++ [[]]) ++ ["@enduml".toList]) := by
  obtain ⟨titles, htitles, h⟩ := Except.exists_of_bind_eq_ok h
  dsimp only at h
  rw [if_neg (by simpa using hne)] at h
  obtain ⟨graph, hgraph, h⟩ := Except.exists_of_bind_eq_ok h
  obtain ⟨lines, hlines, h⟩ := Except.exists_of_bind_eq_ok h
  rw [Flow.eq_ofFlow_of_graph hgraph, ← insertLabels_eq] at hlines
  exact ⟨titles, lines, htitles, hlines, (Except.ok.inj h).symm⟩

/-- Labels are put in before the nodes that are jumped to, one for each, and nothing else changes:
without them the lines are those that the walk wrote. -/
theorem inserted_walkAll : Inserted flow (walkAll flow (Graph.ofFlow flow)) ∧
    ∀ text, flow.nodes ≠ [] → write flow = .ok text → ∃ titles lines,
      titleLines flow = .ok titles ∧
      (walkAll flow (Graph.ofFlow flow)).insertLabels.mapM Line.text = .ok lines ∧
      text = Text.join ['\n']
        ("@startuml".toList :: titles ++ [[]] ++ (lines ++ [[]]) ++ ["@enduml".toList]) := by
  have hanchored := anchored_walkAll flow (Graph.ofFlow flow)
  have hrising := (recites_walkAll flow).rising (led_of_target flow (Graph.ofFlow flow)) 0
  have houtline := insertLabels_eq flow
  refine ⟨?_, fun text hne => exists_lines_of_write flow hne⟩
  exact {
    outline := houtline
    unlabelled := by
      have hlines := withoutLabels_filterMap hanchored.unlabelled []
      have hempty : ∀ mark : Mark, mark.line? [] = mark.written? := fun mark => by
        cases mark <;> rfl
      simp only [hempty] at hlines
      exact hlines
    kept := by
      rw [houtline, outline_eq]
      exact withoutLabels_filterMap hanchored.unlabelled _
    aimed := fun id => by rw [gotos_lines, hanchored.jumps]
    labels := by
      rw [houtline]
      exact hanchored.labels_outline
    once := hanchored.apart
    placed := fun id hid => placed_walkAll flow hid
    anchored := map_id_targetAnchors hanchored
    apart := ((targetAnchors_perm hanchored).map Anchor.index).nodup_iff.2
      (List.pairwise_map.2 (hrising.imp Nat.ne_of_lt))
    behind := fun before depth id after hsplit => label_before_goto flow (houtline ▸ hsplit) }

end Whole

end Flowchart.Activity
