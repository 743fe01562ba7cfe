import Flowchart.Proofs.Activity.Jumps
import Flowchart.Proofs.Activity.Telling

/-!
# Names of labels

A diagram has one label for each node that is jumped to, and it is named after the id of the node.
The names tell the nodes apart exactly where sanitizing leaves their ids apart: nothing else keeps
two labels from having the same name.
-/

namespace Flowchart.Activity

namespace Phrase

def label? : Phrase → Option Text
  | .label id => some id
  | _ => none

def goto? : Phrase → Option Text
  | .goto id => some id
  | _ => none

end Phrase

namespace Statement

def label? : Statement → Option Text
  | .label name => some name
  | _ => none

def goto? : Statement → Option Text
  | .goto name => some name
  | _ => none

end Statement

namespace Mark

def anchor? : Mark → Option Text
  | .anchor _ id => some id
  | .line _ => none

def jump? : Mark → Option Text
  | .anchor _ _ => none
  | .line written => written.phrase.goto?

end Mark

/-- Each node has dropped one anchor, and those that were jumped to are known. -/
structure Anchored (walk : Walk) : Prop where
  anchors : walk.marks.filterMap Mark.anchor? = walk.visited
  once : walk.visited.Nodup
  aimed : walk.targets ⊆ walk.visited
  apart : walk.targets.Nodup
  jumps : ∀ id, id ∈ walk.marks.filterMap Mark.jump? ↔ id ∈ walk.targets
  unlabelled : ∀ line, .line line ∈ walk.marks → line.phrase.label? = none

theorem silent_of_written {flow : Flow} {phrase : Phrase} (h : Written flow phrase) :
    phrase.label? = none ∧ phrase.goto? = none := by
  cases h with
  | opening hnode hbranch count position =>
      unfold branchOpening
      split
      · exact ⟨rfl, rfl⟩
      · split <;> exact ⟨rfl, rfl⟩
  | _ => exact ⟨rfl, rfl⟩

theorem mem_targets_jump_iff {walk : Walk} {depth : Nat} {id other : Text} :
    other ∈ (walk.jump depth id).targets ↔ other ∈ walk.targets ∨ other = id := by
  unfold Walk.jump
  split
  · rename_i hid
    refine ⟨.inl, ?_⟩
    rintro (hother | rfl)
    · exact hother
    · exact List.contains_iff_mem.1 hid
  · simp

section Anchored

variable {walk : Walk} (h : Anchored walk) (depth : Nat)

include h

theorem Anchored.write {phrase : Phrase} (hlabel : phrase.label? = none)
    (hgoto : phrase.goto? = none) : Anchored (walk.write depth phrase) where
  anchors := by
    rw [Walk.write, List.filterMap_append, h.anchors]
    exact List.append_nil _
  once := h.once
  aimed := h.aimed
  apart := h.apart
  jumps := by simp [Walk.write, List.filterMap_append, Mark.jump?, hgoto, h.jumps]
  unlabelled := by
    intro line hline
    rcases List.mem_append.1 hline with hline | hline
    · exact h.unlabelled line hline
    · obtain rfl := Mark.line.inj (List.mem_singleton.1 hline)
      exact hlabel

theorem Anchored.visit {id : Text} (hnew : id ∉ walk.visited) : Anchored (walk.visit depth id) where
  anchors := by
    rw [Walk.visit, List.filterMap_append, h.anchors]
    rfl
  once := by
    rw [Walk.visited_visit, ← List.concat_eq_append]
    exact h.once.concat hnew
  aimed := fun _ htarget => List.mem_append_left _ (h.aimed htarget)
  apart := h.apart
  jumps := by simp [Walk.visit, List.filterMap_append, Mark.jump?, h.jumps]
  unlabelled := by
    intro line hline
    rcases List.mem_append.1 hline with hline | hline
    · exact h.unlabelled line hline
    · cases List.mem_singleton.1 hline

theorem Anchored.jump {id : Text} (hvisited : id ∈ walk.visited) :
    Anchored (walk.jump depth id) where
  anchors := by
    rw [marks_jump, List.filterMap_append, h.anchors, Walk.visited_jump]
    exact List.append_nil _
  once := by
    rw [Walk.visited_jump]
    exact h.once
  aimed := by
    intro other hother
    rw [Walk.visited_jump]
    rcases mem_targets_jump_iff.1 hother with hother | rfl
    · exact h.aimed hother
    · exact hvisited
  apart := by
    unfold Walk.jump
    split
    · exact h.apart
    · rename_i hnew
      rw [← List.concat_eq_append]
      exact h.apart.concat (by simpa using hnew)
  jumps := by
    intro other
    rw [mem_targets_jump_iff, ← h.jumps, marks_jump]
    simp [List.filterMap_append, Mark.jump?, Phrase.goto?, eq_comm]
  unlabelled := by
    intro line hline
    rw [marks_jump] at hline
    rcases List.mem_append.1 hline with hline | hline
    · exact h.unlabelled line hline
    · obtain rfl := Mark.line.inj (List.mem_singleton.1 hline)
      rfl

end Anchored

theorem anchored_start : Anchored (Walk.write {} 0 .start) where
  anchors := rfl
  once := List.nodup_nil
  aimed := List.nil_subset _
  apart := List.nodup_nil
  jumps := by simp [Walk.write, Mark.jump?, Phrase.goto?]
  unlabelled := by simp [Walk.write, Phrase.label?]

theorem anchored_walkAll (flow : Flow) (graph : Graph) : Anchored (walkAll flow graph) := by
  apply walkAll_invariant graph
  · exact fun walk depth phrase hphrase h =>
      h.write depth (silent_of_written hphrase).1 (silent_of_written hphrase).2
  · exact fun walk depth id hnew h => h.visit depth hnew
  · exact fun walk depth id hvisited h => h.jump depth hvisited
  · exact anchored_start

namespace Anchored

variable {walk : Walk} (h : Anchored walk)

include h

theorem labels_outline :
    (walk.outline.filterMap fun line => line.phrase.label?).Perm walk.targets := by
  have hlabels : (walk.outline.filterMap fun line => line.phrase.label?) =
      walk.visited.filter fun id => walk.targets.contains id := by
    rw [outline_eq, List.filterMap_filterMap, ← h.anchors, List.filter_filterMap]
    apply List.filterMap_congr
    intro mark hmark
    cases mark with
    | line written => simpa [Mark.line?, Mark.anchor?] using h.unlabelled written hmark
    | anchor depth id =>
        by_cases hid : id ∈ walk.targets <;>
          simp [Mark.line?, Mark.anchor?, Phrase.label?, Option.filter, hid]
  rw [hlabels, List.perm_ext_iff_of_nodup (h.once.filter _) h.apart]
  intro id
  rw [List.mem_filter, List.contains_iff_mem]
  exact ⟨And.right, fun hid => ⟨h.aimed hid, hid⟩⟩

theorem gotos_outline (id : Text) :
    id ∈ (walk.outline.filterMap fun line => line.phrase.goto?) ↔ id ∈ walk.targets := by
  have hgotos : (walk.outline.filterMap fun line => line.phrase.goto?) =
      walk.marks.filterMap Mark.jump? := by
    rw [outline_eq, List.filterMap_filterMap]
    apply List.filterMap_congr
    intro mark hmark
    cases mark with
    | line written => rfl
    | anchor depth id =>
        by_cases hid : id ∈ walk.targets <;> simp [Mark.line?, Mark.jump?, Phrase.goto?, hid]
  rw [hgotos, h.jumps]

end Anchored

theorem head_of_nameAfter {keyword line name : Text} (hne : keyword ≠ [])
    (h : nameAfter? keyword line = some name) : line.head? = keyword.head? := by
  unfold nameAfter? at h
  split at h
  · rename_i hline
    rw [Text.eq_append_of_after? hline, List.head?_append_of_ne_nil _ hne]
  · cases h

theorem head_of_silent {phrase : Phrase} {line : Text} (hwritten : phrase.text = .ok line)
    (hlabel : phrase.label? = none) (hgoto : phrase.goto? = none) :
    ∃ c, line.head? = some c ∧ c ∈ [':', 'i', 'e', 's'] := by
  cases phrase with
  | label id => cases hlabel
  | goto id => cases hgoto
  | start => exact ⟨'s', Except.ok.inj hwritten ▸ rfl, by decide⟩
  | stop => exact ⟨'s', Except.ok.inj hwritten ▸ rfl, by decide⟩
  | endIf => exact ⟨'e', Except.ok.inj hwritten ▸ rfl, by decide⟩
  | activity value =>
      cases hvalue : escaped value with
      | error => simp [Phrase.text, hvalue, Except.map] at hwritten
      | ok s =>
          simp only [Phrase.text, hvalue, Except.map, Except.ok.injEq] at hwritten
          exact ⟨':', hwritten ▸ rfl, by decide⟩
  | otherwise tag =>
      cases htag : parentheses tag with
      | error => simp [Phrase.text, htag, Except.map] at hwritten
      | ok s =>
          simp only [Phrase.text, htag, Except.map, Except.ok.injEq] at hwritten
          exact ⟨'e', hwritten ▸ rfl, by decide⟩
  | ifThen condition tag =>
      cases hcondition : escaped condition <;> cases htag : parentheses tag <;>
        simp only [Phrase.text, hcondition, htag, bind, Except.bind, pure, Except.pure,
          reduceCtorEq, Except.ok.injEq] at hwritten
      exact ⟨'i', hwritten ▸ rfl, by decide⟩
  | elseIf condition tag =>
      cases hcondition : escaped condition <;> cases htag : parentheses tag <;>
        simp only [Phrase.text, hcondition, htag, bind, Except.bind, pure, Except.pure,
          reduceCtorEq, Except.ok.injEq] at hwritten
      exact ⟨'e', hwritten ▸ rfl, by decide⟩

theorem names_of_text {phrase : Phrase} {line : Text} (hwritten : phrase.text = .ok line) :
    (Statement.read? line).bind Statement.label? = phrase.label?.map labelName ∧
      (Statement.read? line).bind Statement.goto? = phrase.goto?.map labelName := by
  -- The first letter tells labels and gotos from all other lines.
  have hsilent : phrase.label? = none → phrase.goto? = none →
      (Statement.read? line).bind Statement.label? = none ∧
        (Statement.read? line).bind Statement.goto? = none := by
    intro hlabel hgoto
    obtain ⟨c, hhead, hc⟩ := head_of_silent hwritten hlabel hgoto
    constructor
    · rw [Option.bind_eq_none_iff]
      intro statement hread
      cases statement with
      | label name =>
          rw [head_of_nameAfter (by decide) (readFrom_of_read hread)] at hhead
          exact absurd (Option.some.inj hhead ▸ hc) (by decide)
      | _ => rfl
    · rw [Option.bind_eq_none_iff]
      intro statement hread
      cases statement with
      | goto name =>
          rw [head_of_nameAfter (by decide) (readFrom_of_read hread)] at hhead
          exact absurd (Option.some.inj hhead ▸ hc) (by decide)
      | _ => rfl
  cases phrase with
  | label id =>
      obtain rfl := Except.ok.inj hwritten
      have hread : Statement.read? ("label ".toList ++ labelName id) =
          some (.label (labelName id)) := (spells_label id).read
      rw [hread]
      exact ⟨rfl, rfl⟩
  | goto id =>
      obtain rfl := Except.ok.inj hwritten
      have hread : Statement.read? ("goto ".toList ++ labelName id) =
          some (.goto (labelName id)) := (spells_goto id).read
      rw [hread]
      exact ⟨rfl, rfl⟩
  | _ => exact hsilent rfl rfl

theorem Told.names {outline : List Line} {lines : List (Nat × Text)} (h : Told outline lines) :
    ((lines.map Prod.snd).filterMap Statement.read?).filterMap Statement.label? =
        (outline.filterMap fun line => line.phrase.label?).map labelName ∧
      ((lines.map Prod.snd).filterMap Statement.read?).filterMap Statement.goto? =
        (outline.filterMap fun line => line.phrase.goto?).map labelName := by
  obtain ⟨hwritten, -⟩ := h
  simp only [List.filterMap_filterMap, List.map_filterMap]
  induction hwritten with
  | nil => exact ⟨rfl, rfl⟩
  | cons hline _ ih =>
      obtain ⟨hlabel, hgoto⟩ := names_of_text hline
      rw [List.map_cons, List.filterMap_cons, List.filterMap_cons, List.filterMap_cons,
        List.filterMap_cons, hlabel, hgoto, ih.1, ih.2]
      exact ⟨rfl, rfl⟩

theorem statements_ofLines {titles : List Text} (htitles : ∀ title ∈ titles, Titles title)
    {lines : List (Nat × Text)} (htidy : ∀ line ∈ lines, Tidy line.2) :
    (Script.ofLines (titles.map Text.trim ++ lines.map Prod.snd)).statements.filterMap
        Statement.read? = (lines.map Prod.snd).filterMap Statement.read? := by
  have hsilent : ((titles.map Text.trim).filter fun line => (title? line).isNone).filterMap
      Statement.read? = [] := by
    rw [List.filterMap_eq_nil_iff]
    intro line hline
    obtain ⟨title, htitle, rfl⟩ := List.mem_map.1 (List.mem_of_mem_filter hline)
    exact (htitles title htitle).silent
  have hall : (lines.map Prod.snd).filter (fun line => (title? line).isNone) =
      lines.map Prod.snd := by
    rw [List.filter_eq_self]
    intro line hline
    obtain ⟨written, hwritten, rfl⟩ := List.mem_map.1 hline
    rw [(htidy written hwritten).no_title]
    rfl
  rw [Script.ofLines, List.filter_append, List.filterMap_append, hsilent, hall, List.nil_append]

def jumpTargets (flow : Flow) : List Text := (walkAll flow (Graph.ofFlow flow)).targets

/-- What the statements of a diagram say about the jumps of a flow. -/
structure Labelling (flow : Flow) (said : List Statement) : Prop where
  labels : (said.filterMap Statement.label?).Perm ((jumpTargets flow).map labelName)
  gotos : ∃ jumps : List Text, said.filterMap Statement.goto? = jumps.map labelName ∧
    ∀ id, id ∈ jumps ↔ id ∈ jumpTargets flow
  /-- No name is declared twice exactly where the ids of all targets are sanitized apart. -/
  once : (said.filterMap Statement.label?).Nodup ↔ ∀ id ∈ jumpTargets flow,
    ∀ other ∈ jumpTargets flow, UniqueIds.sanitize id = UniqueIds.sanitize other → id = other
  /-- Then each name stands for the first vertex behind the one line that declares it. -/
  bound : (said.filterMap Statement.label?).Nodup → ∀ id ∈ jumpTargets flow,
    ∃ before after later, said = before ++ .label (labelName id) :: after ∧
      (Machine.outcome said).vertices = (({} : Machine).run before).vertices ++ later ∧
      (Machine.outcome said).labels.lookup (labelName id) = later.head?

theorem labelName_eq_iff {id other : Text} :
    labelName id = labelName other ↔ UniqueIds.sanitize id = UniqueIds.sanitize other :=
  List.append_right_inj _

theorem not_mem_of_nodup {before after : List Statement} {name : Text}
    (h : ((before ++ .label name :: after).filterMap Statement.label?).Nodup) :
    .label name ∉ before := by
  intro hmem
  have hdeclared : name ∈ before.filterMap Statement.label? :=
    List.mem_filterMap.2 ⟨_, hmem, rfl⟩
  rw [List.filterMap_append] at h
  exact (List.nodup_append.1 h).2.2 name hdeclared name List.mem_cons_self rfl

/-- A spoken flow is written with one label for each node that is jumped to. The names of the labels
are as different as the sanitized ids are. -/
theorem labelled_of_spoken {flow : Flow} (h : SpokenFlow flow) (hne : flow.nodes ≠ []) :
    ∃ text script, write flow = .ok text ∧ Script.read text = .ok script ∧
      Labelling flow (script.statements.filterMap Statement.read?) := by
  obtain ⟨text, titles, lines, hwrite, -, hread, htitles, htold⟩ := exists_script_of_spoken h hne
  have hanchored := anchored_walkAll flow (Graph.ofFlow flow)
  obtain ⟨hlabels, hgotos⟩ := htold.names
  refine ⟨text, _, hwrite, hread, ?_⟩
  rw [statements_ofLines htitles htold.tidy]
  generalize (lines.map Prod.snd).filterMap Statement.read? = said at *
  have hperm : (said.filterMap Statement.label?).Perm ((jumpTargets flow).map labelName) := by
    rw [hlabels]
    exact hanchored.labels_outline.map _
  exact {
    labels := hperm
    gotos := ⟨_, hgotos, hanchored.gotos_outline⟩
    once := by
      rw [hperm.nodup_iff, jumpTargets, List.nodup_map_iff_inj_on hanchored.apart]
      simp only [labelName_eq_iff]
    bound := by
      intro hnodup id hid
      obtain ⟨statement, hmem, hstatement⟩ := List.mem_filterMap.1
        (hperm.mem_iff.2 (List.mem_map_of_mem hid))
      obtain rfl : statement = .label (labelName id) := by
        cases statement <;> simp_all [Statement.label?]
      obtain ⟨before, after, rfl⟩ := List.append_of_mem hmem
      obtain ⟨later, hlater⟩ := Machine.lookup_outcome after (not_mem_of_nodup hnodup)
      exact ⟨before, after, later, rfl, hlater⟩ }

/-- Two nodes that are both jumped to, with ids that differ in a blank. -/
def clashingFlow : Flow where
  id := "f".toList
  title := .null
  start := "s".toList
  nodes := [
    { id := "s".toList, title := .str "S".toList, outlets := [
      { id := .str "s-1".toList, target := "a b".toList },
      { id := .str "s-2".toList, target := "a_b".toList }] },
    { id := "a b".toList, title := .str "A".toList, outlets := [
      { id := .str "x".toList, target := "a_b".toList }] },
    { id := "a_b".toList, title := .str "B".toList, outlets := [
      { id := .str "y".toList, target := "a b".toList }] }]

theorem spoken_clashingFlow : SpokenFlow clashingFlow where
  title := .inl rfl
  nodes := by
    have hspoken : ∀ node ∈ clashingFlow.nodes,
        (∃ s ∈ node.title.text?, PlainLine s) ∧ node.content.isVoid = true ∧
          ∀ outlet ∈ node.outlets, outlet.label.isVoid = true ∧ outlet.Keyed := by decide
    intro node hnode
    obtain ⟨⟨s, hs, hplain⟩, hvoid, houtlets⟩ := hspoken node hnode
    have htitle := Json.eq_str_of_text? hs
    exact {
      caption := ⟨s, by rw [Node.caption, Json.orElse, if_pos hvoid, htitle], hplain.spoken⟩
      question := ⟨s, by rw [question, htitle, Json.orElse, if_neg (by simp [hplain.not_void])],
        hplain.spoken⟩
      labelled := fun outlet houtlet => .inl (houtlets outlet houtlet).1
      keyed := fun outlet houtlet => (houtlets outlet houtlet).2 }

/-- Both labels of this diagram have the same name. -/
theorem labelled_clashingFlow :
    (SpokenFlow clashingFlow ∧ clashingFlow.nodes ≠ []) ∧
      (jumpTargets clashingFlow).map labelName = ["label_a_b".toList, "label_a_b".toList] ∧
      ∃ text script, write clashingFlow = .ok text ∧ Script.read text = .ok script ∧
        Labelling clashingFlow (script.statements.filterMap Statement.read?) :=
  ⟨⟨spoken_clashingFlow, by decide⟩, by decide,
    labelled_of_spoken spoken_clashingFlow (by decide)⟩

end Flowchart.Activity
