import Flowchart.Proofs.Activity.Effects
import Flowchart.Proofs.Activity.Framing
import Flowchart.Proofs.Activity.Walking

/-!
# Flows that can be told

What a flow says has to be texts that fit on a line and begin no comment. Its diagram can be read
then, whatever else the texts hold, and has a node at least: statements never take a vertex away.
-/

namespace Flowchart.Activity

namespace Machine

theorem vertices_run_ne_nil (m : Machine) {statements : List Statement} (h : .start ∈ statements) :
    (m.run statements).vertices ≠ [] := by
  obtain ⟨before, after, rfl⟩ := List.append_of_mem h
  rw [run, List.foldl_append]
  let entered := step (before.foldl step m) .start
  have hstart : nextVertex (before.foldl step m) .start ∈ entered.vertices := by
    rw [vertices_step]
    exact List.mem_append_right _ (List.mem_singleton_self _)
  exact List.ne_nil_of_mem ((entered.vertices_prefix_run after).subset hstart)

end Machine

def SpokenValue (value : Json) : Prop := ∃ s, value = .str s ∧ Spoken s

def SpokenLabel (label : Json) : Prop := label.isVoid = true ∨ SpokenValue label

structure SpokenNode (node : Node) : Prop where
  caption : SpokenValue node.caption
  question : SpokenValue (question node)
  labelled : ∀ outlet ∈ node.outlets, SpokenLabel outlet.label
  keyed : ∀ outlet ∈ node.outlets, outlet.Keyed

structure SpokenFlow (flow : Flow) : Prop where
  title : SpokenLabel flow.title
  nodes : ∀ node ∈ flow.nodes, SpokenNode node

namespace Phrase

def Spoken : Phrase → Prop
  | activity value => SpokenValue value
  | ifThen condition tag | elseIf condition tag => SpokenValue condition ∧ SpokenLabel tag
  | otherwise tag => SpokenLabel tag
  | start | stop | endIf | goto _ | label _ => True

end Phrase

theorem SpokenFlow.utters {flow : Flow} (h : SpokenFlow flow) : Utters flow Phrase.Spoken where
  start := trivial
  stop := trivial
  endIf := trivial
  goto _ := trivial
  label _ := trivial
  activity node hnode := (h.nodes node hnode).caption
  opening := by
    intro node hnode branch hbranch count position
    have hspoken := h.nodes node hnode
    have hlabel : SpokenLabel branch.2 := by
      obtain ⟨pair, hpair, rfl⟩ := List.mem_map.1 hbranch
      exact Node.labels_of_branches plainLine_yes.spoken plainLine_no.spoken hspoken.labelled _
        (List.mem_of_mem_filter hpair)
    unfold branchOpening
    split
    · exact ⟨hspoken.question, hlabel⟩
    · split
      · exact hlabel
      · exact ⟨hspoken.question, hlabel⟩

theorem parentheses_of_spokenLabel {label : Json} (h : SpokenLabel label) :
    ∃ name, SpokenName name ∧ parentheses label = .ok (tag name) := by
  cases hvoid : label.isVoid with
  | true => exact ⟨none, by simp [SpokenName], by simp [parentheses, hvoid, tag]⟩
  | false =>
      obtain ⟨s, rfl, hs⟩ := h.resolve_left (by simp [hvoid])
      refine ⟨some s, fun t ht => Option.some.inj ht ▸ hs, ?_⟩
      simp [parentheses, hvoid, tag, escaped, Except.map]

theorem exists_tidy {phrase : Phrase} (h : phrase.Spoken) :
    ∃ line, phrase.text = .ok line ∧ Tidy line := by
  cases phrase with
  | start => exact ⟨_, rfl, spells_start.tidy⟩
  | stop => exact ⟨_, rfl, spells_stop.tidy⟩
  | endIf => exact ⟨_, rfl, spells_endIf.tidy⟩
  | goto id => exact ⟨_, rfl, (spells_goto id).tidy⟩
  | label id => exact ⟨_, rfl, (spells_label id).tidy⟩
  | activity value =>
      obtain ⟨s, rfl, hs⟩ := h
      exact ⟨_, rfl, tidy_activity hs⟩
  | ifThen condition label =>
      obtain ⟨⟨s, rfl, hs⟩, hlabel⟩ := h
      obtain ⟨name, hname, hparentheses⟩ := parentheses_of_spokenLabel hlabel
      refine ⟨_, ?_, tidy_ifThen hs hname⟩
      simp [Phrase.text, escaped, hparentheses, conditionText, bind, Except.bind, pure, Except.pure]
  | elseIf condition label =>
      obtain ⟨⟨s, rfl, hs⟩, hlabel⟩ := h
      obtain ⟨name, hname, hparentheses⟩ := parentheses_of_spokenLabel hlabel
      refine ⟨_, ?_, tidy_elseIf hs hname⟩
      simp [Phrase.text, escaped, hparentheses, conditionText, bind, Except.bind, pure, Except.pure]
  | otherwise label =>
      obtain ⟨name, hname, hparentheses⟩ := parentheses_of_spokenLabel h
      exact ⟨_, by simp [Phrase.text, hparentheses, Except.map], tidy_otherwise hname⟩

structure Told (outline : List Line) (lines : List (Nat × Text)) : Prop where
  written : List.Forall₂ (fun line written => line.phrase.text = .ok written.2) outline lines
  tidy : ∀ line ∈ lines, Tidy line.2

theorem exists_told {outline : List Line} (h : ∀ line ∈ outline, line.phrase.Spoken) :
    ∃ lines : List (Nat × Text), outline.mapM Line.text = .ok (lines.map indented) ∧
      Told outline lines := by
  obtain ⟨lines, hlines, hall⟩ := exists_lines
    (Q := fun phrase text => phrase.text = .ok text ∧ Tidy text) fun line hline =>
      (exists_tidy (h line hline)).imp fun _ htidy => ⟨htidy.1, htidy⟩
  refine ⟨lines, hlines, hall.imp fun _ _ hline => hline.1, ?_⟩
  clear hlines h
  induction hall with
  | nil => simp
  | cons hline _ ih => exact List.forall_mem_cons.2 ⟨hline.2, ih⟩

theorem Told.start_mem {outline : List Line} {lines : List (Nat × Text)} (h : Told outline lines)
    (hstart : ⟨0, .start⟩ ∈ outline) : "start".toList ∈ lines.map Prod.snd := by
  obtain ⟨hwritten, -⟩ := h
  induction hwritten with
  | nil => cases hstart
  | cons hline _ ih =>
      rcases List.mem_cons.1 hstart with rfl | hstart
      · rw [List.map_cons, ← Except.ok.inj hline]
        exact List.mem_cons_self
      · exact List.mem_cons_of_mem _ (ih hstart)

theorem commentless_flattened {s : Text} (h : Commentless s) :
    Commentless (Text.replace '\n' [' '] s) := by
  have hmap : Text.replace '\n' [' '] s = s.map fun c => if c == '\n' then ' ' else c := by
    rw [← List.flatMap_pure_eq_map]
    refine List.flatMap_congr fun c _ => ?_
    simp only [Function.comp]
    split <;> rfl
  rw [hmap, Commentless, List.isChain_map]
  refine h.imp fun c d hnext hc hd => ?_
  split at hc
  · exact absurd hc (by decide)
  · split at hd
    · exact absurd hd (by decide)
    · exact hnext hc hd

theorem titles_line {s : Text} (h : Spoken s) :
    Titles ("title ".toList ++ Text.replace '\n' [' '] s) where
  calm := by
    change Calm (Text.trim ('t' :: ("itle ".toList ++ Text.replace '\n' [' '] s)))
    rw [Text.trim_cons (by decide)]
    exact ⟨rfl, rfl, by simp⟩
  silent := by
    change Statement.read? (Text.trim ('t' :: ("itle ".toList ++ Text.replace '\n' [' '] s))) = none
    rw [Text.trim_cons (by decide)]
    rfl
  unbroken := by
    intro c hc
    rcases List.mem_append.1 hc with hc | hc
    · exact Text.none_of_all rfl c hc
    · obtain ⟨d, hd, hc⟩ := List.mem_flatMap.1 hc
      split at hc
      · rw [List.mem_singleton.1 hc]
        decide
      · rename_i hfeed
        rw [List.mem_singleton.1 hc, Bool.eq_false_iff]
        intro hbreak
        exact hfeed (beq_iff_eq.2 (h.unbroken d hd hbreak))
  commentless := (commentless_flattened (commentless_of_occursIn h.uncommented)).after (by decide)

theorem titleLines_of_spoken {flow : Flow} (h : SpokenFlow flow) :
    ∃ titles, titleLines flow = .ok titles ∧ ∀ title ∈ titles, Titles title := by
  cases hvoid : flow.title.isVoid with
  | true => exact ⟨[], by simp [titleLines, hvoid], by simp⟩
  | false =>
      obtain ⟨s, htitle, hs⟩ := h.title.resolve_left (by simp [hvoid])
      refine ⟨_, ?_, List.forall_mem_singleton.2 (titles_line hs)⟩
      rw [titleLines, hvoid, htitle]
      rfl

theorem start_mem_outline (flow : Flow) (graph : Graph) :
    ⟨0, .start⟩ ∈ (walkAll flow graph).outline := by
  rw [outline_eq, List.mem_filterMap]
  refine ⟨.line ⟨0, .start⟩, ?_, rfl⟩
  apply walkAll_invariant graph (P := fun walk => Mark.line ⟨0, .start⟩ ∈ walk.marks)
  · exact fun walk depth phrase _ hmem => List.mem_append_left _ hmem
  · exact fun walk depth id _ hmem => List.mem_append_left _ hmem
  · intro walk depth id _ hmem
    rw [marks_jump]
    exact List.mem_append_left _ hmem
  · exact List.mem_singleton_self _

theorem Script.nodes_run_ne_nil {lines : List Text} (h : "start".toList ∈ lines) :
    (ofLines lines).run.nodes ≠ [] := by
  have hstart : Statement.start ∈ (ofLines lines).statements.filterMap Statement.read? :=
    List.mem_filterMap.2 ⟨_, List.mem_filter.2 ⟨h, rfl⟩, rfl⟩
  have hvertices : (ofLines lines).run.vertices ≠ [] := by
    rw [run, Machine.vertices_finish]
    exact Machine.vertices_run_ne_nil _ hstart
  simpa [Machine.nodes, Machine.vertices] using hvertices

/-- A spoken flow is written, and the script of its diagram is read line by line. -/
theorem exists_script_of_spoken {flow : Flow} (h : SpokenFlow flow) (hne : flow.nodes ≠ []) :
    ∃ (text : Text) (titles : List Text) (lines : List (Nat × Text)),
      write flow = .ok text ∧ isDiagram text = true ∧
      Script.read text = .ok (Script.ofLines (titles.map Text.trim ++ lines.map Prod.snd)) ∧
      (∀ title ∈ titles, Titles title) ∧
      Told (walkAll flow (Graph.ofFlow flow)).outline lines := by
  obtain ⟨titles, htitles, hlegible⟩ := titleLines_of_spoken h
  have hgraph : flow.graph = .ok (Graph.ofFlow flow) :=
    Flow.graph_eq_ok fun node hnode => (h.nodes node hnode).keyed
  obtain ⟨lines, hlines, htold⟩ := exists_told fun line hline =>
    h.utters.outline_walkAll (Graph.ofFlow flow) line hline
  exact ⟨_, titles, lines, write_eq htitles hne hgraph hlines, isDiagram_framed titles lines,
    read_framed hlegible htold.tidy, hlegible, htold⟩

theorem exists_read_of_spoken {flow : Flow} (h : SpokenFlow flow) (hne : flow.nodes ≠ []) :
    ∃ text again, write flow = .ok text ∧ read text = .ok again ∧ again.nodes ≠ [] := by
  obtain ⟨text, titles, lines, hwrite, hdiagram, hscript, -, htold⟩ := exists_script_of_spoken h hne
  let script := Script.ofLines (titles.map Text.trim ++ lines.map Prod.snd)
  have hread : read text = .ok (script.run.toFlow script.title) := by
    rw [read, hdiagram, hscript]
    rfl
  have hstart := htold.start_mem (start_mem_outline flow _)
  exact ⟨text, _, hwrite, hread, Script.nodes_run_ne_nil (List.mem_append_right _ hstart)⟩

end Flowchart.Activity
