import Flowchart.Proofs.Activity.Redrawn
import Flowchart.Proofs.Activity.RoundTrip
import Flowchart.Proofs.Activity.Telling

/-!
# Normal form of activity diagrams

A plain flow that was written and read once has the shape of its diagram.  If it is written and read
again, nothing changes any more: the second diagram is walked in the order in which the vertices of
the first were numbered, so that the vertices get the same numbers again.
-/

namespace Flowchart.Activity

/-- The lines of a plain flow, behind whatever title, are run to the nodes of a plan of the flow. -/
theorem exists_script {flow : Flow} (h : PlainFlow flow) :
    ∃ (plan : Plan) (m : Machine) (lines : List (Nat × Text)),
      plan.Tours flow ∧ (∀ title, Redraws flow plan (m.toFlow title)) ∧
      (walkAll flow (Graph.ofFlow flow)).outline.mapM Line.text = .ok (lines.map indented) ∧
      (∀ line ∈ lines, Tidy line.2) ∧
      ∀ title, (⟨title, lines.map Prod.snd⟩ : Script).run = m := by
  obtain ⟨plan, htraces, hsites, hvisits, hframes⟩ := walkAll_tours h (Graph.ofFlow flow)
  obtain ⟨lines, hlines, htidy, hread⟩ :=
    exists_plainLines (h.utters.outline_walkAll (Graph.ofFlow flow))
  have hmachine : Machine.run {} ((lines.map Prod.snd).filterMap Statement.read?) =
      (walkAll flow (Graph.ofFlow flow)).machine (walkAll flow (Graph.ofFlow flow)).targets := by
    rw [hread, Walk.machine, outline_eq]
  obtain ⟨hlabels, hgotos, -⟩ := htraces.registers.settled
  refine ⟨plan, _, lines, ⟨htraces.accounts.distinct, hsites, hvisits⟩,
    fun _ => ⟨htraces.nodes, htraces.startId hvisits.head?_eq⟩, hlines, htidy, fun title => ?_⟩
  rw [Script.run, hmachine]
  exact Machine.finish_of_settled hgotos hlabels hframes

theorem ofLines_of_title {line title : Text} (h : title? line = some title) {lines : List Text}
    (hlines : ∀ line ∈ lines, Tidy line) :
    Script.ofLines (line :: lines) = ⟨some title, lines⟩ := by
  have hrest : lines.filter (fun line => (title? line).isNone) = lines :=
    congrArg Script.statements (ofLines_of_tidy hlines)
  rw [Script.ofLines, List.findSome?_cons, h, List.filter_cons_of_neg (by simp [h]), hrest]

def givenTitle : Text := "PlantUML Activity Diagram".toList

theorem title?_given :
    title? (Text.trim ("title ".toList ++ givenTitle)) = some givenTitle := by decide

theorem plainLine_given : PlainLine givenTitle := by decide

theorem titles_given : Titles ("title ".toList ++ givenTitle) :=
  titles_line plainLine_given.spoken

def redraw? (flow : Flow) : Option Flow :=
  (write flow).toOption.bind fun text => (read text).toOption

theorem redraw?_eq_some {flow again : Flow} {text : Text} (hwrite : write flow = .ok text)
    (hread : read text = .ok again) : redraw? flow = some again := by
  rw [redraw?, hwrite]
  exact congrArg Except.toOption hread

/-- A plain flow whose titles hold no break tags, and whose larger splits are labelled, is redrawn
as a flow that stays as it is when it is redrawn again: the nodes are the same in the same order,
with the same start. -/
theorem redraw_redraw (flow : Flow) (h : PlainFlow flow) (hlabelled : Labelled flow)
    (huntagged : Untagged flow) :
    ∃ again again', redraw? flow = some again ∧ redraw? again = some again' ∧
      again'.nodes = again.nodes ∧ again'.start = again.start := by
  obtain ⟨plan, m, lines, hp, hr, hlines, htidy, hrun⟩ := exists_script h
  have hm := (hr none).marked h hlabelled huntagged hp
  obtain ⟨plan', m', lines', hp', hr', hlines', htidy', hrun'⟩ := exists_script hm.plain
  have hread : read (Text.join ['\n'] (framed [] lines)) = .ok (m.toFlow none) := by
    rw [read, isDiagram_framed, read_framed (by simp) htidy, List.map_nil, List.nil_append,
      ofLines_of_tidy (List.forall_mem_map.2 htidy), ← hrun none]
    rfl
  -- The markers leave no lines, so the second diagram is that of the inner flow, with a title.
  have hwrite' : write (m.toFlow none) =
      .ok (Text.join ['\n'] (framed ["title ".toList ++ givenTitle] lines')) := by
    refine write_eq rfl (fun hempty => ?_) (Flow.graph_eq_ok ?_) ?_
    · have hstarted := hm.started
      rw [Flow.nodeIds, hempty] at hstarted
      cases hstarted
    · rw [(hr none).nodes]
      exact List.forall_mem_map.2 fun site _ => Site.keyed_node flow plan.name site
    · rw [hm.outline_walkAll, hlines']
  have hread' : read (Text.join ['\n'] (framed ["title ".toList ++ givenTitle] lines')) =
      .ok (m'.toFlow (some givenTitle)) := by
    rw [read, isDiagram_framed, read_framed (List.forall_mem_singleton.2 titles_given) htidy',
      List.map_cons, List.map_nil, List.singleton_append,
      ofLines_of_title title?_given (List.forall_mem_map.2 htidy'), ← hrun' (some givenTitle)]
    rfl
  refine ⟨_, _, redraw?_eq_some (write_eq_framed h hlines) hread, redraw?_eq_some hwrite' hread',
    ?_, ?_⟩
  · rw [(hr' _).nodes, (hr none).nodes, Plan.sites_inner h hlabelled hp hp', List.map_map]
    exact List.map_congr_left fun site hsite => Plan.node_image h hlabelled hp hp' hsite
  · rw [(hr' _).start, (hr none).start]
    exact congrArg Vertex.id (Plan.vertex_image h hlabelled hp hp'
      (hp.drawn.mem_iff.2 List.mem_cons_self))

/-- A choice of three with a way back to it, a choice of two, an end, and a node that nothing leads
to. -/
def steadyFlow : Flow where
  id := "steady".toList
  title := .null
  start := "ask".toList
  nodes :=
    [{ id := "ask".toList, title := .str "Which way?".toList
       outlets := [sampleOutlet "ask" "try" (.str "left".toList),
         sampleOutlet "ask" "ask" (.str "again".toList),
         sampleOutlet "ask" "done" (.str "right".toList)] },
      { id := "try".toList, title := .str "Try again".toList
        outlets := [sampleOutlet "try" "ask" .null, sampleOutlet "try" "done" .null] },
      { id := "done".toList, title := .str "Done".toList },
      { id := "lost".toList, title := .str "Lost".toList
        outlets := [sampleOutlet "lost" "try" .null] }]

theorem plainFlow_steady : PlainFlow steadyFlow := by decide

theorem redraw_redraw_steady :
    PlainFlow steadyFlow ∧ Labelled steadyFlow ∧ Untagged steadyFlow ∧
      ∃ again again', redraw? steadyFlow = some again ∧ redraw? again = some again' ∧
        again'.nodes = again.nodes ∧ again'.start = again.start :=
  ⟨plainFlow_steady, by decide, by decide,
    redraw_redraw steadyFlow plainFlow_steady (by decide) (by decide)⟩

/-- A choice with a break in its title, and a node with nothing but a break. -/
def brokenFlow : Flow where
  id := "broken".toList
  title := .null
  start := "ask".toList
  nodes :=
    [{ id := "ask".toList, title := .str "Left<br>right?".toList
       outlets := [sampleOutlet "ask" "left" .null, sampleOutlet "ask" "right" .null] },
      { id := "left".toList, title := .str "Left".toList },
      { id := "right".toList, title := .str "<br>".toList }]

theorem plainFlow_broken : PlainFlow brokenFlow := by decide

/-- A break tag is a line break to the reader, but a condition is written as its first line alone,
and a text of no lines as no activity. -/
theorem redraw_broken : PlainFlow brokenFlow ∧ Labelled brokenFlow ∧
    ∃ again again', redraw? brokenFlow = some again ∧ redraw? again = some again' ∧
      again'.nodes ≠ again.nodes := by
  have hchanged : ((redraw? brokenFlow).bind fun again => (redraw? again).map fun again' =>
      decide (again'.nodes ≠ again.nodes)) = some true := by decide +kernel
  obtain ⟨again, hagain, hmap⟩ := Option.bind_eq_some_iff.1 hchanged
  obtain ⟨again', hagain', hne⟩ := Option.map_eq_some_iff.1 hmap
  exact ⟨plainFlow_broken, by decide, again, again', hagain, hagain', of_decide_eq_true hne⟩

end Flowchart.Activity
