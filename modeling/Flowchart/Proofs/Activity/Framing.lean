import Flowchart.Proofs.Activity.Phrases

/-!
# Lines of a diagram

The lines of an outline stand between two directives, perhaps behind a title. Each is read on its
own, as no comment, note or activity of several lines is among them.
-/

namespace Flowchart.Activity

/-- A line that is left as it is until it is read as a statement. -/
structure Calm (line : Text) : Prop where
  kept : isKept line = true
  no_note : opensNote line = false
  whole : line.head? = some ':' → Text.endsWith line [';'] = true

namespace Tidy

variable {line : Text} (h : Tidy line)

include h

theorem calm : Calm line := by
  obtain ⟨c, rest, rfl, hc⟩ := h.starts
  refine ⟨?_, ?_, h.whole⟩ <;>
    · simp only [List.mem_cons, List.not_mem_nil, or_false] at hc
      rcases hc with rfl | rfl | rfl | rfl | rfl | rfl <;> rfl

theorem no_title : title? line = none := by
  obtain ⟨c, rest, rfl, hc⟩ := h.starts
  simp only [List.mem_cons, List.not_mem_nil, or_false] at hc
  rcases hc with rfl | rfl | rfl | rfl | rfl | rfl <;> rfl

theorem trim_indented (n : Nat) : Text.trim (Text.spaces n ++ line) = line := by
  rw [Text.trim_spaces_append]
  apply Text.trim_eq_self _ h.ends
  intro d hd
  obtain ⟨c, rest, rfl, hc⟩ := h.starts
  obtain rfl : c = d := by simpa using hd
  simp only [List.mem_cons, List.not_mem_nil, or_false] at hc
  rcases hc with rfl | rfl | rfl | rfl | rfl | rfl <;> decide

end Tidy

theorem dropNotes_of_calm {lines : List Text} (h : ∀ line ∈ lines, Calm line) :
    dropNotes false lines = lines := by
  induction lines with
  | nil => rfl
  | cons line lines ih =>
      obtain ⟨hline, hlines⟩ := List.forall_mem_cons.1 h
      rw [dropNotes, hline.no_note, ih hlines]
      rfl

theorem joinActivities_of_calm {lines : List Text} (h : ∀ line ∈ lines, Calm line) :
    joinActivities [] lines = .ok lines := by
  induction lines with
  | nil => rfl
  | cons line lines ih =>
      obtain ⟨hline, hlines⟩ := List.forall_mem_cons.1 h
      have hwhole : (Text.startsWith line [':'] && !Text.endsWith line [';']) = false := by
        cases line with
        | nil => rfl
        | cons c rest =>
            by_cases hc : c = ':'
            · subst hc
              simp [hline.whole rfl]
            · simp [Text.startsWith, Text.after?, Ne.symm hc]
      rw [joinActivities, hwhole, ih hlines]
      rfl

theorem ofLines_of_tidy {lines : List Text} (h : ∀ line ∈ lines, Tidy line) :
    Script.ofLines lines = ⟨none, lines⟩ := by
  have htitle : lines.findSome? title? = none :=
    List.findSome?_eq_none_iff.2 fun line hline => (h line hline).no_title
  have hall : lines.filter (fun line => (title? line).isNone) = lines :=
    List.filter_eq_self.2 fun line hline => by rw [(h line hline).no_title]; rfl
  rw [Script.ofLines, htitle, hall]

theorem commentless_join {lines : List Text} (h : ∀ line ∈ lines, Commentless line) :
    Commentless (Text.join ['\n'] lines) := by
  induction lines with
  | nil => exact .nil
  | cons line lines ih =>
      have hline := h line List.mem_cons_self
      have hrest := ih fun other hother => h other (List.mem_cons_of_mem _ hother)
      cases lines with
      | nil => rwa [Text.join_singleton]
      | cons next rest =>
          rw [Text.join_cons_cons, List.append_assoc]
          exact hline.append (hrest.cons (by decide)) (by simp)

def indented (line : Nat × Text) : Text := Text.spaces line.1 ++ line.2

theorem exists_lines {Q : Phrase → Text → Prop} {outline : List Line}
    (h : ∀ line ∈ outline, ∃ text, line.phrase.text = .ok text ∧ Q line.phrase text) :
    ∃ lines : List (Nat × Text), outline.mapM Line.text = .ok (lines.map indented) ∧
      List.Forall₂ (fun line written => Q line.phrase written.2) outline lines := by
  induction outline with
  | nil => exact ⟨[], rfl, .nil⟩
  | cons line outline ih =>
      obtain ⟨text, hwritten, hquality⟩ := h line List.mem_cons_self
      obtain ⟨lines, hlines, hall⟩ := ih fun other hother => h other (List.mem_cons_of_mem _ hother)
      refine ⟨(2 * line.depth, text) :: lines, ?_, .cons hquality hall⟩
      simp [List.mapM_cons, hlines, Line.text, hwritten, Except.map, indented, bind, Except.bind,
        pure, Except.pure]

def framed (titles : List Text) (lines : List (Nat × Text)) : List Text :=
  "@startuml".toList :: titles ++ [[]] ++ lines.map indented ++ [[]] ++ ["@enduml".toList]

theorem forall_mem_framed {P : Text → Prop} {titles : List Text} {lines : List (Nat × Text)}
    (hopen : P "@startuml".toList) (hempty : P []) (hclose : P "@enduml".toList)
    (htitles : ∀ title ∈ titles, P title) (h : ∀ line ∈ lines, P (indented line)) :
    ∀ line ∈ framed titles lines, P line := by
  simp only [framed, List.forall_mem_append, List.forall_mem_cons, List.forall_mem_map]
  have hnil : ∀ line ∈ ([] : List Text), P line := fun _ hline => absurd hline List.not_mem_nil
  exact ⟨⟨⟨⟨⟨hopen, htitles⟩, hempty, hnil⟩, h⟩, hempty, hnil⟩, hclose, hnil⟩

/-- A title that stays on its line and begins no comment. -/
structure Titles (title : Text) : Prop where
  calm : Calm (Text.trim title)
  silent : Statement.read? (Text.trim title) = none
  unbroken : ∀ c ∈ title, Text.isBreak c = false
  commentless : Commentless title

theorem read_framed {titles : List Text} (htitles : ∀ title ∈ titles, Titles title)
    {lines : List (Nat × Text)} (h : ∀ line ∈ lines, Tidy line.2) :
    Script.read (Text.join ['\n'] (framed titles lines)) =
      .ok (Script.ofLines (titles.map Text.trim ++ lines.map Prod.snd)) := by
  -- Nothing in these lines is a comment or a note, or goes on in the line below.
  have hcalm : ∀ line ∈ titles.map Text.trim ++ lines.map Prod.snd, Calm line :=
    List.forall_mem_append.2 ⟨List.forall_mem_map.2 fun title htitle => (htitles title htitle).calm,
      List.forall_mem_map.2 fun line hline => (h line hline).calm⟩
  have hspaces : ∀ n, ∀ c ∈ Text.spaces n, c = ' ' := fun n c hc => List.eq_of_mem_replicate hc
  have hcommentless : ∀ line ∈ framed titles lines, Commentless line := by
    refine forall_mem_framed (commentless_of_not_mem (by decide)) .nil
      (commentless_of_not_mem (by decide)) (fun title htitle => (htitles title htitle).commentless)
      fun line hline => (h line hline).commentless.after ?_
    intro hslash
    exact absurd (hspaces _ _ hslash) (by decide)
  have hunbroken : ∀ line ∈ framed titles lines, ∀ c ∈ line, Text.isBreak c = false := by
    refine forall_mem_framed (Text.none_of_all rfl) (by simp) (Text.none_of_all rfl)
      (fun title htitle => (htitles title htitle).unbroken) fun line hline c hc => ?_
    rcases List.mem_append.1 hc with hc | hc
    · rw [hspaces _ _ hc]
      decide
    · exact (h line hline).unbroken c hc
  have hlines : Text.lines (Text.join ['\n'] (framed titles lines)) = framed titles lines :=
    Text.lines_join hunbroken (by decide)
  have htrimmed : (lines.map indented).map Text.trim = lines.map Prod.snd := by
    rw [List.map_map]
    exact List.map_congr_left fun line hline => (h line hline).trim_indented line.1
  have hkept : ((framed titles lines).map Text.trim).filter isKept =
      titles.map Text.trim ++ lines.map Prod.snd := by
    have hall := List.filter_eq_self.2 fun line hline => (hcalm line hline).kept
    rw [List.filter_append] at hall
    have hopen : isKept (Text.trim "@startuml".toList) = false := rfl
    have hempty : isKept (Text.trim []) = false := rfl
    have hclose : isKept (Text.trim "@enduml".toList) = false := rfl
    simp only [framed, List.map_append, List.map_cons, List.map_nil, htrimmed, List.filter_append,
      List.filter_cons, List.filter_nil, hopen, hempty, hclose, hall, Bool.false_eq_true, if_false,
      List.append_nil]
  rw [Script.read, dropBlockComments_of_commentless (commentless_join hcommentless), hlines, hkept,
    dropNotes_of_calm hcalm, joinActivities_of_calm hcalm]
  rfl

theorem isDiagram_framed (titles : List Text) (lines : List (Nat × Text)) :
    isDiagram (Text.join ['\n'] (framed titles lines)) = true := by
  obtain ⟨next, rest, hrest⟩ := List.exists_cons_of_ne_nil
    (show titles ++ [[]] ++ lines.map indented ++ [[]] ++ ["@enduml".toList] ≠ [] by simp)
  have hstart : Text.join ['\n'] (framed titles lines) =
      "@startuml".toList ++ (['\n'] ++ Text.join ['\n'] (next :: rest)) := by
    have hframed : framed titles lines = "@startuml".toList :: next :: rest :=
      congrArg ("@startuml".toList :: ·) hrest
    rw [hframed, Text.join_cons_cons, List.append_assoc]
  have hoccurs : Text.occursIn "@startuml".toList (Text.join ['\n'] (framed titles lines)) =
      true := by
    rw [hstart]
    rfl
  rw [isDiagram, hoccurs, Bool.true_or]

theorem write_eq {flow : Flow} {titles : List Text} (htitles : titleLines flow = .ok titles)
    (hnodes : flow.nodes ≠ []) (hgraph : flow.graph = .ok (Graph.ofFlow flow))
    {lines : List (Nat × Text)} (hlines : (walkAll flow (Graph.ofFlow flow)).outline.mapM Line.text =
      .ok (lines.map indented)) : write flow = .ok (Text.join ['\n'] (framed titles lines)) := by
  simp [write, htitles, hnodes, hgraph, hlines, framed, bind, Except.bind, pure, Except.pure]

end Flowchart.Activity
