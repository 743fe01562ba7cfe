import Flowchart.Activity.Reader
import Flowchart.Proofs.Activity.Drawing

/-!
# Compiling structured programs

The machine keeps a stack of open conditions and runs line by line; the translation of a program
follows its tree.  Both draw the same graph: the places of the machine are the vertices of the
sketch, in order, and each place has the arcs of its vertex in the order of drawing.
-/

namespace Flowchart.Activity

namespace Machine

theorem idle_of_book {m n : Machine} (h : n.book = m.book) (hidle : m.pendingLabels = []) :
    n.pendingLabels = [] :=
  (congrArg (fun book => book.2.1) h).trans hidle

/-- Frames once a part of a program has run on top of them. -/
def Passed (before after : List Frame) : Prop :=
  after = before ∨ after = before.modifyHead Frame.take

theorem passed_of_take {before after : List Frame}
    (h : Passed (before.modifyHead Frame.take) after) :
    after = before.modifyHead Frame.take := by
  rcases h with h | h
  · exact h
  · rw [h]
    cases before <;> rfl

theorem exists_of_passed {frame : Frame} {frames after : List Frame}
    (h : Passed (frame :: frames) after) :
    ∃ top, after = top :: frames ∧ top.decision = frame.decision ∧
      top.inElse = frame.inElse ∧ top.chained = frame.chained ∧
      top.terminals = frame.terminals := by
  rcases h with h | h
  · exact ⟨frame, h, rfl, rfl, rfl, rfl⟩
  · exact ⟨frame.take, h, rfl, rfl, rfl, rfl⟩

end Machine

open Machine

mutual

/-- A program draws its translation.  It enters the innermost branch at most, and leaves the other
frames and the book as they are. -/
theorem Program.draws (program : Program) {m : Machine} {sketch : Sketch} {exits : List Exit}
    (h : m.Draws sketch exits) (hidle : m.pendingLabels = []) :
    (m.run program.statements).Draws (program.translate sketch exits).1
        (program.translate sketch exits).2 ∧
      Passed m.frames (m.run program.statements).frames ∧
      (m.run program.statements).book = m.book := by
  cases program with
  | done => exact ⟨h, .inl rfl, rfl⟩
  | activity text spoken rest =>
      have hstep : m.step (.activity text) = m.advance .activity text := by
        simp [step, spoken]
      have hbook : (m.advance .activity text).book = m.book := by
        rw [book_advance, book_create_of_idle hidle]
      obtain ⟨hrest, hpassed, hkept⟩ :=
        rest.draws (h.advance .activity text) (idle_of_book hbook hidle)
      rw [h.ready.frames_advance] at hpassed
      rw [Program.statements, run_cons, hstep]
      exact ⟨hrest, .inr (passed_of_take hpassed), hkept.trans hbook⟩
  | stop rest =>
      have hframes : (m.step .stop).frames = m.frames.modifyHead Frame.take :=
        h.ready.frames_advance ..
      have hbook : (m.step .stop).book = m.book :=
        (book_advance ..).trans (book_create_of_idle hidle ..)
      obtain ⟨hrest, hpassed, hkept⟩ := rest.draws h.stop (idle_of_book hbook hidle)
      rw [hframes] at hpassed
      rw [Program.statements, run_cons]
      exact ⟨hrest, .inr (passed_of_take hpassed), hkept.trans hbook⟩
  | choice condition label body alternatives rest =>
      obtain ⟨hopen, hframes⟩ := h.ifThen condition label
      have hbook : (m.step (.ifThen condition label)).book = m.book :=
        (book_advance ..).trans (book_create_of_idle hidle ..)
      obtain ⟨hbody, hpassed, hbodyBook⟩ := body.draws hopen (idle_of_book hbook hidle)
      rw [hframes] at hpassed
      obtain ⟨top, htop, hdecision, helse, hchained, hterminals⟩ := exists_of_passed hpassed
      have hchain : ∀ frames, splitChain (top :: frames) = ([top], frames) := by
        simp [splitChain, hchained]
      have hkept := hbodyBook.trans hbook
      -- The body left the frame of the decision on top, and the alternatives close it.
      obtain ⟨hothers, hbase, hothersBook⟩ :=
        alternatives.draws hbody (idle_of_book hkept hidle) htop helse (by
          intro other others heq
          rw [hchain] at heq
          exact taken_of_modifyHead heq)
      rw [hchain] at hbase
      rw [collected_cons, hchained, hterminals, hdecision] at hothers
      obtain ⟨hrest, hdone, hrestBook⟩ :=
        rest.draws hothers (idle_of_book (hothersBook.trans hkept) hidle)
      rw [hbase] at hdone
      rw [Program.statements, run_cons, run_append, run_append]
      exact ⟨hrest, .inr (passed_of_take hdone), hrestBook.trans (hothersBook.trans hkept)⟩

/-- The alternatives of a decision draw their translation and close the whole chain of frames, whose
terminals become the loose ends. -/
theorem Alternatives.draws (alternatives : Alternatives) {m : Machine} {sketch : Sketch}
    {exits : List Exit} (h : m.Draws sketch exits) (hidle : m.pendingLabels = [])
    {frame : Frame} {frames : List Frame} (hframes : m.frames = frame :: frames)
    (helse : frame.inElse = false)
    (htaken : ∀ other others, (splitChain (frame :: frames)).2 = other :: others →
      other.branchTaken = true) :
    (m.run alternatives.statements).Draws (alternatives.translate frame.decision sketch).1
        (collected (frame :: frames) ++
          (exits ++ (alternatives.translate frame.decision sketch).2)) ∧
      (m.run alternatives.statements).frames = (splitChain (frame :: frames)).2 ∧
      (m.run alternatives.statements).book = m.book := by
  have hopen : m.frames ≠ [] := by simp [hframes]
  cases alternatives with
  | absent =>
      obtain ⟨hend, hbase⟩ := h.endIf hframes htaken
      rw [helse] at hend
      exact ⟨hend, hbase, book_endIf hopen⟩
  | otherwise label body =>
      obtain ⟨helseBranch, hnew⟩ := h.otherwise hframes label
      have hbook : (m.step (.otherwise label)).book = m.book := book_otherwise hopen label
      obtain ⟨hbody, hpassed, hbodyBook⟩ := body.draws helseBranch (idle_of_book hbook hidle)
      rw [hnew] at hpassed
      obtain ⟨top, htop, hdecision, hin, hchained, hterminals⟩ := exists_of_passed hpassed
      have hbase : (splitChain (top :: frames)).2 = (splitChain (frame :: frames)).2 :=
        splitChain_snd_of_chained _ frame hchained frames
      obtain ⟨hend, hendFrames⟩ := hbody.endIf htop (by rwa [hbase])
      rw [hin] at hend
      rw [hbase] at hendFrames
      rw [Alternatives.statements, run_cons, run_append]
      refine ⟨?_, hendFrames, ?_⟩
      · change ((m.otherwise label).run body.statements).endIf.Draws _ _
        rw [collected_congr _ _ hchained hterminals, collected_turn] at hend
        simpa [Frame.turn, Alternatives.translate] using hend
      · refine (book_endIf ?_).trans (hbodyBook.trans hbook)
        exact fun hnil => List.cons_ne_nil _ _ (htop.symm.trans hnil)
  | elseIf no condition label body alternatives =>
      obtain ⟨hbranch, hnew⟩ := h.elseIf hframes (wayPast no) condition label
      have hbook : (m.step (.elseIf (wayPast no) condition label)).book = m.book :=
        book_elseIf hopen hidle ..
      obtain ⟨hbody, hpassed, hbodyBook⟩ := body.draws hbranch (idle_of_book hbook hidle)
      rw [hnew] at hpassed
      obtain ⟨top, htop, hdecision, hin, hchained, hterminals⟩ := exists_of_passed hpassed
      -- The chain of the new condition ends where the chain of the old one does.
      have hbase : (splitChain (top :: frame.turn exits (some (wayPast no)) true :: frames)).2 =
          (splitChain (frame :: frames)).2 := by
        rw [splitChain_snd_of_chained frame (frame.turn exits (some (wayPast no)) true) rfl]
        simp [splitChain, hchained]
      have hkept := hbodyBook.trans hbook
      obtain ⟨hothers, hdone, hothersBook⟩ :=
        alternatives.draws hbody (idle_of_book hkept hidle) htop hin (by rwa [hbase])
      rw [hbase] at hdone
      rw [Alternatives.statements, run_cons, run_append]
      refine ⟨?_, hdone, hothersBook.trans hkept⟩
      rw [collected_cons, hchained, hterminals, hdecision] at hothers
      simpa [collected_turn, Alternatives.translate, step] using hothers

end

namespace Machine

theorem foldl_stepLine (lines : List Text) (m : Machine) :
    lines.foldl stepLine m = m.run (lines.filterMap Statement.read?) := by
  induction lines generalizing m with
  | nil => rfl
  | cons line lines ih =>
      rw [List.foldl_cons, ih, stepLine]
      cases hread : Statement.read? line <;> simp [hread, run_cons]

end Machine

/-- After `start`, the lines of a structured program leave the machine with exactly the vertices
and the edges of the translated program, closed and without a warning. -/
theorem compile_eq_translate (program : Program) (lines : List Text)
    (h : lines.filterMap Statement.read? = program.statements) :
    let m := ("start".toList :: lines).foldl Machine.stepLine {}
    m.places = program.sketch.places ∧ m.finish = m ∧ m.warnings = [] := by
  intro m
  have hstart : m = (({} : Machine).step .start).run program.statements := by
    have hread : Statement.read? "start".toList = some .start := rfl
    simp only [m, List.foldl_cons, foldl_stepLine, h, stepLine, hread]
  have hidle : (({} : Machine).step .start).book = ([], [], [], []) := rfl
  obtain ⟨hdraws, hpassed, hbook⟩ := program.draws
    (draws_empty.advance .start "Start".toList) rfl
  have hframes : m.frames = [] := by
    rw [hstart]
    rcases hpassed with hpassed | hpassed <;> exact hpassed
  have hempty : m.book = ([], [], [], []) := by
    rw [hstart]
    exact hbook.trans hidle
  refine ⟨?_, finish_of_settled (congrArg (fun book => book.2.2.1) hempty)
    (congrArg (fun book => book.2.1) hempty) hframes, congrArg (fun book => book.2.2.2) hempty⟩
  rw [hstart]
  exact hdraws.places

/-- An empty branch, a nested condition without `else`, a stop and an `elseif`. -/
def sampleProgram : Program :=
  .activity "A".toList (by decide) <|
    .choice "x".toList (some "yes".toList)
      (.choice "y".toList none .done
        (.otherwise (some "other".toList) (.activity "B".toList (by decide) (.stop .done))) .done)
      (.elseIf (some "maybe".toList) "z".toList none .done .absent)
      (.activity "C".toList (by decide) .done)

def sampleLines : List Text :=
  [":A;".toList, "if (x) then (yes)".toList, "if (y) then".toList, "else (other)".toList,
    ":B;".toList, "stop".toList, "endif".toList, "(maybe) elseif (z)".toList, "endif".toList,
    ":C;".toList]

theorem compile_sample :
    sampleLines.filterMap Statement.read? = sampleProgram.statements ∧
      ((("start".toList :: sampleLines).foldl Machine.stepLine {}).places =
        sampleProgram.sketch.places ∧
      (("start".toList :: sampleLines).foldl Machine.stepLine {}).finish =
        ("start".toList :: sampleLines).foldl Machine.stepLine {} ∧
      (("start".toList :: sampleLines).foldl Machine.stepLine {}).warnings = []) :=
  ⟨by decide, compile_eq_translate sampleProgram sampleLines (by decide)⟩

end Flowchart.Activity
