import Flowchart.Proofs.Activity.Effects

/-!
# Loose ends

A machine forgets its exits at several statements: where a branch is closed, and where it jumps.
None of them is lost there, whatever the order of statements.  A branch that was not entered yet has
no exits, and a machine that stands at a vertex has none either; so where exits are forgotten, they
have become terminals of the frame or sources of the jump.
-/

namespace Flowchart.Activity

/-- Every frame stands on one that was entered, and a chained one on one that is in its `else`. -/
def Supported : List Frame → Prop
  | [] => True
  | frame :: below =>
      (∀ next ∈ below.head?, next.branchTaken = true ∧ (frame.chained = true → next.inElse = true)) ∧
        (frame.chained = true → below ≠ []) ∧ Supported below

namespace Supported

variable {frame other : Frame} {frames below : List Frame}

theorem swap (h : Supported (frame :: below)) (hchained : other.chained = frame.chained) :
    Supported (other :: below) := by
  rw [Supported, hchained]
  exact h

theorem take (h : Supported frames) : Supported (frames.modifyHead Frame.take) := by
  cases frames with
  | nil => exact h
  | cons frame below => exact h.swap rfl

theorem push (h : Supported frames) (hentered : ∀ next ∈ frames.head?, next.branchTaken = true)
    (hplain : frame.chained = false) : Supported (frame :: frames) :=
  ⟨fun next hnext => ⟨hentered next hnext, by simp [hplain]⟩, by simp [hplain], h⟩

theorem suffix (h : Supported frames) (hsuffix : below <:+ frames) : Supported below := by
  induction frames with
  | nil => rwa [List.suffix_nil.1 hsuffix]
  | cons frame frames ih =>
      rcases List.suffix_cons_iff.1 hsuffix with rfl | hsuffix
      · exact h
      · exact ih h.2.2 hsuffix

theorem entered (h : Supported frames) : ∀ frame ∈ frames.tail, frame.branchTaken = true := by
  induction frames with
  | nil => simp
  | cons frame below ih =>
      intro next hnext
      cases below with
      | nil => simp at hnext
      | cons first rest =>
          rcases List.mem_cons.1 hnext with rfl | hnext
          · exact (h.1 next rfl).1
          · exact ih h.2.2 next hnext

theorem exists_below (h : Supported frames) (hsuffix : frame :: below <:+ frames)
    (hchained : frame.chained = true) : ∃ next ∈ below.head?, next.inElse = true := by
  obtain ⟨hnext, hne, -⟩ := h.suffix hsuffix
  obtain ⟨next, rest, rfl⟩ := List.exists_cons_of_ne_nil (hne hchained)
  exact ⟨next, rfl, (hnext next rfl).2 hchained⟩

end Supported

namespace Machine

theorem splitChain_suffix (frame : Frame) (frames : List Frame) :
    (splitChain (frame :: frames)).2 <:+ frames := by
  induction frames generalizing frame with
  | nil => cases hchained : frame.chained <;> simp [splitChain, hchained]
  | cons next frames ih =>
      cases hchained : frame.chained with
      | false => simp [splitChain, hchained]
      | true =>
          rw [splitChain, hchained]
          exact (ih next).trans (List.suffix_cons next frames)

/-- There is a current vertex or there are exits but not both, a branch that was not entered yet is
still at its decision, and the frames support each other. -/
structure Moored (m : Machine) : Prop where
  apart : m.current = none ∨ m.exits = []
  unentered : ∀ frame ∈ m.frames.head?, frame.branchTaken = false →
    m.current = some frame.decision ∧ m.exits = []
  supported : Supported m.frames

theorem moored_empty : ({} : Machine).Moored := ⟨.inl rfl, by simp, trivial⟩

section Steps

variable {m n : Machine}

theorem Moored.of_same (h : m.Moored) (hcurrent : n.current = m.current) (hexits : n.exits = m.exits)
    (hframes : n.frames = m.frames) : n.Moored where
  apart := by rw [hcurrent, hexits]; exact h.apart
  unentered := by rw [hcurrent, hexits, hframes]; exact h.unentered
  supported := by rw [hframes]; exact h.supported

theorem Moored.supported_takenFrames (h : m.Moored) : Supported m.takenFrames := by
  unfold takenFrames
  split
  · exact h.supported.take
  · exact h.supported

theorem Moored.entered_takenFrames (h : m.Moored) :
    ∀ frame ∈ m.takenFrames.head?, frame.branchTaken = true := by
  -- Moving on enters the innermost branch: if it was not entered, the machine is at its decision.
  intro frame hframe
  cases hframes : m.frames with
  | nil => simp [takenFrames, hframes] at hframe
  | cons top below =>
      cases htaken : top.branchTaken with
      | true =>
          have hat : m.atBranch = false := by simp [atBranch, hframes, htaken]
          obtain rfl : top = frame := by simpa [takenFrames, hat, hframes] using hframe
          exact htaken
      | false =>
          have hcurrent := (h.unentered top (by simp [hframes]) htaken).1
          have hat : m.atBranch = true := by simp [atBranch, hframes, htaken, hcurrent]
          obtain rfl : top.take = frame := by simpa [takenFrames, hat, hframes] using hframe
          rfl

theorem moored_of_entered (hexits : m.current = none ∨ m.exits = [])
    (hentered : ∀ frame ∈ m.frames.head?, frame.branchTaken = true) (hframes : Supported m.frames) :
    m.Moored where
  apart := hexits
  unentered := fun frame hframe hopen => by simp [hentered frame hframe] at hopen
  supported := hframes

theorem Moored.advance (h : m.Moored) (kind : VertexKind) (text : Text) :
    (m.advance kind text).Moored := by
  rw [advance_eq]
  exact moored_of_entered (.inr rfl) h.entered_takenFrames h.supported_takenFrames

theorem Moored.stop (h : m.Moored) : (m.step .stop).Moored := by
  rw [Machine.step, advance_eq]
  exact moored_of_entered (.inl rfl) h.entered_takenFrames h.supported_takenFrames

theorem Moored.ifThen (h : m.Moored) (condition : Text) (label : Option Text) :
    (m.step (.ifThen condition label)).Moored := by
  rw [Machine.step, advance_eq]
  refine ⟨.inr rfl, ?_, h.supported_takenFrames.push h.entered_takenFrames rfl⟩
  rintro frame ⟨⟩ -
  exact ⟨rfl, rfl⟩

theorem Moored.elseIf (h : m.Moored) (no condition : Text) (label : Option Text) :
    (m.elseIf no condition label).Moored := by
  cases hframes : m.frames with
  | nil =>
      simp only [Machine.elseIf, hframes]
      exact h.of_same rfl rfl hframes.symm
  | cons frame below =>
      have hbelow : Supported (frame.turn (m.looseEnds frame) (some no) true :: below) :=
        (hframes ▸ h.supported).swap rfl
      rw [elseIf_eq m hframes]
      refine ⟨.inr rfl, ?_, ?_, by simp, hbelow⟩
      · rintro other ⟨⟩ -
        exact ⟨rfl, rfl⟩
      · rintro next ⟨⟩
        exact ⟨rfl, fun _ => rfl⟩

theorem Moored.otherwise (h : m.Moored) (label : Option Text) : (m.otherwise label).Moored := by
  cases hframes : m.frames with
  | nil =>
      simp only [Machine.otherwise, hframes]
      exact h.of_same rfl rfl hframes.symm
  | cons frame below =>
      rw [otherwise_eq m hframes]
      refine ⟨.inr rfl, ?_, (hframes ▸ h.supported).swap rfl⟩
      rintro other ⟨⟩ -
      exact ⟨rfl, rfl⟩

theorem Moored.endIf (h : m.Moored) : m.endIf.Moored := by
  -- The frames that stay open stood below the one that is closed, and so were entered.
  cases hframes : m.frames with
  | nil =>
      rw [endIf_of_no_frames hframes]
      exact h.of_same rfl rfl rfl
  | cons frame below =>
      have hsuffix := splitChain_suffix (m.shut frame) below
      have hall : Supported (frame :: below) := hframes ▸ h.supported
      rw [endIf_of_frames hframes]
      refine moored_of_entered (.inl rfl) ?_ (hall.2.2.suffix hsuffix)
      intro next hnext
      exact hall.entered next (hsuffix.subset (List.mem_of_mem_head? hnext))

theorem Moored.goto (h : m.Moored) (name : Text) : (m.goto name).Moored := by
  rw [goto_eq]
  exact moored_of_entered (.inl rfl) h.entered_takenFrames h.supported_takenFrames

theorem Moored.step (h : m.Moored) (statement : Statement) : (m.step statement).Moored := by
  cases statement with
  | start => exact h.advance ..
  | stop => exact h.stop
  | activity text =>
      rw [Machine.step]
      split
      · exact h
      · exact h.advance ..
  | ifThen condition label => exact h.ifThen condition label
  | elseIf no condition label => exact h.elseIf no condition label
  | otherwise label => exact h.otherwise label
  | endIf => exact h.endIf
  | label name => exact h.of_same rfl rfl rfl
  | goto name => exact h.goto name
  | arrow label => exact h.of_same rfl rfl rfl

theorem Moored.run (h : m.Moored) (statements : List Statement) : (m.run statements).Moored := by
  induction statements generalizing m with
  | nil => exact h
  | cons statement statements ih => exact ih (h.step statement)

end Steps

section Exits

variable {m : Machine} {exit : Exit}

theorem Moored.mem_looseEnds (h : m.Moored) {frame : Frame} {frames : List Frame}
    (hframes : m.frames = frame :: frames) (hexit : exit ∈ m.exits) : exit ∈ m.looseEnds frame := by
  cases htaken : frame.branchTaken with
  | true => simp [looseEnds, htaken, hexit]
  | false =>
      obtain ⟨-, hnone⟩ := h.unentered frame (by simp [hframes]) htaken
      simp [hnone] at hexit

theorem Moored.jumpSources_eq (h : m.Moored) (hexits : m.exits ≠ []) :
    m.jumpSources = m.exits.eraseDups := by
  have hcurrent : m.current = none := h.apart.resolve_right hexits
  simp [jumpSources, hcurrent]

/-- An exit becomes a terminal of the frame whose branch is closed, whichever statement closes it. -/
structure Closes (m : Machine) (frame : Frame) (frames : List Frame) (exit : Exit) : Prop where
  closed : exit ∈ (m.closed frame).terminals
  otherwise : ∀ label, ∃ turned, (m.step (.otherwise label)).frames = turned :: frames ∧
    turned.decision = frame.decision ∧ exit ∈ turned.terminals
  elseIf : ∀ no condition label, ∃ chained turned,
    (m.step (.elseIf no condition label)).frames = chained :: turned :: frames ∧
      turned.decision = frame.decision ∧ exit ∈ turned.terminals
  endIf : exit ∈ (m.step .endIf).exits

theorem Moored.closes (h : m.Moored) {frame : Frame} {frames : List Frame}
    (hframes : m.frames = frame :: frames) (hexit : exit ∈ m.exits) :
    m.Closes frame frames exit := by
  have hloose := h.mem_looseEnds hframes hexit
  have hturned : ∀ label taken, exit ∈ (frame.turn (m.looseEnds frame) label taken).terminals :=
    fun _ _ => List.mem_append_right _ hloose
  have hshut : exit ∈ (m.shut frame).terminals := by
    unfold shut
    split
    · exact List.mem_append_right _ hloose
    · exact List.mem_append_left _ (List.mem_append_right _ hloose)
  refine ⟨List.mem_append_right _ hloose, fun label => ?_, fun no condition label => ?_, ?_⟩
  · have hnew := congrArg Machine.frames (otherwise_eq m hframes label)
    exact ⟨_, hnew, rfl, hturned label false⟩
  · have hnew := congrArg Machine.frames (elseIf_eq m hframes no condition label)
    exact ⟨_, _, hnew, rfl, hturned (some no) true⟩
  · rw [Machine.step, endIf_of_frames hframes]
    change exit ∈ collected (m.shut frame :: frames)
    rw [collected_cons]
    exact List.mem_append_right _ hshut

/-- What becomes of an exit at a jump: an edge where the label is bound, else a jump that waits. -/
def Jumps (m : Machine) (name : Text) (exit : Exit) : Prop :=
  match m.labels.lookup name with
  | some target => (target, exit.label) ∈ (m.step (.goto name)).edgesFrom exit.source
  | none => ⟨exit.source, name, exit.label⟩ ∈ (m.step (.goto name)).gotos

theorem Moored.jumps (h : m.Moored) (hgrounded : m.Grounded) (name : Text)
    (hexit : exit ∈ m.exits) : m.Jumps name exit := by
  have hsource : exit ∈ m.jumpSources := by
    rw [h.jumpSources_eq (List.ne_nil_of_mem hexit)]
    exact List.mem_eraseDups.2 hexit
  have hrequest : ⟨exit.source, name, exit.label⟩ ∈ m.requests (.goto name) :=
    List.mem_map.2 ⟨exit, hsource, rfl⟩
  unfold Jumps
  cases hbound : m.labels.lookup name with
  | some target =>
      have harc : (⟨exit.source, target, exit.label⟩ : Arc) ∈ m.drawn (.goto name) :=
        List.mem_append_right _ (List.mem_filterMap.2
          ⟨_, hrequest, by simp [Goto.arc?, hbound]⟩)
      rw [edgesFrom_step hgrounded]
      refine List.mem_append_right _ (List.mem_map.2 ⟨_, List.mem_filter.2 ⟨harc, ?_⟩, rfl⟩)
      exact decide_eq_true rfl
  | none =>
      rw [gotos_step]
      refine List.mem_append_right _ (List.mem_filter.2 ⟨hrequest, ?_⟩)
      simp [Goto.unbound, hbound]

end Exits

/-- No loose end of a machine hangs in the air, and none will be dropped. -/
structure HoldsOn (m : Machine) : Prop where
  created : ∀ v ∈ m.held, v ∈ m.vertices
  apart : m.current = none ∨ m.exits = []
  entered : ∀ frame ∈ m.frames.tail, frame.branchTaken = true
  unentered : ∀ frame ∈ m.frames.head?, frame.branchTaken = false →
    m.current = some frame.decision ∧ m.exits = []
  chained : ∀ frame below, frame :: below <:+ m.frames → frame.chained = true →
    ∃ next ∈ below.head?, next.inElse = true
  closes : ∀ frame frames, m.frames = frame :: frames → ∀ exit ∈ m.exits,
    m.Closes frame frames exit
  jumps : ∀ name, ∀ exit ∈ m.exits, m.Jumps name exit

/-- Every run, balanced or not, leaves a machine that holds on to its loose ends. -/
theorem holdsOn_run (statements : List Statement) : (({} : Machine).run statements).HoldsOn := by
  have hmoored := moored_empty.run statements
  have hgrounded := grounded_empty.run statements
  exact
    { created := hgrounded.holds
      apart := hmoored.apart
      entered := hmoored.supported.entered
      unentered := hmoored.unentered
      chained := fun _ _ hsuffix hchained => hmoored.supported.exists_below hsuffix hchained
      closes := fun _ _ hframes _ hexit => hmoored.closes hframes hexit
      jumps := fun name _ hexit => hmoored.jumps hgrounded name hexit }

end Machine

end Flowchart.Activity
