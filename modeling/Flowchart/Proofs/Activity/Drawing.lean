import Flowchart.Proofs.Activity.Grounded
import Flowchart.Proofs.Activity.Program

/-!
# Machines that draw sketches

How the steps of a machine show in a sketch.  The loose ends of a machine are where it stands, or
its exits; a branch that was opened and not entered yet counts as the loose end of its decision.
-/

namespace Flowchart.Activity

def Frame.take (frame : Frame) : Frame := { frame with branchTaken := true }

/-- The frame once its branch was closed with some loose ends, and its `else` part begun. -/
def Frame.turn (frame : Frame) (exits : List Exit) (label : Option Text) (taken : Bool) : Frame :=
  { frame with
    terminals := frame.terminals ++ exits
    inElse := true, elseLabel := label, branchTaken := taken }

def Sketch.Closed (sketch : Sketch) : Prop :=
  ∀ arc ∈ sketch.arcs, arc.source.number ≤ sketch.vertices.length

namespace Machine

def ends (m : Machine) : List Exit :=
  (m.current.map fun vertex => ⟨vertex, m.leavingLabel⟩).toList ++ m.exits

/-- No arrow label waits, there is a current vertex or there are exits but not both, and a branch
that was not entered yet is still at its decision. -/
structure Ready (m : Machine) : Prop where
  arrow : m.arrowLabel = none
  apart : m.current = none ∨ m.exits = []
  unentered : ∀ frame frames, m.frames = frame :: frames → frame.branchTaken = false →
    m.current = some frame.decision ∧ m.exits = []

/-- The machine shows a sketch and has the loose ends. -/
structure Draws (m : Machine) (sketch : Sketch) (exits : List Exit) : Prop where
  ready : m.Ready
  grounded : m.Grounded
  places : m.places = sketch.places
  closed : sketch.Closed
  ends : m.ends = exits

def book (m : Machine) : List (Text × Vertex) × List Text × List Goto × List Warning :=
  (m.labels, m.pendingLabels, m.gotos, m.warnings)

/-! ## Places -/

theorem places_connect {m : Machine} {sketch : Sketch} (h : m.places = sketch.places)
    (source target : Vertex) (label : Option Text) :
    (m.connect source target label).places = (sketch.draw [⟨source, target, label⟩]).places := by
  simp only [connect, h, Sketch.places, Sketch.draw, List.map_map]
  apply List.map_congr_left
  intro entry _
  simp only [Function.comp, Sketch.arcsFrom, List.filter_append, List.map_append]
  by_cases hsource : source = entry.1
  · simp [hsource]
  · simp [hsource, Ne.symm hsource]

theorem places_connectAll {m : Machine} {sketch : Sketch} (h : m.places = sketch.places)
    (exits : List Exit) (target : Vertex) :
    (m.connectAll exits target).places =
      (sketch.draw (exits.map fun exit => exit.to target)).places := by
  induction exits generalizing m sketch with
  | nil => simpa [connectAll, Sketch.draw] using h
  | cons exit exits ih =>
      have first := places_connect h exit.source target exit.label
      have rest := ih first
      simp only [connectAll, List.foldl_cons] at rest ⊢
      rw [rest]
      simp [Sketch.draw, Exit.to]

theorem nextVertex_eq {m : Machine} {sketch : Sketch} (h : m.places = sketch.places)
    (kind : VertexKind) : m.nextVertex kind = sketch.nextVertex kind := by
  simp [nextVertex, Sketch.nextVertex, h, Sketch.places]

theorem number_le_of_mem {m : Machine} (h : m.Grounded) {v : Vertex} (hv : v ∈ m.vertices) :
    v.number ≤ m.places.length := by
  have hmem : v.number ∈ List.range' 1 m.places.length := by
    rw [← h.numbered]
    exact List.mem_map_of_mem hv
  rw [List.mem_range'_1] at hmem
  omega

theorem places_create {m : Machine} {sketch : Sketch} (h : m.places = sketch.places)
    (hclosed : sketch.Closed) (kind : VertexKind) (text : Text) :
    (m.create kind text).places =
      ({ sketch with vertices := sketch.vertices ++ [(sketch.nextVertex kind, text)] } :
        Sketch).places := by
  have hfresh : sketch.arcsFrom (sketch.nextVertex kind) = [] := by
    simp only [Sketch.arcsFrom, List.map_eq_nil_iff, List.filter_eq_nil_iff, decide_eq_true_eq]
    intro arc harc heq
    have := hclosed arc harc
    simp only [heq, Sketch.nextVertex] at this
    omega
  rw [create_places, nextVertex_eq h, h]
  simp only [Sketch.places, List.map_append, List.map_cons, List.map_nil]
  change _ ++ [_] = _ ++ [(⟨_, _, sketch.arcsFrom (sketch.nextVertex kind)⟩ : Place)]
  rw [hfresh]
  rfl

/-! ## Entering and advancing -/

theorem takeBranch_eq (m : Machine) :
    m.takeBranch = { m with frames := m.takeBranch.frames } := by
  unfold takeBranch
  split
  · rfl
  · split <;> rfl

theorem enter_eq (m : Machine) (vertex : Vertex) :
    m.enter vertex = { m with
      places := (m.enter vertex).places
      frames := if m.current.isSome then m.takeBranch.frames else m.frames
      exits := [], arrowLabel := none, current := some vertex } := by
  unfold enter
  cases hc : m.current with
  | none =>
      simp only [Option.isSome_none]
      rw [connectAll_eq]
      simp
  | some source =>
      simp only [Option.isSome_some]
      rw [connectAll_eq, connect, takeBranch_eq]
      simp

theorem places_enter {m : Machine} {sketch : Sketch} (h : m.places = sketch.places)
    (hapart : m.current = none ∨ m.exits = []) (vertex : Vertex) :
    (m.enter vertex).places =
      (sketch.draw (m.ends.eraseDups.map fun exit => exit.to vertex)).places := by
  cases hc : m.current with
  | none => simpa [enter, ends, hc] using places_connectAll h m.exits.eraseDups vertex
  | some source =>
      have hexits : m.exits = [] := by simpa [hc] using hapart
      have htaken : m.takeBranch.places = sketch.places := by rw [takeBranch_eq, h]
      simpa [enter, ends, hc, hexits, connectAll, Exit.to, List.eraseDups_cons] using
        places_connect htaken source vertex m.leavingLabel

theorem take_of_taken {frame : Frame} (h : frame.branchTaken = true) :
    frame.take = frame := by
  cases frame
  simp_all [Frame.take]

theorem Ready.create {m : Machine} (h : m.Ready) (kind : VertexKind) (text : Text) :
    (m.create kind text).Ready where
  arrow := by simpa using h.arrow
  apart := by simpa using h.apart
  unentered := by simpa using h.unentered

@[simp] theorem ends_create (m : Machine) (kind : VertexKind) (text : Text) :
    (m.create kind text).ends = m.ends := by
  simp [ends, leavingLabel, atBranch]

theorem Ready.frames_takeBranch {m : Machine} (h : m.Ready) :
    m.takeBranch.frames = m.frames.modifyHead Frame.take := by
  cases hframes : m.frames with
  | nil => simp [takeBranch, hframes]
  | cons frame frames =>
      cases htaken : frame.branchTaken with
      | true =>
          have : m.atBranch = false := by simp [atBranch, hframes, htaken]
          simp [takeBranch, hframes, this, take_of_taken htaken]
      | false =>
          obtain ⟨hcurrent, -⟩ := h.unentered frame frames hframes htaken
          have : m.atBranch = true := by simp [atBranch, hframes, htaken, hcurrent]
          simp [takeBranch, hframes, this, Frame.take]

theorem Ready.frames_of_idle {m : Machine} (h : m.Ready) (hidle : m.current = none) :
    m.frames.modifyHead Frame.take = m.frames := by
  cases hframes : m.frames with
  | nil => rfl
  | cons frame frames =>
      cases htaken : frame.branchTaken with
      | true => simp [take_of_taken htaken]
      | false =>
          obtain ⟨hcurrent, -⟩ := h.unentered frame frames hframes htaken
          simp [hidle] at hcurrent

theorem Ready.frames_enter {m : Machine} (h : m.Ready) (vertex : Vertex) :
    (m.enter vertex).frames = m.frames.modifyHead Frame.take := by
  rw [enter_eq]
  cases hcurrent : m.current with
  | none => exact (h.frames_of_idle hcurrent).symm
  | some source => exact h.frames_takeBranch

theorem Ready.frames_advance {m : Machine} (h : m.Ready) (kind : VertexKind) (text : Text) :
    (m.advance kind text).frames = m.frames.modifyHead Frame.take := by
  rw [advance, (h.create kind text).frames_enter, create_frames]

theorem leavingLabel_of_taken {m : Machine}
    (h : ∀ frame frames, m.frames = frame :: frames → frame.branchTaken = true) :
    m.leavingLabel = m.arrowLabel := by
  cases hframes : m.frames with
  | nil => simp [leavingLabel, hframes]
  | cons frame frames => simp [leavingLabel, atBranch, hframes, h frame frames hframes]

theorem taken_of_modifyHead {frames : List Frame} {frame : Frame} {rest : List Frame}
    (h : frames.modifyHead Frame.take = frame :: rest) : frame.branchTaken = true := by
  cases frames with
  | nil => simp at h
  | cons first frames =>
      obtain ⟨rfl, -⟩ := List.cons.inj h
      rfl

theorem closed_add {sketch : Sketch} (h : sketch.Closed) (kind : VertexKind) (text : Text)
    {exits : List Exit} (hexits : ∀ exit ∈ exits, exit.source.number ≤ sketch.vertices.length) :
    (sketch.add kind text exits).Closed := by
  intro arc harc
  simp only [Sketch.add, Sketch.draw, List.mem_append, List.mem_map, List.mem_eraseDups,
    List.length_append, List.length_singleton] at harc ⊢
  rcases harc with harc | ⟨exit, hexit, rfl⟩
  · exact Nat.le_succ_of_le (h arc harc)
  · exact Nat.le_succ_of_le (hexits exit hexit)

theorem source_le_of_mem_ends {m : Machine} (h : m.Grounded) {exit : Exit}
    (hexit : exit ∈ m.ends) : exit.source.number ≤ m.places.length := by
  apply number_le_of_mem h
  apply h.holds
  rcases List.mem_append.1 hexit with hexit | hexit
  · obtain ⟨vertex, hcurrent, rfl⟩ : ∃ vertex, m.current = some vertex ∧
        ⟨vertex, m.leavingLabel⟩ = exit := by simpa using hexit
    exact held_of_current hcurrent
  · exact held_of_exit ⟨exit, hexit, rfl⟩

theorem Draws.length_places {m : Machine} {sketch : Sketch} {exits : List Exit}
    (h : m.Draws sketch exits) : m.places.length = sketch.vertices.length := by
  simp [h.places, Sketch.places]

theorem Draws.source_le {m : Machine} {sketch : Sketch} {exits : List Exit}
    (h : m.Draws sketch exits) {exit : Exit} (hexit : exit ∈ exits) :
    exit.source.number ≤ sketch.vertices.length := by
  rw [← h.length_places]
  exact source_le_of_mem_ends h.grounded (h.ends ▸ hexit)

theorem Draws.advance {m : Machine} {sketch : Sketch} {exits : List Exit}
    (h : m.Draws sketch exits) (kind : VertexKind) (text : Text) :
    (m.advance kind text).Draws (sketch.add kind text exits) [⟨sketch.nextVertex kind, none⟩] := by
  have hnext : m.nextVertex kind = sketch.nextVertex kind := nextVertex_eq h.places kind
  have htaken := fun frame frames (heq : (m.advance kind text).frames = frame :: frames) =>
    taken_of_modifyHead ((h.ready.frames_advance kind text).symm.trans heq)
  have hadvance : (m.advance kind text).current = some (m.nextVertex kind) ∧
      (m.advance kind text).exits = [] ∧ (m.advance kind text).arrowLabel = none := by
    rw [Machine.advance, enter_eq]
    exact ⟨rfl, rfl, rfl⟩
  obtain ⟨hcurrent, hexits, harrow⟩ := hadvance
  refine ⟨⟨harrow, .inr hexits, ?_⟩, h.grounded.advance kind text, ?_, ?_, ?_⟩
  · intro frame frames hframes hopen
    simp [htaken frame frames hframes] at hopen
  · rw [Machine.advance, places_enter (places_create h.places h.closed kind text)
      (h.ready.create kind text).apart, ends_create, h.ends, hnext]
    rfl
  · exact closed_add h.closed kind text fun exit hexit => h.source_le hexit
  · simp [Machine.ends, hcurrent, hexits, leavingLabel_of_taken htaken, harrow, hnext]

theorem Draws.leave {m n : Machine} {sketch : Sketch} {exits : List Exit}
    (h : m.Draws sketch exits) (hn : n.Grounded) (hplaces : n.places = m.places)
    (harrow : n.arrowLabel = none) (hcurrent : n.current = none)
    (htaken : ∀ frame frames, n.frames = frame :: frames → frame.branchTaken = true) :
    n.Draws sketch n.exits where
  ready := ⟨harrow, .inl hcurrent, fun frame frames hframes hopen => by
    simp [htaken frame frames hframes] at hopen⟩
  grounded := hn
  places := by rw [hplaces, h.places]
  closed := h.closed
  ends := by simp [Machine.ends, hcurrent]

theorem Draws.stop {m : Machine} {sketch : Sketch} {exits : List Exit}
    (h : m.Draws sketch exits) :
    (m.step .stop).Draws (sketch.add .finish "End".toList exits) [] := by
  have moved := h.advance .finish "End".toList
  have hexits : (m.step .stop).exits = [] := by
    simp only [Machine.step, Machine.advance]
    rw [enter_eq]
  rw [← hexits]
  exact moved.leave (h.grounded.step .stop) rfl moved.ready.arrow rfl fun frame frames hframes =>
    taken_of_modifyHead ((h.ready.frames_advance .finish _).symm.trans hframes)

/-! ## Branches -/

theorem Draws.openBranch {m n : Machine} {sketch : Sketch} {exits : List Exit}
    (h : m.Draws sketch exits) (hn : n.Grounded) (hplaces : n.places = m.places)
    (harrow : n.arrowLabel = none) (hexits : n.exits = []) {frame : Frame} {frames : List Frame}
    (hframes : n.frames = frame :: frames) (hopen : frame.branchTaken = false)
    (hcurrent : n.current = some frame.decision) :
    n.Draws sketch [⟨frame.decision, frame.branchLabel⟩] where
  ready := by
    refine ⟨harrow, .inr hexits, ?_⟩
    intro other others heq _
    obtain ⟨rfl, -⟩ := List.cons.inj (hframes.symm.trans heq)
    exact ⟨hcurrent, hexits⟩
  grounded := hn
  places := by rw [hplaces, h.places]
  closed := h.closed
  ends := by
    have hat : n.atBranch = true := by simp [atBranch, hframes, hopen, hcurrent]
    simp [Machine.ends, hcurrent, hexits, leavingLabel, hat, hframes, harrow]

theorem Draws.ifThen {m : Machine} {sketch : Sketch} {exits : List Exit}
    (h : m.Draws sketch exits) (condition : Text) (label : Option Text) :
    (m.step (.ifThen condition label)).Draws (sketch.add .decision condition exits)
        [⟨sketch.nextVertex .decision, label⟩] ∧
      (m.step (.ifThen condition label)).frames =
        { decision := sketch.nextVertex .decision, thenLabel := label } ::
          m.frames.modifyHead Frame.take := by
  have hnext : m.nextVertex .decision = sketch.nextVertex .decision :=
    nextVertex_eq h.places .decision
  have hframes : (m.step (.ifThen condition label)).frames =
      { decision := sketch.nextVertex .decision, thenLabel := label } ::
        m.frames.modifyHead Frame.take := by
    rw [← h.ready.frames_advance .decision condition, ← hnext]
    rfl
  have moved := h.advance .decision condition
  have hadvance : (m.advance .decision condition).exits = [] ∧
      (m.advance .decision condition).current = some (m.nextVertex .decision) := by
    rw [Machine.advance, enter_eq]
    exact ⟨rfl, rfl⟩
  refine ⟨?_, hframes⟩
  exact moved.openBranch (n := m.step (.ifThen condition label)) (h.grounded.step _) rfl
    moved.ready.arrow hadvance.1 hframes rfl
    (hadvance.2.trans (congrArg some hnext))

theorem Ready.looseEnds_eq {m : Machine} (h : m.Ready) {frame : Frame} {frames : List Frame}
    (hframes : m.frames = frame :: frames) : m.looseEnds frame = m.ends := by
  cases htaken : frame.branchTaken with
  | true =>
      have hlabel : m.leavingLabel = none := by
        rw [leavingLabel_of_taken, h.arrow]
        intro other others heq
        obtain ⟨rfl, -⟩ := List.cons.inj (hframes.symm.trans heq)
        exact htaken
      simp [looseEnds, htaken, ends, hlabel]
  | false =>
      obtain ⟨hcurrent, hexits⟩ := h.unentered frame frames hframes htaken
      have hat : m.atBranch = true := by simp [atBranch, hframes, htaken, hcurrent]
      simp [looseEnds, htaken, ends, hcurrent, hexits, leavingLabel, hframes, hat, h.arrow]

theorem Draws.otherwise {m : Machine} {sketch : Sketch} {exits : List Exit}
    (h : m.Draws sketch exits) {frame : Frame} {frames : List Frame}
    (hframes : m.frames = frame :: frames) (label : Option Text) :
    (m.otherwise label).Draws sketch [⟨frame.decision, label⟩] ∧
      (m.otherwise label).frames = frame.turn exits label false :: frames := by
  have heq : m.otherwise label = { m with
      frames := frame.turn exits label false :: frames
      exits := []
      current := some frame.decision } := by
    unfold Machine.otherwise
    split
    · simp_all
    · rename_i other others hother
      obtain ⟨rfl, rfl⟩ := List.cons.inj (hother.symm.trans hframes)
      simp [Machine.closed, h.ready.looseEnds_eq hframes, h.ends, Frame.turn]
  have hgrounded := h.grounded.otherwise label
  rw [heq] at hgrounded ⊢
  exact ⟨h.openBranch hgrounded rfl h.ready.arrow rfl rfl rfl rfl, rfl⟩

theorem Draws.elseIf {m : Machine} {sketch : Sketch} {exits : List Exit}
    (h : m.Draws sketch exits) {frame : Frame} {frames : List Frame}
    (hframes : m.frames = frame :: frames) (no condition : Text) (label : Option Text) :
    (m.elseIf no condition label).Draws
        (sketch.add .decision condition [⟨frame.decision, some no⟩])
        [⟨sketch.nextVertex .decision, label⟩] ∧
      (m.elseIf no condition label).frames =
        { decision := sketch.nextVertex .decision, thenLabel := label, chained := true } ::
          frame.turn exits (some no) true :: frames := by
  have hnext : m.nextVertex .decision = sketch.nextVertex .decision :=
    nextVertex_eq h.places .decision
  -- The branch is turned before the new vertex is made: `opened` is the machine in between.
  let opened : Machine := { m with
    frames := frame.turn exits (some no) true :: frames
    exits := [] }
  have heq : m.elseIf no condition label =
      { (opened.create .decision condition).connect frame.decision (m.nextVertex .decision)
          (some no) with
        current := some (m.nextVertex .decision)
        frames := { decision := m.nextVertex .decision, thenLabel := label, chained := true } ::
          frame.turn exits (some no) true :: frames } := by
    unfold Machine.elseIf
    split
    · simp_all
    · rename_i other others hother
      obtain ⟨rfl, rfl⟩ := List.cons.inj (hother.symm.trans hframes)
      simp [Machine.closed, h.ready.looseEnds_eq hframes, h.ends, opened, Frame.turn]
  have hplaces : (m.elseIf no condition label).places =
      (sketch.add .decision condition [⟨frame.decision, some no⟩]).places := by
    have hcreated : (opened.create .decision condition).places = _ :=
      places_create (m := opened) h.places h.closed .decision condition
    rw [heq]
    refine (places_connect hcreated frame.decision _ (some no)).trans ?_
    simp [Sketch.add, Sketch.draw, Exit.to, List.eraseDups_cons, hnext]
  have hclosed : (sketch.add .decision condition [⟨frame.decision, some no⟩]).Closed := by
    apply closed_add h.closed
    intro exit hexit
    rw [List.mem_singleton.1 hexit, ← h.length_places]
    apply number_le_of_mem h.grounded
    apply h.grounded.holds
    exact held_of_frame ⟨frame, by simp [hframes], by simp [Frame.held]⟩
  have hgrounded := h.grounded.elseIf no condition label
  have hat : (m.elseIf no condition label).atBranch = true := by
    rw [heq]
    simp [atBranch]
  have harrow : (m.elseIf no condition label).arrowLabel = none := by
    rw [heq]
    simpa [connect, opened] using h.ready.arrow
  have hexits : (m.elseIf no condition label).exits = [] := by
    rw [heq]
    simp [connect, opened]
  have hcurrent : (m.elseIf no condition label).current = some (sketch.nextVertex .decision) := by
    rw [heq, hnext]
  have hnewFrames : (m.elseIf no condition label).frames =
      { decision := sketch.nextVertex .decision, thenLabel := label, chained := true } ::
        frame.turn exits (some no) true :: frames := by
    rw [heq, hnext]
  refine ⟨⟨⟨harrow, .inr hexits, ?_⟩, hgrounded, hplaces, hclosed, ?_⟩, hnewFrames⟩
  · intro other others heq' _
    obtain ⟨rfl, -⟩ := List.cons.inj (hnewFrames.symm.trans heq')
    exact ⟨hcurrent, hexits⟩
  · simp [Machine.ends, hcurrent, hexits, leavingLabel, hat, hnewFrames, harrow,
      Frame.branchLabel]

/-- The terminals of the frames that end together with the innermost one, outermost first. -/
def collected (frames : List Frame) : List Exit :=
  (splitChain frames).1.reverse.flatMap Frame.terminals

theorem collected_cons (frame : Frame) (frames : List Frame) :
    collected (frame :: frames) =
      (if frame.chained then collected frames else []) ++ frame.terminals := by
  cases hchained : frame.chained <;> simp [collected, splitChain, hchained]

theorem splitChain_snd_of_chained (frame other : Frame) (h : frame.chained = other.chained)
    (frames : List Frame) :
    (splitChain (frame :: frames)).2 = (splitChain (other :: frames)).2 := by
  cases hchained : other.chained <;> simp [splitChain, h, hchained]

theorem collected_congr (frame other : Frame) (hchained : frame.chained = other.chained)
    (hterminals : frame.terminals = other.terminals) (frames : List Frame) :
    collected (frame :: frames) = collected (other :: frames) := by
  rw [collected_cons, collected_cons, hchained, hterminals]

@[simp] theorem collected_take (frame : Frame) (frames : List Frame) :
    collected (frame.take :: frames) = collected (frame :: frames) :=
  collected_congr frame.take frame rfl rfl frames

@[simp] theorem splitChain_take (frame : Frame) (frames : List Frame) :
    (splitChain (frame.take :: frames)).2 = (splitChain (frame :: frames)).2 :=
  splitChain_snd_of_chained frame.take frame rfl frames

theorem collected_turn (frame : Frame) (exits : List Exit) (label : Option Text) (taken : Bool)
    (frames : List Frame) :
    collected (frame.turn exits label taken :: frames) = collected (frame :: frames) ++ exits := by
  rw [collected_cons, collected_cons, List.append_assoc]
  rfl

theorem Draws.endIf {m : Machine} {sketch : Sketch} {exits : List Exit}
    (h : m.Draws sketch exits) {frame : Frame} {frames : List Frame}
    (hframes : m.frames = frame :: frames)
    (htaken : ∀ other others, (splitChain (frame :: frames)).2 = other :: others →
      other.branchTaken = true) :
    m.endIf.Draws sketch (collected (frame :: frames) ++
        (exits ++ if frame.inElse then [] else [⟨frame.decision, none⟩])) ∧
      m.endIf.frames = (splitChain (frame :: frames)).2 := by
  have hchained : (m.shut frame).chained = frame.chained := by
    unfold shut
    split <;> rfl
  have hterminals : (m.shut frame).terminals = frame.terminals ++
      (exits ++ if frame.inElse then [] else [⟨frame.decision, none⟩]) := by
    rw [← h.ends, ← h.ready.looseEnds_eq hframes]
    unfold shut
    split <;> simp [Machine.closed]
  have hgrounded := h.grounded.endIf
  have hnew : m.endIf.frames = (splitChain (frame :: frames)).2 := by
    rw [endIf_of_frames hframes, ← splitChain_snd_of_chained _ _ hchained]
  have hexits : m.endIf.exits = collected (frame :: frames) ++
      (exits ++ if frame.inElse then [] else [⟨frame.decision, none⟩]) := by
    rw [endIf_of_frames hframes]
    change collected (m.shut frame :: frames) = _
    rw [collected_cons, collected_cons, hchained, hterminals, List.append_assoc]
  have hrest : m.endIf.places = m.places ∧ m.endIf.arrowLabel = m.arrowLabel ∧
      m.endIf.current = none := by
    rw [endIf_of_frames hframes]
    exact ⟨rfl, rfl, rfl⟩
  obtain ⟨hplaces, harrow, hcurrent⟩ := hrest
  refine ⟨?_, hnew⟩
  rw [← hexits]
  exact h.leave hgrounded hplaces (harrow.trans h.ready.arrow) hcurrent (by rwa [hnew])

/-! ## Jumps -/

theorem Ready.jumpSources_eq {m : Machine} (h : m.Ready) : m.jumpSources = m.ends.eraseDups := by
  cases hcurrent : m.current with
  | none => simp [jumpSources, ends, hcurrent]
  | some vertex =>
      have hexits : m.exits = [] := by simpa [hcurrent] using h.apart
      cases hframes : m.frames with
      | nil =>
          simp [jumpSources, ends, leavingLabel, hcurrent, hframes, hexits, h.arrow,
            List.eraseDups_cons]
      | cons frame frames =>
          cases hat : m.atBranch with
          | false =>
              simp [jumpSources, ends, leavingLabel, hcurrent, hframes, hexits, hat, h.arrow,
                List.eraseDups_cons]
          | true =>
              obtain ⟨hdecision, -⟩ : vertex = frame.decision ∧ frame.branchTaken = false := by
                simpa [atBranch, hframes, hcurrent] using hat
              simp [jumpSources, ends, leavingLabel, hcurrent, hframes, hexits, hat, h.arrow,
                hdecision, List.eraseDups_cons]

theorem foldl_jump_of_bound {m : Machine} {name : Text} {target : Vertex}
    (h : m.labels.lookup name = some target) (exits : List Exit) :
    exits.foldl (jump name) m = m.connectAll exits target := by
  induction exits generalizing m with
  | nil => rfl
  | cons exit exits ih =>
      have hjump : m.jump name exit = m.connect exit.source target exit.label := by
        simp [jump, h]
      rw [List.foldl_cons, hjump, ih (by simpa [connect] using h)]
      rfl

theorem Draws.goto {m : Machine} {sketch : Sketch} {exits : List Exit} (h : m.Draws sketch exits)
    {name : Text} {target : Vertex} (hbound : m.labels.lookup name = some target) :
    (m.goto name).Draws (sketch.draw (exits.eraseDups.map fun exit => exit.to target)) [] ∧
      (m.goto name).frames = m.frames.modifyHead Frame.take ∧
      (m.goto name).book = m.book := by
  have heq : m.goto name = { m.takeBranch.connectAll exits.eraseDups target with
      exits := [], arrowLabel := none, current := none } := by
    have htaken : m.takeBranch.labels.lookup name = some target := by rwa [takeBranch_eq]
    rw [Machine.goto, foldl_jump_of_bound htaken, h.ready.jumpSources_eq, h.ends]
  have hframes : (m.goto name).frames = m.frames.modifyHead Frame.take := by
    rw [heq, connectAll_eq]
    exact h.ready.frames_takeBranch
  have hplaces : m.takeBranch.places = sketch.places := by rw [takeBranch_eq, h.places]
  refine ⟨⟨⟨by rw [heq], .inr (by rw [heq]), ?_⟩, h.grounded.goto name, ?_, ?_, ?_⟩, hframes, ?_⟩
  · intro frame frames hcons hopen
    have := taken_of_modifyHead (hframes.symm.trans hcons)
    simp [this] at hopen
  · rw [heq]
    exact places_connectAll hplaces exits.eraseDups target
  · intro arc harc
    rcases List.mem_append.1 harc with harc | harc
    · exact h.closed arc harc
    · obtain ⟨exit, hexit, rfl⟩ := List.mem_map.1 harc
      exact h.source_le (List.mem_eraseDups.1 hexit)
  · simp [heq, Machine.ends]
  · rw [heq, connectAll_eq, takeBranch_eq]
    rfl

theorem Draws.label {m : Machine} {sketch : Sketch} {exits : List Exit} (h : m.Draws sketch exits)
    (name : Text) : (m.step (.label name)).Draws sketch exits where
  ready := ⟨h.ready.arrow, h.ready.apart, h.ready.unentered⟩
  grounded := h.grounded.step _
  places := h.places
  closed := h.closed
  ends := h.ends

/-! ## The book of labels, jumps and warnings -/

theorem book_create_of_idle {m : Machine} (h : m.pendingLabels = []) (kind : VertexKind)
    (text : Text) : (m.create kind text).book = m.book := by
  simp [create, book, h]

theorem book_advance (m : Machine) (kind : VertexKind) (text : Text) :
    (m.advance kind text).book = (m.create kind text).book := by
  rw [advance, enter_eq]
  rfl

theorem book_otherwise {m : Machine} (h : m.frames ≠ []) (label : Option Text) :
    (m.otherwise label).book = m.book := by
  unfold Machine.otherwise
  split
  · contradiction
  · rfl

theorem book_endIf {m : Machine} (h : m.frames ≠ []) : m.endIf.book = m.book := by
  cases hframes : m.frames with
  | nil => contradiction
  | cons frame frames =>
      rw [endIf_of_frames hframes]
      rfl

theorem book_elseIf {m : Machine} (h : m.frames ≠ []) (hidle : m.pendingLabels = [])
    (no condition : Text) (label : Option Text) :
    (m.elseIf no condition label).book = m.book := by
  unfold Machine.elseIf
  split
  · contradiction
  · exact book_create_of_idle (m := { m with frames := _, exits := [] }) hidle .decision condition

/-! ## Runs -/

theorem run_append (m : Machine) (first second : List Statement) :
    m.run (first ++ second) = (m.run first).run second :=
  List.foldl_append

theorem run_cons (m : Machine) (statement : Statement) (statements : List Statement) :
    m.run (statement :: statements) = (m.step statement).run statements := rfl

theorem draws_empty : ({} : Machine).Draws {} [] where
  ready := ⟨rfl, .inl rfl, by simp⟩
  grounded := grounded_empty
  places := rfl
  closed := by simp [Sketch.Closed]
  ends := rfl

theorem finish_of_settled {m : Machine} (hgotos : m.gotos = []) (hlabels : m.pendingLabels = [])
    (hframes : m.frames = []) : m.finish = m := by
  cases m
  simp_all [finish]

end Machine

end Flowchart.Activity
