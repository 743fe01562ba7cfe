import Flowchart.Activity.Machine

/-!
# Grounded machines

Whatever a machine holds on to (where it stands, its loose ends, open conditions, bound labels and
kept jumps) is a vertex that it has created.  Every statement keeps this, whatever the order of
statements, so no edge leaves or enters a vertex without a place.
-/

namespace Flowchart.Activity

theorem VertexKind.head_name_injective {kind other : VertexKind}
    (h : kind.name.head? = other.name.head?) : kind = other := by
  revert h
  cases kind <;> cases other <;> decide

theorem Vertex.id_injective {v w : Vertex} (h : v.id = w.id) : v = w := by
  obtain ⟨kind, m⟩ := v
  obtain ⟨other, n⟩ := w
  have hsome : ∀ kind : VertexKind, kind.name.head?.isSome = true := by
    intro kind
    cases kind <;> rfl
  have hhead := congrArg List.head? h
  rw [Vertex.id, Vertex.id, List.head?_append, List.head?_append, Option.or_of_isSome (hsome _),
    Option.or_of_isSome (hsome _)] at hhead
  obtain rfl : kind = other := VertexKind.head_name_injective hhead
  have hnumber : '_' :: Text.ofNat m = '_' :: Text.ofNat n := List.append_cancel_left h
  rw [Text.ofNat_injective (List.cons.inj hnumber).2]

def Frame.held (frame : Frame) : List Vertex :=
  frame.decision :: frame.terminals.map Exit.source

namespace Machine

def vertices (m : Machine) : List Vertex := m.places.map Place.vertex

def held (m : Machine) : List Vertex :=
  m.current.toList ++ m.exits.map Exit.source ++ m.frames.flatMap Frame.held ++
    m.labels.map Prod.snd ++ m.gotos.map Goto.source

/-- Vertices are numbered in order, and only they are held and led to. -/
structure Grounded (m : Machine) : Prop where
  numbered : m.vertices.map Vertex.number = List.range' 1 m.places.length
  holds : ∀ v ∈ m.held, v ∈ m.vertices
  leads : ∀ place ∈ m.places, ∀ edge ∈ place.edges, edge.1 ∈ m.vertices

theorem mem_held {m : Machine} {v : Vertex} :
    v ∈ m.held ↔ m.current = some v ∨ (∃ exit ∈ m.exits, exit.source = v) ∨
      (∃ frame ∈ m.frames, v ∈ frame.held) ∨ (∃ name, (name, v) ∈ m.labels) ∨
      ∃ jump ∈ m.gotos, jump.source = v := by
  simp [held, eq_comm]

section Held

variable {m : Machine} {v : Vertex}

theorem held_of_current (h : m.current = some v) : v ∈ m.held := mem_held.2 (.inl h)

theorem held_of_exit (h : ∃ exit ∈ m.exits, exit.source = v) : v ∈ m.held :=
  mem_held.2 (.inr (.inl h))

theorem held_of_frame (h : ∃ frame ∈ m.frames, v ∈ frame.held) : v ∈ m.held :=
  mem_held.2 (.inr (.inr (.inl h)))

theorem held_of_label (h : ∃ name, (name, v) ∈ m.labels) : v ∈ m.held :=
  mem_held.2 (.inr (.inr (.inr (.inl h))))

theorem held_of_goto (h : ∃ jump ∈ m.gotos, jump.source = v) : v ∈ m.held :=
  mem_held.2 (.inr (.inr (.inr (.inr h))))

end Held

theorem grounded_empty : ({} : Machine).Grounded where
  numbered := rfl
  holds := by simp [held]
  leads := by simp

/-! ## What the building blocks leave alone -/

@[simp] theorem vertices_connect (m : Machine) (source target : Vertex) (label : Option Text) :
    (m.connect source target label).vertices = m.vertices := by
  simp only [vertices, connect, List.map_map]
  apply List.map_congr_left
  intro place _
  simp only [Function.comp]
  split <;> rfl

@[simp] theorem length_places_connect (m : Machine) (source target : Vertex)
    (label : Option Text) :
    (m.connect source target label).places.length = m.places.length := by
  simp [connect]

theorem connectAll_eq (m : Machine) (exits : List Exit) (target : Vertex) :
    m.connectAll exits target = { m with places := (m.connectAll exits target).places } := by
  induction exits generalizing m with
  | nil => rfl
  | cons exit exits ih =>
      simp only [connectAll, List.foldl_cons] at ih ⊢
      rw [ih]
      rfl

theorem foldl_bindLabel_eq (v : Vertex) (names : List Text) (m : Machine) :
    names.foldl (bindLabel v) m =
      { m with
        labels := (names.foldl (bindLabel v) m).labels
        warnings := (names.foldl (bindLabel v) m).warnings } := by
  induction names generalizing m with
  | nil => rfl
  | cons name names ih =>
      rw [List.foldl_cons, ih]
      unfold bindLabel
      split <;> rfl

theorem mem_labels_foldl_bindLabel {v : Vertex} {names : List Text} {m : Machine}
    {binding : Text × Vertex} (h : binding ∈ (names.foldl (bindLabel v) m).labels) :
    binding ∈ m.labels ∨ binding.2 = v := by
  induction names generalizing m with
  | nil => exact .inl h
  | cons name names ih =>
      rcases ih h with hmem | hv
      · unfold bindLabel at hmem
        split at hmem
        · exact .inl hmem
        · rcases List.mem_append.1 hmem with hmem | hnew
          · exact .inl hmem
          · exact .inr (by rw [List.mem_singleton.1 hnew])
      · exact .inr hv

section Create

variable (m : Machine) (kind : VertexKind) (text : Text)

@[simp] theorem create_places :
    (m.create kind text).places =
      m.places ++ [⟨m.nextVertex kind, Caption.ofText text, []⟩] := by
  rw [create, foldl_bindLabel_eq]

@[simp] theorem create_current : (m.create kind text).current = m.current := by
  rw [create, foldl_bindLabel_eq]

@[simp] theorem create_frames : (m.create kind text).frames = m.frames := by
  rw [create, foldl_bindLabel_eq]

@[simp] theorem create_exits : (m.create kind text).exits = m.exits := by
  rw [create, foldl_bindLabel_eq]

@[simp] theorem create_gotos : (m.create kind text).gotos = m.gotos := by
  rw [create, foldl_bindLabel_eq]

@[simp] theorem create_arrowLabel : (m.create kind text).arrowLabel = m.arrowLabel := by
  rw [create, foldl_bindLabel_eq]

@[simp] theorem vertices_create :
    (m.create kind text).vertices = m.vertices ++ [m.nextVertex kind] := by
  simp [vertices]

end Create

/-! ## Building blocks keep machines grounded -/

theorem Grounded.of_held {m n : Machine} (h : m.Grounded) (hplaces : n.places = m.places)
    (hheld : ∀ v ∈ n.held, v ∈ m.vertices) : n.Grounded where
  numbered := by simpa [vertices, hplaces] using h.numbered
  holds := by simpa [vertices, hplaces] using hheld
  leads := by simpa [vertices, hplaces] using h.leads

theorem Grounded.connect {m : Machine} (h : m.Grounded) (source : Vertex) {target : Vertex}
    (htarget : target ∈ m.vertices) (label : Option Text) :
    (m.connect source target label).Grounded where
  numbered := by simpa using h.numbered
  holds := by
    rw [vertices_connect]
    exact h.holds
  leads := by
    intro place hplace edge hedge
    rw [vertices_connect]
    obtain ⟨old, hold, rfl⟩ := List.mem_map.1 hplace
    split at hedge
    · rcases List.mem_append.1 hedge with hedge | hedge
      · exact h.leads old hold edge hedge
      · rw [List.mem_singleton.1 hedge]
        exact htarget
    · exact h.leads old hold edge hedge

theorem Grounded.connectAll {m : Machine} (h : m.Grounded) (exits : List Exit) {target : Vertex}
    (htarget : target ∈ m.vertices) :
    (m.connectAll exits target).Grounded ∧ target ∈ (m.connectAll exits target).vertices := by
  induction exits generalizing m with
  | nil => exact ⟨h, htarget⟩
  | cons exit exits ih =>
      exact ih (h.connect exit.source htarget exit.label) (by simpa using htarget)

theorem Grounded.create {m : Machine} (h : m.Grounded) (kind : VertexKind) (text : Text) :
    (m.create kind text).Grounded where
  numbered := by
    simp only [vertices_create, create_places, List.map_append, List.length_append, h.numbered]
    rw [List.length_singleton, List.range'_1_concat, Nat.add_comm 1]
    rfl
  holds := by
    intro v hv
    rw [vertices_create, List.mem_append, List.mem_singleton]
    rw [mem_held] at hv
    simp only [create_current, create_exits, create_frames, create_gotos] at hv
    rcases hv with hv | hv | hv | ⟨name, hv⟩ | hv
    · exact .inl (h.holds v (held_of_current hv))
    · exact .inl (h.holds v (held_of_exit hv))
    · exact .inl (h.holds v (held_of_frame hv))
    · rcases mem_labels_foldl_bindLabel hv with hold | hnew
      · exact .inl (h.holds v (held_of_label ⟨name, hold⟩))
      · exact .inr hnew
    · exact .inl (h.holds v (held_of_goto hv))
  leads := by
    intro place hplace edge hedge
    rw [vertices_create, List.mem_append]
    rw [create_places, List.mem_append, List.mem_singleton] at hplace
    rcases hplace with hplace | rfl
    · exact .inl (h.leads place hplace edge hedge)
    · simp at hedge

theorem Grounded.takeBranch {m : Machine} (h : m.Grounded) : m.takeBranch.Grounded := by
  unfold Machine.takeBranch
  split
  · exact h
  · rename_i frame frames hframes
    split
    · refine h.of_held rfl ?_
      intro v hv
      apply h.holds v
      simpa [mem_held, hframes, Frame.held] using hv
    · exact h

@[simp] theorem vertices_takeBranch (m : Machine) : m.takeBranch.vertices = m.vertices := by
  unfold Machine.takeBranch
  split
  · rfl
  · split <;> rfl

theorem Grounded.enter {m : Machine} (h : m.Grounded) {vertex : Vertex}
    (hvertex : vertex ∈ m.vertices) : (m.enter vertex).Grounded := by
  have left : ∀ n : Machine, n.Grounded → vertex ∈ n.vertices →
      ({ n.connectAll m.exits.eraseDups vertex with
        exits := [], arrowLabel := none, current := some vertex } : Machine).Grounded := by
    intro n hn hmem
    obtain ⟨hall, hthere⟩ := hn.connectAll m.exits.eraseDups hmem
    refine hall.of_held rfl ?_
    intro v hv
    rcases mem_held.1 hv with hv | ⟨exit, hexit, -⟩ | hv
    · rwa [← Option.some.inj hv]
    · simp at hexit
    · exact hall.holds v (mem_held.2 (.inr (.inr hv)))
  unfold Machine.enter
  cases hc : m.current with
  | none => exact left m h hvertex
  | some source =>
      apply left
      · exact h.takeBranch.connect source (by simpa using hvertex) _
      · simpa using hvertex

theorem Grounded.advance {m : Machine} (h : m.Grounded) (kind : VertexKind) (text : Text) :
    (m.advance kind text).Grounded :=
  (h.create kind text).enter (by simp)

/-! ## Branches -/

theorem mem_held_of_closed {m : Machine} {frame : Frame} (hframe : frame ∈ m.frames) {v : Vertex}
    (hv : v ∈ (m.closed frame).held) : v ∈ m.held := by
  have hdecision : frame.decision ∈ m.held :=
    held_of_frame ⟨frame, hframe, by simp [Frame.held]⟩
  simp only [closed, Frame.held, looseEnds, List.mem_cons, List.map_append, List.mem_append] at hv
  rcases hv with rfl | hv | hv
  · exact hdecision
  · exact held_of_frame ⟨frame, hframe, by simp [Frame.held, hv]⟩
  · split at hv
    · rw [List.map_singleton, List.mem_singleton] at hv
      rwa [hv]
    · rw [List.map_append, List.mem_append] at hv
      rcases hv with hv | hv
      · cases hc : m.current with
        | none => simp [hc] at hv
        | some source =>
            have : v = source := by simpa [hc] using hv
            exact held_of_current (by rw [hc, this])
      · obtain ⟨exit, hexit, rfl⟩ := List.mem_map.1 hv
        exact held_of_exit ⟨exit, hexit, rfl⟩

theorem mem_of_mem_splitChain {frames : List Frame} {frame : Frame}
    (h : frame ∈ (splitChain frames).1 ∨ frame ∈ (splitChain frames).2) : frame ∈ frames := by
  induction frames with
  | nil => simp [splitChain] at h
  | cons first frames ih =>
      simp only [splitChain] at h
      split at h
      · rcases h with h | h
        · rcases List.mem_cons.1 h with rfl | h
          · exact List.mem_cons_self
          · exact List.mem_cons_of_mem _ (ih (.inl h))
        · exact List.mem_cons_of_mem _ (ih (.inr h))
      · rcases h with h | h
        · simp [List.mem_singleton.1 h]
        · exact List.mem_cons_of_mem _ h

theorem Grounded.reframe {m : Machine} (h : m.Grounded) {frame : Frame} {frames : List Frame}
    (hframes : m.frames = frame :: frames) (new : Frame) (hdecision : new.decision = frame.decision)
    (hterminals : new.terminals = (m.closed frame).terminals) {current : Option Vertex}
    (hcurrent : ∀ v, current = some v → v = frame.decision ∨ m.current = some v) :
    ({ m with frames := new :: frames, exits := [], current := current } : Machine).Grounded := by
  have hmem : frame ∈ m.frames := by simp [hframes]
  have hnew : ∀ v ∈ new.held, v ∈ m.held := by
    intro v hv
    apply mem_held_of_closed hmem
    simpa only [Frame.held, hdecision, hterminals, closed] using hv
  refine h.of_held rfl ?_
  intro v hv
  apply h.holds v
  rcases mem_held.1 hv with hat | ⟨exit, hexit, -⟩ | ⟨f, hf, hvf⟩ | hrest
  · rcases hcurrent v hat with rfl | hat
    · exact hnew _ (by simp [Frame.held, hdecision])
    · exact held_of_current hat
  · simp at hexit
  · rcases List.mem_cons.1 hf with rfl | hf
    · exact hnew v hvf
    · exact held_of_frame ⟨f, by simp [hframes, hf], hvf⟩
  · exact mem_held.2 (.inr (.inr (.inr hrest)))

theorem Grounded.elseIf {m : Machine} (h : m.Grounded) (no condition : Text)
    (label : Option Text) : (m.elseIf no condition label).Grounded := by
  unfold Machine.elseIf
  split
  · exact h.of_held rfl h.holds
  · rename_i frame frames hframes
    have opened := (h.reframe hframes
      { m.closed frame with inElse := true, elseLabel := some no, branchTaken := true }
      rfl rfl (fun v hv => .inr hv)).create .decision condition
    have htarget : m.nextVertex .decision ∈ (({ m with
        frames := { m.closed frame with inElse := true, elseLabel := some no, branchTaken := true } ::
          frames, exits := [] } : Machine).create .decision condition).vertices := by
      simp [nextVertex]
    have linked := opened.connect frame.decision htarget (some no)
    refine linked.of_held rfl ?_
    intro v hv
    rcases mem_held.1 hv with hv | hv | ⟨f, hf, hv⟩ | hv
    · rw [← Option.some.inj hv]
      simp [nextVertex]
    · exact linked.holds v (held_of_exit hv)
    · rcases List.mem_cons.1 hf with rfl | hf
      · have : v = m.nextVertex .decision := by simpa [Frame.held] using hv
        simp [this, nextVertex]
      · refine linked.holds v (held_of_frame ⟨f, ?_, hv⟩)
        simpa [Machine.connect] using hf
    · exact linked.holds v (mem_held.2 (.inr (.inr (.inr hv))))

theorem Grounded.otherwise {m : Machine} (h : m.Grounded) (label : Option Text) :
    (m.otherwise label).Grounded := by
  unfold Machine.otherwise
  split
  · exact h.of_held rfl h.holds
  · rename_i frame frames hframes
    exact h.reframe hframes
      { m.closed frame with inElse := true, elseLabel := label, branchTaken := false }
      rfl rfl (fun v hv => .inl (Option.some.inj hv).symm)

/-- The frame that `endif` closes: without an `else` the decision is one more terminal. -/
def shut (m : Machine) (frame : Frame) : Frame :=
  if frame.inElse then m.closed frame
  else { m.closed frame with terminals := (m.closed frame).terminals ++ [⟨frame.decision, none⟩] }

theorem endIf_of_frames {m : Machine} {frame : Frame} {frames : List Frame}
    (h : m.frames = frame :: frames) :
    m.endIf = { m with
      frames := (splitChain (m.shut frame :: frames)).2
      current := none
      exits := (splitChain (m.shut frame :: frames)).1.reverse.flatMap Frame.terminals } := by
  unfold Machine.endIf
  rw [h]
  rfl

theorem endIf_of_no_frames {m : Machine} (h : m.frames = []) :
    m.endIf = { m with warnings := m.warnings ++ [.strayEndIf] } := by
  unfold Machine.endIf
  split
  · rfl
  · simp_all

theorem mem_held_of_shut {m : Machine} {frame : Frame} (hframe : frame ∈ m.frames) {v : Vertex}
    (hv : v ∈ (m.shut frame).held) : v ∈ m.held := by
  apply mem_held_of_closed hframe
  unfold shut at hv
  split at hv
  · exact hv
  · simp only [Frame.held, List.map_append, List.mem_cons, List.mem_append, List.map_cons,
      List.map_nil, List.not_mem_nil, or_false] at hv ⊢
    rcases hv with hv | hv | hv
    · exact .inl hv
    · exact .inr hv
    · exact .inl hv

theorem Grounded.endIf {m : Machine} (h : m.Grounded) : m.endIf.Grounded := by
  cases hframes : m.frames with
  | nil =>
      rw [endIf_of_no_frames hframes]
      exact h.of_held rfl h.holds
  | cons frame frames =>
      rw [endIf_of_frames hframes]
      have hany : ∀ f ∈ m.shut frame :: frames, ∀ v ∈ f.held, v ∈ m.held := by
        intro f hf v hv
        rcases List.mem_cons.1 hf with rfl | hf
        · exact mem_held_of_shut (by simp [hframes]) hv
        · exact held_of_frame ⟨f, by simp [hframes, hf], hv⟩
      refine h.of_held rfl ?_
      intro v hv
      apply h.holds v
      rcases mem_held.1 hv with hat | ⟨exit, hexit, rfl⟩ | ⟨f, hf, hvf⟩ | hrest
      · simp at hat
      · obtain ⟨f, hf, hexit⟩ := List.mem_flatMap.1 hexit
        refine hany f (mem_of_mem_splitChain (.inl (List.mem_reverse.1 hf))) _ ?_
        exact List.mem_cons_of_mem _ (List.mem_map_of_mem hexit)
      · exact hany f (mem_of_mem_splitChain (.inr hf)) v hvf
      · exact mem_held.2 (.inr (.inr (.inr hrest)))

/-! ## Jumps -/

theorem mem_held_of_lookup {m : Machine} {name : Text} {v : Vertex}
    (h : m.labels.lookup name = some v) : v ∈ m.held := by
  refine held_of_label ⟨name, ?_⟩
  obtain ⟨before, after, heq, -⟩ := List.lookup_eq_some_iff.1 h
  simp [heq]

theorem mem_held_of_jumpSources {m : Machine} {exit : Exit} (h : exit ∈ m.jumpSources) :
    exit.source ∈ m.held := by
  unfold jumpSources at h
  split at h
  · exact held_of_exit ⟨exit, List.mem_eraseDups.1 h, rfl⟩
  · rename_i vertex hcurrent
    have hat : vertex ∈ m.held := held_of_current hcurrent
    split at h
    · rwa [List.mem_singleton.1 h]
    · rename_i frame frames hframes
      split at h
      · rw [List.mem_singleton.1 h]
        exact held_of_frame ⟨frame, by simp [hframes], by simp [Frame.held]⟩
      · rwa [List.mem_singleton.1 h]

theorem Grounded.jump {m : Machine} (h : m.Grounded) (name : Text) {exit : Exit}
    (hexit : exit.source ∈ m.vertices) :
    (m.jump name exit).Grounded ∧ (m.jump name exit).vertices = m.vertices := by
  unfold Machine.jump
  split
  · rename_i target htarget
    exact ⟨h.connect _ (h.holds _ (mem_held_of_lookup htarget)) _, vertices_connect ..⟩
  · refine ⟨h.of_held rfl ?_, rfl⟩
    intro v hv
    rcases mem_held.1 hv with hv | hv | hv | hv | ⟨goto, hgoto, rfl⟩
    · exact h.holds v (held_of_current hv)
    · exact h.holds v (held_of_exit hv)
    · exact h.holds v (held_of_frame hv)
    · exact h.holds v (held_of_label hv)
    · rcases List.mem_append.1 hgoto with hold | hnew
      · exact h.holds _ (held_of_goto ⟨goto, hold, rfl⟩)
      · rwa [List.mem_singleton.1 hnew]

theorem Grounded.jumps {m : Machine} (h : m.Grounded) (name : Text) {exits : List Exit}
    (hexits : ∀ exit ∈ exits, exit.source ∈ m.vertices) :
    (exits.foldl (Machine.jump name) m).Grounded := by
  induction exits generalizing m with
  | nil => exact h
  | cons exit exits ih =>
      obtain ⟨hjump, hsame⟩ := h.jump name (hexits exit List.mem_cons_self)
      apply ih hjump
      intro other hother
      rw [hsame]
      exact hexits other (List.mem_cons_of_mem _ hother)

theorem Grounded.goto {m : Machine} (h : m.Grounded) (name : Text) : (m.goto name).Grounded := by
  have hjumps : (m.jumpSources.foldl (Machine.jump name) m.takeBranch).Grounded := by
    apply h.takeBranch.jumps
    intro exit hexit
    rw [vertices_takeBranch]
    exact h.holds _ (mem_held_of_jumpSources hexit)
  refine hjumps.of_held rfl ?_
  intro v hv
  apply hjumps.holds v
  rcases mem_held.1 hv with hat | ⟨exit, hexit, -⟩ | hrest
  · cases hat
  · cases hexit
  · exact mem_held.2 (.inr (.inr hrest))

/-! ## Runs -/

theorem Grounded.step {m : Machine} (h : m.Grounded) (statement : Statement) :
    (m.step statement).Grounded := by
  cases statement with
  | start => exact h.advance ..
  | stop =>
      refine (h.advance .finish "End".toList).of_held rfl ?_
      intro v hv
      apply (h.advance .finish "End".toList).holds v
      rcases mem_held.1 hv with hat | hrest
      · cases hat
      · exact mem_held.2 (.inr hrest)
  | activity text =>
      simp only [Machine.step]
      split
      · exact h
      · exact h.advance ..
  -- The new frame holds the vertex that was just made.
  | ifThen condition label =>
      have moved := h.advance .decision condition
      refine moved.of_held rfl ?_
      intro v hv
      rcases mem_held.1 hv with hat | hexit | ⟨frame, hframe, hvf⟩ | hrest
      · exact moved.holds v (held_of_current hat)
      · exact moved.holds v (held_of_exit hexit)
      · rcases List.mem_cons.1 hframe with rfl | hframe
        · have : v = m.nextVertex .decision := by simpa [Frame.held] using hvf
          rw [this]
          exact moved.holds _ (held_of_current rfl)
        · exact moved.holds v (held_of_frame ⟨frame, hframe, hvf⟩)
      · exact moved.holds v (mem_held.2 (.inr (.inr (.inr hrest))))
  | elseIf no condition label => exact h.elseIf no condition label
  | otherwise label => exact h.otherwise label
  | endIf => exact h.endIf
  | label name => exact h.of_held rfl h.holds
  | goto name => exact h.goto name
  | arrow label => exact h.of_held rfl h.holds

theorem Grounded.run {m : Machine} (h : m.Grounded) (statements : List Statement) :
    (m.run statements).Grounded := by
  induction statements generalizing m with
  | nil => exact h
  | cons statement statements ih => exact ih (h.step statement)

theorem Grounded.settle {m : Machine} (h : m.Grounded) (jump : Goto) : (m.settle jump).Grounded := by
  unfold Machine.settle
  split
  · rename_i target htarget
    exact h.connect _ (h.holds _ (mem_held_of_lookup htarget)) _
  · exact h.of_held rfl h.holds

theorem Grounded.finish {m : Machine} (h : m.Grounded) : m.finish.Grounded := by
  have settled : ∀ (gotos : List Goto) (n : Machine), n.Grounded →
      (gotos.foldl Machine.settle n).Grounded := by
    intro gotos
    induction gotos with
    | nil => exact fun n hn => hn
    | cons jump gotos ih => exact fun n hn => ih _ (hn.settle jump)
  refine (settled m.gotos m h).of_held rfl ?_
  intro v hv
  apply (settled m.gotos m h).holds v
  rcases mem_held.1 hv with hv | hv | hv | hv | ⟨jump, hjump, -⟩
  · exact held_of_current hv
  · exact held_of_exit hv
  · exact held_of_frame hv
  · exact held_of_label hv
  · cases hjump

end Machine

end Flowchart.Activity
