import Flowchart.Proofs.Activity.Drawing
import Flowchart.Proofs.Activity.Soundness

/-!
# What a statement does

A machine keeps a record: the places it has created, with the edges that leave them, the labels that
stand for them, the jumps that wait for a label, and warnings.  A statement only adds to the record,
and what it adds is said here once: the place it makes with the arcs that lead there, the jumps it
asks for, the labels it declares.
-/

namespace Flowchart.Activity

/-- The edges that leave a vertex, if the arcs are drawn one after the other. -/
def leaving (vertex : Vertex) (arcs : List Arc) : List (Vertex × Option Text) :=
  (arcs.filter (·.source = vertex)).map fun arc => (arc.target, arc.label)

theorem leaving_append (vertex : Vertex) (arcs others : List Arc) :
    leaving vertex (arcs ++ others) = leaving vertex arcs ++ leaving vertex others := by
  simp [leaving]

theorem leaving_singleton (vertex : Vertex) (arc : Arc) :
    leaving vertex [arc] = if arc.source = vertex then [(arc.target, arc.label)] else [] := by
  by_cases h : arc.source = vertex <;> simp [leaving, h]

def drawArc (places : List Place) (arc : Arc) : List Place :=
  places.map fun place =>
    if place.vertex = arc.source then { place with edges := place.edges ++ [(arc.target, arc.label)] }
    else place

def drawArcs (places : List Place) (arcs : List Arc) : List Place := arcs.foldl drawArc places

def edgesAt (places : List Place) (vertex : Vertex) : List (Vertex × Option Text) :=
  ((places.find? (·.vertex = vertex)).map Place.edges).getD []

@[simp] theorem vertices_drawArcs (places : List Place) (arcs : List Arc) :
    (drawArcs places arcs).map Place.vertex = places.map Place.vertex := by
  induction arcs generalizing places with
  | nil => rfl
  | cons arc arcs ih =>
      refine (ih _).trans ?_
      simp only [drawArc, List.map_map]
      apply List.map_congr_left
      intro place _
      simp only [Function.comp]
      split <;> rfl

theorem edgesAt_drawArc {places : List Place} {arc : Arc}
    (h : arc.source ∈ places.map Place.vertex) (vertex : Vertex) :
    edgesAt (drawArc places arc) vertex = edgesAt places vertex ++ leaving vertex [arc] := by
  have hvertex : ∀ place : Place, (if place.vertex = arc.source then
      { place with edges := place.edges ++ [(arc.target, arc.label)] } else place).vertex =
        place.vertex := by
    intro place
    split <;> rfl
  simp only [edgesAt, drawArc, List.find?_map, Function.comp_def, hvertex, Option.map_map,
    leaving_singleton]
  cases hfound : places.find? (·.vertex = vertex) with
  | none =>
      have hne : arc.source ≠ vertex := by
        rintro rfl
        obtain ⟨place, hplace, hsource⟩ := List.mem_map.1 h
        simpa [hsource] using List.find?_eq_none.1 hfound place hplace
      simp [hne]
  | some place =>
      have hplace : place.vertex = vertex := by simpa using List.find?_some hfound
      by_cases hsource : arc.source = vertex
      · simp [hplace, hsource]
      · simp [hplace, hsource, Ne.symm hsource]

theorem edgesAt_drawArcs {places : List Place} {arcs : List Arc}
    (h : ∀ arc ∈ arcs, arc.source ∈ places.map Place.vertex) (vertex : Vertex) :
    edgesAt (drawArcs places arcs) vertex = edgesAt places vertex ++ leaving vertex arcs := by
  induction arcs generalizing places with
  | nil => simp [drawArcs, leaving]
  | cons arc arcs ih =>
      obtain ⟨harc, harcs⟩ := List.forall_mem_cons.1 h
      have hkept : ∀ other ∈ arcs, other.source ∈ (drawArc places arc).map Place.vertex := by
        intro other hother
        have hsame := vertices_drawArcs places [arc]
        rw [drawArcs, List.foldl_cons, List.foldl_nil] at hsame
        rw [hsame]
        exact harcs other hother
      rw [drawArcs, List.foldl_cons]
      refine (ih hkept).trans ?_
      rw [edgesAt_drawArc harc, List.append_assoc, ← leaving_append]
      rfl

theorem edgesAt_append {places more : List Place} (h : ∀ place ∈ more, place.edges = [])
    (vertex : Vertex) : edgesAt (places ++ more) vertex = edgesAt places vertex := by
  rw [edgesAt, List.find?_append, edgesAt]
  cases places.find? (·.vertex = vertex) with
  | some place => rfl
  | none =>
      rw [Option.none_or]
      cases hfound : more.find? (·.vertex = vertex) with
      | none => rfl
      | some place => exact h place (List.mem_of_find?_eq_some hfound)

namespace Goto

def arc? (labels : List (Text × Vertex)) (jump : Goto) : Option Arc :=
  (labels.lookup jump.name).map fun target => ⟨jump.source, target, jump.label⟩

def unbound (labels : List (Text × Vertex)) (jump : Goto) : Bool :=
  (labels.lookup jump.name).isNone

def warning (jump : Goto) : Warning := .undeclaredLabel jump.name jump.source

end Goto

def bindName (vertex : Vertex) (labels : List (Text × Vertex)) (name : Text) :
    List (Text × Vertex) :=
  if (labels.lookup name).isSome then labels else labels ++ [(name, vertex)]

def bindings (vertex : Vertex) (labels : List (Text × Vertex)) (names : List Text) :
    List (Text × Vertex) :=
  names.foldl (bindName vertex) labels

/-- Warnings of the names that are bound already when their turn comes. -/
def repeats (vertex : Vertex) : List (Text × Vertex) → List Text → List Warning
  | _, [] => []
  | labels, name :: names =>
      (if (labels.lookup name).isSome then [.repeatedLabel name] else []) ++
        repeats vertex (bindName vertex labels name) names

theorem bindings_append (vertex : Vertex) (labels : List (Text × Vertex)) (names more : List Text) :
    bindings vertex labels (names ++ more) =
      bindings vertex (bindings vertex labels names) more :=
  List.foldl_append

theorem repeats_append (vertex : Vertex) (labels : List (Text × Vertex)) (names more : List Text) :
    repeats vertex labels (names ++ more) =
      repeats vertex labels names ++ repeats vertex (bindings vertex labels names) more := by
  induction names generalizing labels with
  | nil => rfl
  | cons name names ih =>
      rw [List.cons_append, repeats, repeats, ih, List.append_assoc]
      rfl

theorem lookup_bindings (vertex : Vertex) (labels : List (Text × Vertex)) (names : List Text)
    (name : Text) :
    (bindings vertex labels names).lookup name =
      (labels.lookup name).or (if name ∈ names then some vertex else none) := by
  induction names generalizing labels with
  | nil => simp [bindings]
  | cons first names ih =>
      have hfirst : (bindName vertex labels first).lookup name =
          (labels.lookup name).or (if name = first then some vertex else none) := by
        unfold bindName
        by_cases heq : name = first
        · subst heq
          cases hbound : labels.lookup name <;> simp [hbound, List.lookup_append]
        · cases labels.lookup first <;>
            simp [heq, List.lookup_append, List.lookup_cons, beq_eq_false_iff_ne.2 heq]
      rw [bindings, List.foldl_cons]
      refine (ih (bindName vertex labels first)).trans ?_
      rw [hfirst, Option.or_assoc]
      by_cases heq : name = first <;> simp [heq]

namespace Machine

def newPlace (m : Machine) (kind : VertexKind) (text : Text) : Place :=
  ⟨m.nextVertex kind, Caption.ofText text, []⟩

def made (m : Machine) : Statement → Option Place
  | .start => some (m.newPlace .start "Start".toList)
  | .stop => some (m.newPlace .finish "End".toList)
  | .activity text => if text.isEmpty then none else some (m.newPlace .activity text)
  | .ifThen condition _ => some (m.newPlace .decision condition)
  | .elseIf _ condition _ =>
    if m.frames.isEmpty then none else some (m.newPlace .decision condition)
  | .otherwise _ | .endIf | .label _ | .goto _ | .arrow _ => none

/-- The loose ends that lead into the vertex that is entered next. -/
def waysIn (m : Machine) : List Exit :=
  (m.current.map fun vertex => ⟨vertex, m.leavingLabel⟩).toList ++ m.exits.eraseDups

/-- The arcs into the place that a statement creates. `elseif` leads there from the decision before,
and from nowhere else. -/
def arcs (m : Machine) (statement : Statement) : List Arc :=
  (m.made statement).toList.flatMap fun place =>
    match statement with
    | .elseIf no _ _ =>
      m.frames.head?.toList.map fun frame => ⟨frame.decision, place.vertex, some no⟩
    | _ => m.waysIn.map fun exit : Exit => exit.to place.vertex

def requests (m : Machine) : Statement → List Goto
  | .goto name => m.jumpSources.map fun exit => ⟨exit.source, name, exit.label⟩
  | _ => []

/-- All arcs of a statement: jumps to labels that are bound already are drawn at once. -/
def drawn (m : Machine) (statement : Statement) : List Arc :=
  m.arcs statement ++ (m.requests statement).filterMap (Goto.arc? m.labels)

def declared : Statement → List Text
  | .label name => [name]
  | _ => []

def stray (m : Machine) (statement : Statement) : List Warning :=
  if m.frames.isEmpty then
    match statement with
    | .elseIf _ _ _ => [.strayElseIf]
    | .otherwise _ => [.strayElse]
    | .endIf => [.strayEndIf]
    | _ => []
  else []

def gather {α : Type} (yield : Machine → Statement → List α) (m : Machine) :
    List Statement → List α
  | [] => []
  | statement :: statements =>
      yield m statement ++ (m.step statement).gather yield statements

def edgesFrom (m : Machine) (vertex : Vertex) : List (Vertex × Option Text) :=
  edgesAt m.places vertex

section Blocks

variable (m : Machine)

theorem connectAll_eq_drawArcs (exits : List Exit) (target : Vertex) :
    m.connectAll exits target =
      { m with places := drawArcs m.places (exits.map fun exit => exit.to target) } := by
  induction exits generalizing m with
  | nil => rfl
  | cons exit exits ih => exact ih (m.connect exit.source target exit.label)

/-- The frames once the innermost branch is taken, if the machine is still at its beginning. -/
def takenFrames : List Frame :=
  if m.atBranch then m.frames.modifyHead Frame.take else m.frames

theorem takeBranch_eq_taken : m.takeBranch = { m with frames := m.takenFrames } := by
  unfold takeBranch takenFrames
  cases hat : m.atBranch with
  | true =>
      cases hframes : m.frames with
      | nil => simp [atBranch, hframes] at hat
      | cons frame frames => rfl
  | false => cases hframes : m.frames <;> simp [← hframes]

theorem atBranch_of_idle (h : m.current = none) : m.atBranch = false := by
  cases hframes : m.frames <;> simp [atBranch, hframes, h]

theorem enter_eq_drawArcs (vertex : Vertex) :
    m.enter vertex = { m with
      places := drawArcs m.places (m.waysIn.map fun exit => exit.to vertex)
      frames := m.takenFrames
      exits := []
      arrowLabel := none
      current := some vertex } := by
  cases hcurrent : m.current with
  | none =>
      have hframes : m.takenFrames = m.frames := by
        simp [takenFrames, m.atBranch_of_idle hcurrent]
      simp [enter, waysIn, hcurrent, hframes, connectAll_eq_drawArcs]
  | some source =>
      simp [enter, waysIn, hcurrent, connectAll_eq_drawArcs, takeBranch_eq_taken, connect, drawArcs,
        drawArc, Exit.to]

theorem foldl_bindLabel (vertex : Vertex) (names : List Text) :
    names.foldl (bindLabel vertex) m = { m with
      labels := bindings vertex m.labels names
      warnings := m.warnings ++ repeats vertex m.labels names } := by
  induction names generalizing m with
  | nil => simp [bindings, repeats]
  | cons name names ih =>
      rw [List.foldl_cons, ih]
      cases hbound : m.labels.lookup name <;>
        simp [bindLabel, bindings, bindName, repeats, hbound]

theorem create_eq (kind : VertexKind) (text : Text) :
    m.create kind text = { m with
      places := m.places ++ [m.newPlace kind text]
      labels := bindings (m.nextVertex kind) m.labels m.pendingLabels
      pendingLabels := []
      warnings := m.warnings ++ repeats (m.nextVertex kind) m.labels m.pendingLabels } := by
  rw [create, foldl_bindLabel]
  rfl

theorem advance_eq (kind : VertexKind) (text : Text) :
    m.advance kind text = { m with
      places := drawArcs (m.places ++ [m.newPlace kind text])
        (m.waysIn.map fun exit => exit.to (m.nextVertex kind))
      current := some (m.nextVertex kind)
      frames := m.takenFrames
      labels := bindings (m.nextVertex kind) m.labels m.pendingLabels
      pendingLabels := []
      arrowLabel := none
      exits := []
      warnings := m.warnings ++ repeats (m.nextVertex kind) m.labels m.pendingLabels } := by
  rw [advance, enter_eq_drawArcs, create_eq]
  rfl

theorem foldl_jump_of_unbound {m : Machine} {name : Text} (h : m.labels.lookup name = none)
    (exits : List Exit) :
    exits.foldl (jump name) m =
      { m with gotos := m.gotos ++ exits.map fun exit => ⟨exit.source, name, exit.label⟩ } := by
  induction exits generalizing m with
  | nil => simp
  | cons exit exits ih =>
      have hjump : m.jump name exit =
          { m with gotos := m.gotos ++ [⟨exit.source, name, exit.label⟩] } := by
        simp [jump, h]
      have hrest := ih (m := { m with
        gotos := m.gotos ++ [⟨exit.source, name, exit.label⟩] }) h
      rw [List.foldl_cons, hjump, hrest, List.map_cons, List.append_assoc]
      rfl

theorem goto_eq (name : Text) :
    m.goto name = { m with
      places := drawArcs m.places ((m.requests (.goto name)).filterMap (Goto.arc? m.labels))
      current := none
      frames := m.takenFrames
      arrowLabel := none
      gotos := m.gotos ++ (m.requests (.goto name)).filter (Goto.unbound m.labels)
      exits := [] } := by
  have hlabels : m.takeBranch.labels = m.labels := by rw [takeBranch_eq]
  cases hbound : m.labels.lookup name with
  | none =>
      have harcs : (m.requests (.goto name)).filterMap (Goto.arc? m.labels) = [] := by
        simp [requests, Goto.arc?, hbound]
      have hkept : (m.requests (.goto name)).filter (Goto.unbound m.labels) =
          m.requests (.goto name) := by
        rw [List.filter_eq_self]
        intro jump hjump
        obtain ⟨exit, -, rfl⟩ := List.mem_map.1 hjump
        rw [Goto.unbound, hbound]
        rfl
      rw [goto, foldl_jump_of_unbound (by rw [hlabels, hbound]), takeBranch_eq_taken, harcs, hkept]
      rfl
  | some target =>
      have harcs : (m.requests (.goto name)).filterMap (Goto.arc? m.labels) =
          m.jumpSources.map fun exit => exit.to target := by
        simp [requests, Goto.arc?, hbound, List.filterMap_map, Function.comp_def, Exit.to]
      have hkept : (m.requests (.goto name)).filter (Goto.unbound m.labels) = [] := by
        simp [requests, Goto.unbound, hbound, List.filter_map, Function.comp_def]
      rw [goto, foldl_jump_of_bound (by rw [hlabels, hbound]), connectAll_eq_drawArcs,
        takeBranch_eq_taken, harcs, hkept, List.append_nil]

theorem elseIf_eq {frame : Frame} {frames : List Frame} (h : m.frames = frame :: frames)
    (no condition : Text) (label : Option Text) :
    m.elseIf no condition label = { m with
      places := drawArcs (m.places ++ [m.newPlace .decision condition])
        [⟨frame.decision, m.nextVertex .decision, some no⟩]
      current := some (m.nextVertex .decision)
      frames := { decision := m.nextVertex .decision, thenLabel := label, chained := true } ::
        frame.turn (m.looseEnds frame) (some no) true :: frames
      labels := bindings (m.nextVertex .decision) m.labels m.pendingLabels
      pendingLabels := []
      exits := []
      warnings := m.warnings ++ repeats (m.nextVertex .decision) m.labels m.pendingLabels } := by
  simp only [elseIf, h, create_eq]
  rfl

theorem otherwise_eq {frame : Frame} {frames : List Frame} (h : m.frames = frame :: frames)
    (label : Option Text) :
    m.otherwise label = { m with
      frames := frame.turn (m.looseEnds frame) label false :: frames
      exits := []
      current := some frame.decision } := by
  simp only [Machine.otherwise, h]
  rfl

theorem foldl_settle (jumps : List Goto) :
    jumps.foldl settle m = { m with
      places := drawArcs m.places (jumps.filterMap (Goto.arc? m.labels))
      warnings := m.warnings ++ (jumps.filter (Goto.unbound m.labels)).map Goto.warning } := by
  induction jumps generalizing m with
  | nil => simp [drawArcs]
  | cons jump jumps ih =>
      rw [List.foldl_cons, ih]
      cases hbound : m.labels.lookup jump.name <;>
        simp [settle, connect, drawArcs, drawArc, Goto.arc?, Goto.unbound, Goto.warning, hbound]

def settledPlaces : List Place :=
  drawArcs m.places (m.gotos.filterMap (Goto.arc? m.labels))

theorem finish_eq : m.finish = { m with
    places := m.settledPlaces
    gotos := []
    warnings := m.warnings ++ (m.gotos.filter (Goto.unbound m.labels)).map Goto.warning ++
      m.frames.reverse.map (fun frame => .unclosedIf
        ({ m with places := m.settledPlaces }.titleOf frame.decision)) ++
      m.pendingLabels.map .idleLabel } := by
  unfold finish
  rw [foldl_settle]
  rfl

end Blocks

section Places

variable {m : Machine}

theorem places_step (statement : Statement) :
    (m.step statement).places =
      drawArcs (m.places ++ (m.made statement).toList) (m.drawn statement) := by
  have hsame : m.made statement = none → m.requests statement = [] →
      m.places = drawArcs (m.places ++ (m.made statement).toList) (m.drawn statement) := by
    intro hmade hrequests
    simp [drawn, arcs, hmade, hrequests, drawArcs]
  cases statement with
  | start => simp [step, advance_eq, made, drawn, arcs, requests, newPlace]
  | stop => simp [step, advance_eq, made, drawn, arcs, requests, newPlace]
  | activity text =>
      cases hempty : text.isEmpty with
      | true => simpa [step, hempty] using hsame (by simp [made, hempty]) rfl
      | false => simp [step, hempty, advance_eq, made, drawn, arcs, requests, newPlace]
  | ifThen condition label => simp [step, advance_eq, made, drawn, arcs, requests, newPlace]
  | elseIf no condition label =>
      cases hframes : m.frames with
      | nil => simpa [step, elseIf, hframes] using hsame (by simp [made, hframes]) rfl
      | cons frame frames =>
          simp [step, elseIf_eq m hframes, made, drawn, arcs, requests, hframes, newPlace]
  | otherwise label =>
      refine Eq.trans ?_ (hsame rfl rfl)
      simp only [step, Machine.otherwise]
      split <;> rfl
  | endIf =>
      refine Eq.trans ?_ (hsame rfl rfl)
      simp only [step, endIf]
      split <;> rfl
  | label name => exact hsame rfl rfl
  | goto name => simp [step, goto_eq, made, drawn, arcs]
  | arrow label => exact hsame rfl rfl

theorem vertices_step (m : Machine) (statement : Statement) :
    (m.step statement).vertices = m.vertices ++ (m.made statement).toList.map Place.vertex := by
  rw [vertices, places_step, vertices_drawArcs, List.map_append]
  rfl

theorem vertices_prefix_run (m : Machine) (statements : List Statement) :
    m.vertices <+: (m.run statements).vertices := by
  induction statements generalizing m with
  | nil => exact List.prefix_refl _
  | cons statement statements ih =>
      refine List.IsPrefix.trans ?_ (ih (m.step statement))
      rw [vertices_step]
      exact List.prefix_append _ _

theorem vertices_finish (m : Machine) : m.finish.vertices = m.vertices := by
  rw [finish_eq]
  exact vertices_drawArcs _ _

theorem Grounded.source_mem_of_waysIn (h : m.Grounded) {exit : Exit} (hexit : exit ∈ m.waysIn) :
    exit.source ∈ m.vertices := by
  apply h.holds
  rcases List.mem_append.1 hexit with hexit | hexit
  · obtain ⟨vertex, hcurrent, rfl⟩ : ∃ vertex, m.current = some vertex ∧
        ⟨vertex, m.leavingLabel⟩ = exit := by simpa using hexit
    exact held_of_current hcurrent
  · exact held_of_exit ⟨exit, List.mem_eraseDups.1 hexit, rfl⟩

theorem Grounded.source_mem_of_requests (h : m.Grounded) {statement : Statement} {jump : Goto}
    (hjump : jump ∈ m.requests statement) : jump.source ∈ m.vertices := by
  cases statement with
  | goto name =>
      obtain ⟨exit, hexit, rfl⟩ := List.mem_map.1 hjump
      exact h.holds _ (mem_held_of_jumpSources hexit)
  | _ => cases hjump

theorem Goto.source_of_arc {labels : List (Text × Vertex)} {jump : Goto} {arc : Arc}
    (h : jump.arc? labels = some arc) : arc.source = jump.source := by
  obtain ⟨target, -, rfl⟩ := Option.map_eq_some_iff.1 h
  rfl

theorem Grounded.source_mem_of_drawn (h : m.Grounded) {statement : Statement} {arc : Arc}
    (harc : arc ∈ m.drawn statement) : arc.source ∈ m.vertices := by
  rcases List.mem_append.1 harc with harc | harc
  · obtain ⟨place, -, harc⟩ := List.mem_flatMap.1 harc
    split at harc
    · obtain ⟨frame, hframe, rfl⟩ := List.mem_map.1 harc
      have hmem : frame ∈ m.frames := List.mem_of_mem_head? (Option.mem_toList.1 hframe)
      exact h.holds _ (held_of_frame ⟨frame, hmem, by simp [Frame.held]⟩)
    · obtain ⟨exit, hexit, rfl⟩ := List.mem_map.1 harc
      exact h.source_mem_of_waysIn hexit
  · obtain ⟨jump, hjump, hbecomes⟩ := List.mem_filterMap.1 harc
    rw [Goto.source_of_arc hbecomes]
    exact h.source_mem_of_requests hjump

theorem edges_of_made {statement : Statement} {place : Place} (h : m.made statement = some place) :
    place.edges = [] := by
  cases statement <;> simp only [made, Option.ite_none_left_eq_some, reduceCtorEq,
    Option.some.injEq] at h <;> grind [newPlace]

/-- A statement leaves the edges as they are, and adds those of its arcs. -/
theorem edgesFrom_step (h : m.Grounded) (statement : Statement) (vertex : Vertex) :
    (m.step statement).edgesFrom vertex =
      m.edgesFrom vertex ++ leaving vertex (m.drawn statement) := by
  rw [edgesFrom, places_step, edgesAt_drawArcs, edgesAt_append]
  · rfl
  · exact fun place hplace => edges_of_made (Option.mem_toList.1 hplace)
  · intro arc harc
    rw [List.map_append]
    exact List.mem_append_left _ (h.source_mem_of_drawn harc)

theorem edgesFrom_run (h : m.Grounded) (statements : List Statement) (vertex : Vertex) :
    (m.run statements).edgesFrom vertex =
      m.edgesFrom vertex ++ leaving vertex (m.gather drawn statements) := by
  induction statements generalizing m with
  | nil => exact (List.append_nil _).symm
  | cons statement statements ih =>
      rw [run_cons, ih (h.step statement), edgesFrom_step h, List.append_assoc, ← leaving_append]
      rfl

theorem Grounded.edges_eq (h : m.Grounded) {place : Place} (hplace : place ∈ m.places) :
    place.edges = m.edgesFrom place.vertex := by
  -- The edges of a place are those from its vertex, since no other place has the same one.
  have hfound : m.places.find? (·.vertex = place.vertex) = some place := by
    obtain ⟨before, after, hplaces⟩ := List.append_of_mem hplace
    have hnodup := h.nodup_vertices
    rw [vertices, hplaces, List.map_append, List.map_cons] at hnodup
    rw [hplaces, List.find?_eq_some_iff_append]
    refine ⟨by simp, before, after, rfl, fun other hother => ?_⟩
    have hne := (List.nodup_append.1 hnodup).2.2 _ (List.mem_map_of_mem hother) _
      List.mem_cons_self
    simpa using hne
  simp [edgesFrom, edgesAt, hfound]

end Places

section Record

variable {m : Machine} {statement : Statement}

theorem gotos_step (m : Machine) (statement : Statement) :
    (m.step statement).gotos =
      m.gotos ++ (m.requests statement).filter (Goto.unbound m.labels) := by
  cases statement with
  | activity text => cases hempty : text.isEmpty <;> simp [step, hempty, advance_eq, requests]
  | elseIf no condition label =>
      cases hframes : m.frames with
      | nil => simp [step, elseIf, hframes, requests]
      | cons frame frames => simp [step, elseIf_eq m hframes, requests]
  | otherwise label =>
      cases hframes : m.frames <;> simp [step, Machine.otherwise, hframes, requests]
  | endIf => cases hframes : m.frames <;> simp [step, endIf, hframes, requests]
  | goto name => simp [step, goto_eq]
  | _ => simp [step, advance_eq, requests]

/-- A statement that makes a place binds all pending labels to its vertex, and warns of those that
are bound already; what is pending or warned of shows nowhere else. -/
theorem step_with_of_made {place : Place} (h : m.made statement = some place)
    (pending : List Text) (warnings : List Warning) :
    ({ m with pendingLabels := pending, warnings := warnings } : Machine).step statement =
      { m.step statement with
        labels := bindings place.vertex m.labels pending
        pendingLabels := []
        warnings := warnings ++ repeats place.vertex m.labels pending } := by
  -- All but `elseIf` make their place by an advance.
  have hadvance : ∀ kind text, m.newPlace kind text = place →
      ({ m with pendingLabels := pending, warnings := warnings } : Machine).advance kind text =
        { m.advance kind text with
          labels := bindings place.vertex m.labels pending
          pendingLabels := []
          warnings := warnings ++ repeats place.vertex m.labels pending } := by
    rintro kind text rfl
    rw [advance_eq, advance_eq]
    rfl
  cases statement with
  | start => exact hadvance _ _ (Option.some.inj h)
  | stop => simp only [step, hadvance _ _ (Option.some.inj h)]
  | activity text =>
      cases hempty : text.isEmpty with
      | true => simp [made, hempty] at h
      | false =>
          simp only [step, hempty, Bool.false_eq_true, if_false]
          exact hadvance _ _ (by simpa [made, hempty] using h)
  | ifThen condition label =>
      simp only [step, hadvance _ _ (Option.some.inj h)]
      rfl
  | elseIf no condition label =>
      have hopen : m.frames ≠ [] := fun hnil => by simp [made, hnil] at h
      obtain ⟨frame, frames, hframes⟩ := List.exists_cons_of_ne_nil hopen
      obtain rfl : m.newPlace .decision condition = place := by simpa [made, hframes] using h
      simp only [step]
      rw [elseIf_eq m hframes]
      exact elseIf_eq { m with pendingLabels := pending, warnings := warnings } hframes ..
  | otherwise label => cases h
  | endIf => cases h
  | label name => cases h
  | goto name => cases h
  | arrow label => cases h

theorem step_with_of_not_made (h : m.made statement = none) (pending : List Text)
    (warnings : List Warning) :
    ({ m with pendingLabels := pending, warnings := warnings } : Machine).step statement =
      { m.step statement with
        labels := m.labels
        pendingLabels := pending ++ declared statement
        warnings := warnings ++ m.stray statement } := by
  cases statement with
  | start => cases h
  | stop => cases h
  | activity text =>
      cases hempty : text.isEmpty with
      | true => simp [step, hempty, declared, stray]
      | false => simp [made, hempty] at h
  | ifThen condition label => cases h
  | elseIf no condition label =>
      cases hframes : m.frames with
      | nil => simp [step, elseIf, hframes, declared, stray]
      | cons frame frames => simp [made, hframes] at h
  | otherwise label =>
      cases hframes : m.frames <;>
        simp [step, Machine.otherwise, hframes, declared, stray, closed, looseEnds]
  | endIf =>
      cases hframes : m.frames <;>
        simp [step, endIf, hframes, declared, stray, closed, looseEnds]
  | label name => simp [step, declared, stray]
  | goto name =>
      have hstray : m.stray (.goto name) = [] := by simp [stray]
      simp only [step, declared, hstray, List.append_nil]
      rw [goto_eq, goto_eq]
      rfl
  | arrow label => simp [step, declared, stray]

theorem record_step_of_made {place : Place} (h : m.made statement = some place) :
    (m.step statement).labels = bindings place.vertex m.labels m.pendingLabels ∧
      (m.step statement).pendingLabels = [] ∧
      (m.step statement).warnings =
        m.warnings ++ repeats place.vertex m.labels m.pendingLabels := by
  have hstep := step_with_of_made h m.pendingLabels m.warnings
  exact ⟨congrArg labels hstep, congrArg pendingLabels hstep, congrArg warnings hstep⟩

theorem record_step_of_not_made (h : m.made statement = none) :
    (m.step statement).labels = m.labels ∧
      (m.step statement).pendingLabels = m.pendingLabels ++ declared statement ∧
      (m.step statement).warnings = m.warnings ++ m.stray statement := by
  have hstep := step_with_of_not_made h m.pendingLabels m.warnings
  exact ⟨(congrArg labels hstep).trans rfl, (congrArg pendingLabels hstep).trans rfl,
    (congrArg warnings hstep).trans rfl⟩

end Record

def outcome (statements : List Statement) : Machine := (({} : Machine).run statements).finish

example (script : Script) :
    script.run = outcome (script.statements.filterMap Statement.read?) := rfl

theorem grounded_outcome (statements : List Statement) : (outcome statements).Grounded :=
  (grounded_empty.run statements).finish

@[simp] theorem labels_finish (m : Machine) : m.finish.labels = m.labels := by rw [finish_eq]

theorem Grounded.source_mem_of_gotos {m : Machine} (h : m.Grounded) {jump : Goto}
    (hjump : jump ∈ m.gotos) : jump.source ∈ m.vertices :=
  h.holds _ (held_of_goto ⟨jump, hjump, rfl⟩)

theorem edgesFrom_finish {m : Machine} (h : m.Grounded) (vertex : Vertex) :
    m.finish.edgesFrom vertex =
      m.edgesFrom vertex ++ leaving vertex (m.gotos.filterMap (Goto.arc? m.labels)) := by
  rw [edgesFrom, finish_eq]
  refine edgesAt_drawArcs (fun arc harc => ?_) vertex
  obtain ⟨jump, hjump, hbecomes⟩ := List.mem_filterMap.1 harc
  rw [Goto.source_of_arc hbecomes]
  exact h.source_mem_of_gotos hjump

end Machine

end Flowchart.Activity
