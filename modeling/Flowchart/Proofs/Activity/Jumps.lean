import Flowchart.Proofs.Activity.Effects
import Mathlib.Algebra.Order.Group.Multiset

/-!
# Jumps and labels

A label stands for the first vertex that is created after its first declaration, and never for
another one.  A jump leads there wherever the label stands: a jump that comes first is kept until
the end, any other is drawn at once, and both become the same edge.  Jumps whose label stands for
nothing are warned of.
-/

namespace Flowchart.Activity

def Warning.isUndeclared : Warning → Bool
  | .undeclaredLabel _ _ => true
  | _ => false

def Keeps (labels later : List (Text × Vertex)) : Prop :=
  ∀ name v, labels.lookup name = some v → later.lookup name = some v

namespace Machine

variable {m : Machine} {name : Text}

theorem lookup_step (m : Machine) (statement : Statement) (name : Text) :
    (m.step statement).labels.lookup name = (m.labels.lookup name).or
      (if name ∈ m.pendingLabels then (m.made statement).map Place.vertex else none) := by
  cases hmade : m.made statement with
  | none =>
      obtain ⟨hlabels, -⟩ := record_step_of_not_made hmade
      simp [hlabels]
  | some place =>
      obtain ⟨hlabels, -⟩ := record_step_of_made hmade
      rw [hlabels, lookup_bindings]
      rfl

theorem keeps_run (m : Machine) (statements : List Statement) :
    Keeps m.labels (m.run statements).labels := by
  induction statements generalizing m with
  | nil => exact fun _ _ h => h
  | cons statement statements ih =>
      intro name v h
      apply ih (m.step statement)
      rw [lookup_step, h]
      rfl

theorem lookup_run_of_pending (hfree : m.labels.lookup name = none)
    (hpending : name ∈ m.pendingLabels) (statements : List Statement) :
    ∃ later, (m.run statements).vertices = m.vertices ++ later ∧
      (m.run statements).labels.lookup name = later.head? := by
  induction statements generalizing m with
  | nil => exact ⟨[], (List.append_nil _).symm, hfree⟩
  | cons statement statements ih =>
      have hvertices := vertices_step m statement
      cases hmade : m.made statement with
      | none =>
          rw [hmade] at hvertices
          obtain ⟨hlabels, hkept, -⟩ := record_step_of_not_made hmade
          obtain ⟨later, hlater, hbound⟩ :=
            ih (by rw [hlabels, hfree]) (by simp [hkept, hpending])
          rw [hvertices, Option.toList_none, List.map_nil, List.append_nil] at hlater
          exact ⟨later, hlater, hbound⟩
      | some place =>
          have hbound : (m.step statement).labels.lookup name = some place.vertex := by
            simp [lookup_step, hfree, hmade, hpending]
          rw [hmade] at hvertices
          obtain ⟨later, hlater⟩ := (m.step statement).vertices_prefix_run statements
          refine ⟨place.vertex :: later, ?_, keeps_run _ statements _ _ hbound⟩
          rw [run_cons, ← hlater, hvertices]
          simp

theorem unbound_run_of_undeclared {statements : List Statement}
    (hfree : m.labels.lookup name = none) (hidle : name ∉ m.pendingLabels)
    (h : .label name ∉ statements) :
    (m.run statements).labels.lookup name = none ∧
      name ∉ (m.run statements).pendingLabels := by
  induction statements generalizing m with
  | nil => exact ⟨hfree, hidle⟩
  | cons statement statements ih =>
      rw [List.mem_cons, not_or] at h
      apply ih _ _ h.2
      · simp [lookup_step, hfree, hidle]
      · cases hmade : m.made statement with
        | none =>
            obtain ⟨-, hkept, -⟩ := record_step_of_not_made hmade
            have hnew : name ∉ declared statement := by
              cases statement <;> simp_all [declared]
            simp [hkept, hidle, hnew]
        | some place =>
            obtain ⟨-, hnone, -⟩ := record_step_of_made hmade
            simp [hnone]

section Jumps

variable {labels final : List (Text × Vertex)} (hkept : Keeps labels final)

include hkept

theorem arc_of_bound {jump : Goto} (h : jump.unbound labels = false) :
    jump.arc? labels = jump.arc? final := by
  cases hbound : labels.lookup jump.name with
  | none => simp [Goto.unbound, hbound] at h
  | some target => rw [Goto.arc?, Goto.arc?, hbound, hkept _ _ hbound]

theorem unbound_of_unbound {jump : Goto} (h : jump.unbound final = true) :
    jump.unbound labels = true := by
  cases hbound : labels.lookup jump.name with
  | none => simp [Goto.unbound, hbound]
  | some target => simp [Goto.unbound, hkept _ _ hbound] at h

/-- Jumps that are drawn at once and those that wait become the same arcs as if all had waited. -/
theorem perm_arcs (jumps : List Goto) :
    (jumps.filterMap (Goto.arc? labels) ++
        (jumps.filter (Goto.unbound labels)).filterMap (Goto.arc? final)).Perm
      (jumps.filterMap (Goto.arc? final)) := by
  induction jumps with
  | nil => exact .refl _
  | cons jump jumps ih =>
      cases hunbound : jump.unbound labels with
      | true =>
          have hnone : jump.arc? labels = none := by
            simpa [Goto.unbound, Goto.arc?] using hunbound
          rw [List.filterMap_cons_none hnone, List.filter_cons_of_pos hunbound]
          cases harc : jump.arc? final with
          | none => rwa [List.filterMap_cons_none harc, List.filterMap_cons_none harc]
          | some arc =>
              rw [List.filterMap_cons_some harc, List.filterMap_cons_some harc]
              exact List.perm_middle.trans (ih.cons arc)
      | false =>
          have hsame := arc_of_bound hkept hunbound
          rw [List.filter_cons_of_neg (by simp [hunbound])]
          cases harc : jump.arc? final with
          | none =>
              rwa [List.filterMap_cons_none (hsame.trans harc), List.filterMap_cons_none harc]
          | some arc =>
              rw [List.filterMap_cons_some (hsame.trans harc), List.filterMap_cons_some harc]
              exact ih.cons arc

end Jumps

/-- In the end all jumps of a run have become arcs where their label is bound at last. -/
theorem perm_drawn (m : Machine) (statements : List Statement) :
    let final := (m.run statements).labels
    (m.gather drawn statements ++ (m.run statements).gotos.filterMap (Goto.arc? final)).Perm
      (m.gather arcs statements ++
        (m.gotos ++ m.gather requests statements).filterMap (Goto.arc? final)) := by
  induction statements generalizing m with
  | nil => simp [gather, run]
  | cons statement statements ih =>
      intro final
      have hrest := ih (m.step statement)
      have hnow := perm_arcs (m.keeps_run (statement :: statements)) (m.requests statement)
      rw [run_cons] at hnow
      simp only [gather, run_cons, gotos_step, drawn, List.filterMap_append, final] at hrest hnow ⊢
      rw [← Multiset.coe_eq_coe] at hrest hnow ⊢
      simp only [← Multiset.coe_add] at hrest hnow ⊢
      rw [← hnow, add_assoc, hrest]
      ac_rfl

theorem filter_gotos_run (m : Machine) (statements : List Statement) :
    (m.run statements).gotos.filter (Goto.unbound (m.run statements).labels) =
      (m.gotos ++ m.gather requests statements).filter
        (Goto.unbound (m.run statements).labels) := by
  induction statements generalizing m with
  | nil => simp [gather, run]
  | cons statement statements ih =>
      have hagain : ∀ jump ∈ m.requests statement,
          (Goto.unbound (m.run (statement :: statements)).labels jump &&
            Goto.unbound m.labels jump) =
              Goto.unbound (m.run (statement :: statements)).labels jump := by
        intro jump _
        cases hunbound : Goto.unbound (m.run (statement :: statements)).labels jump with
        | false => rfl
        | true =>
            rw [unbound_of_unbound (m.keeps_run _) hunbound]
            rfl
      have hrest := ih (m.step statement)
      rw [← run_cons, gotos_step, List.filter_append, List.filter_append, List.filter_filter,
        List.filter_congr hagain, ← List.filter_append, ← List.filter_append,
        List.append_assoc] at hrest
      exact hrest

theorem filter_warnings_run (m : Machine) (statements : List Statement) :
    (m.run statements).warnings.filter Warning.isUndeclared =
      m.warnings.filter Warning.isUndeclared := by
  have hrepeats : ∀ (v : Vertex) (names : List Text) (labels : List (Text × Vertex)),
      (repeats v labels names).filter Warning.isUndeclared = [] := by
    intro v names
    induction names with
    | nil => exact fun _ => rfl
    | cons name names ih =>
        intro labels
        rw [repeats, List.filter_append, ih]
        split <;> rfl
  induction statements generalizing m with
  | nil => rfl
  | cons statement statements ih =>
      rw [run_cons, ih]
      cases hmade : m.made statement with
      | none =>
          obtain ⟨-, -, hwarnings⟩ := record_step_of_not_made hmade
          have hstray : (m.stray statement).filter Warning.isUndeclared = [] := by
            unfold stray
            split
            · cases statement <;> rfl
            · rfl
          rw [hwarnings, List.filter_append, hstray, List.append_nil]
      | some place =>
          obtain ⟨-, -, hwarnings⟩ := record_step_of_made hmade
          rw [hwarnings, List.filter_append, hrepeats, List.append_nil]

def Declares (m : Machine) (name : Text) : Prop :=
  (m.labels.lookup name).isSome = true ∨ name ∈ m.pendingLabels

theorem declares_run (h : m.Declares name) (statements : List Statement) :
    (m.run statements).Declares name := by
  induction statements generalizing m with
  | nil => exact h
  | cons statement statements ih =>
      apply ih
      have hlookup := lookup_step m statement name
      rcases h with hbound | hpending
      · left
        rw [hlookup, Option.isSome_or, hbound]
        rfl
      · cases hmade : m.made statement with
        | none =>
            obtain ⟨-, hkept, -⟩ := record_step_of_not_made hmade
            exact .inr (by simp [hkept, hpending])
        | some place =>
            left
            simp [hlookup, hpending, hmade]

theorem declares_run_of_mem {statements : List Statement} (h : .label name ∈ statements) :
    (m.run statements).Declares name := by
  obtain ⟨before, after, rfl⟩ := List.append_of_mem h
  rw [run_append, run_cons]
  exact declares_run (.inr (by simp [step])) after

/-- The second machine has met one more declaration of a label than the first. It waits there until
a vertex is created, and is warned of then. -/
inductive Echoes (name : Text) (m : Machine) : Machine → Prop where
  | waiting (first rest : List Text) (h : m.pendingLabels = first ++ rest)
    (hknown : (m.labels.lookup name).isSome = true ∨ name ∈ first) :
    Echoes name m { m with pendingLabels := first ++ name :: rest }
  | noted (first rest : List Warning) (h : m.warnings = first ++ rest) :
    Echoes name m { m with warnings := first ++ .repeatedLabel name :: rest }

theorem bindings_of_known {labels : List (Text × Vertex)} {first : List Text}
    (h : (labels.lookup name).isSome = true ∨ name ∈ first) (v : Vertex) (rest : List Text) :
    bindings v labels (first ++ name :: rest) = bindings v labels (first ++ rest) ∧
      repeats v labels (first ++ name :: rest) = repeats v labels first ++
        .repeatedLabel name :: repeats v (bindings v labels first) rest := by
  have hbound : ((bindings v labels first).lookup name).isSome = true := by
    rw [lookup_bindings, Option.isSome_or]
    rcases h with h | h <;> simp [h]
  have hsame : bindName v (bindings v labels first) name = bindings v labels first := by
    rw [bindName, if_pos hbound]
  constructor
  · rw [bindings_append, bindings_append]
    exact congrArg (fun labels => bindings v labels rest) hsame
  · rw [repeats_append, repeats, if_pos hbound, hsame]
    rfl

theorem Echoes.step {again : Machine} (h : Echoes name m again) (statement : Statement) :
    Echoes name (m.step statement) (again.step statement) := by
  cases h with
  -- The repeated name waits until a place is made, and is noted there.
  | waiting first rest hpending hknown =>
      cases hmade : m.made statement with
      | none =>
          obtain ⟨hlabels, hkept, hwarnings⟩ := record_step_of_not_made hmade
          have hagain := step_with_of_not_made hmade (first ++ name :: rest) m.warnings
          rw [hagain, ← hwarnings, ← hlabels, List.append_assoc, List.cons_append]
          refine .waiting first (rest ++ declared statement) ?_ ?_
          · rw [hkept, hpending, List.append_assoc]
          · rwa [hlabels]
      | some place =>
          obtain ⟨hlabels, hnone, hwarnings⟩ := record_step_of_made hmade
          have hagain := step_with_of_made hmade (first ++ name :: rest) m.warnings
          obtain ⟨hbindings, hrepeats⟩ := bindings_of_known hknown place.vertex rest
          rw [hagain, hbindings, hrepeats, ← hpending, ← hlabels, ← hnone, ← List.append_assoc]
          refine .noted _ _ ?_
          rw [hwarnings, hpending, repeats_append, List.append_assoc]
  -- From then on only the note makes a difference.
  | noted first rest hsplit =>
      cases hmade : m.made statement with
      | none =>
          obtain ⟨hlabels, hkept, hwarnings⟩ := record_step_of_not_made hmade
          have hagain := step_with_of_not_made hmade m.pendingLabels
            (first ++ .repeatedLabel name :: rest)
          rw [hagain, ← hlabels, ← hkept, List.append_assoc, List.cons_append]
          refine .noted first (rest ++ m.stray statement) ?_
          rw [hwarnings, hsplit, List.append_assoc]
      | some place =>
          obtain ⟨hlabels, hnone, hwarnings⟩ := record_step_of_made hmade
          have hagain := step_with_of_made hmade m.pendingLabels
            (first ++ .repeatedLabel name :: rest)
          rw [hagain, ← hlabels, ← hnone, List.append_assoc, List.cons_append]
          refine .noted first (rest ++ repeats place.vertex m.labels m.pendingLabels) ?_
          rw [hwarnings, hsplit, List.append_assoc]

theorem Echoes.run {again : Machine} (h : Echoes name m again) (statements : List Statement) :
    Echoes name (m.run statements) (again.run statements) := by
  induction statements generalizing m again with
  | nil => exact h
  | cons statement statements ih => exact ih (h.step statement)

theorem Echoes.finish {again : Machine} (h : Echoes name m again) :
    ∃ first rest warning, warning ∈ [.repeatedLabel name, .idleLabel name] ∧
      m.finish.warnings = first ++ rest ∧
      again.finish = { m.finish with
        pendingLabels := again.finish.pendingLabels, warnings := first ++ warning :: rest } := by
  cases h with
  | waiting first rest hpending hknown =>
      have hsame := m.finish_eq
      rw [hpending, List.map_append, ← List.append_assoc] at hsame
      refine ⟨_, _, .idleLabel name, by simp, congrArg warnings hsame, ?_⟩
      rw [finish_eq, m.finish_eq, List.map_append, List.map_cons, ← List.append_assoc]
      rfl
  | noted first rest hsplit =>
      have hsame := m.finish_eq
      rw [hsplit, List.append_assoc, List.append_assoc, List.append_assoc] at hsame
      refine ⟨_, _, .repeatedLabel name, by simp, congrArg warnings hsame, ?_⟩
      rw [finish_eq, m.finish_eq, List.append_assoc, List.append_assoc, List.append_assoc,
        List.cons_append]
      rfl

def asked (statements : List Statement) : List Goto := ({} : Machine).gather requests statements

theorem lookup_outcome {before : List Statement} (after : List Statement)
    (hfirst : .label name ∉ before) : ∃ later,
      (outcome (before ++ .label name :: after)).vertices =
        (({} : Machine).run before).vertices ++ later ∧
      (outcome (before ++ .label name :: after)).labels.lookup name = later.head? := by
  obtain ⟨hfree, -⟩ := unbound_run_of_undeclared (m := {}) rfl (by simp) hfirst
  have hpending : name ∈ ((({} : Machine).run before).step (.label name)).pendingLabels := by
    simp [step]
  have hstep : ((({} : Machine).run before).step (.label name)).labels.lookup name = none := hfree
  rw [outcome, labels_finish, vertices_finish, run_append, run_cons]
  exact lookup_run_of_pending hstep hpending after

/-- How labels are bound and jumps are drawn at the end of a diagram. -/
structure Resolved (statements : List Statement) (last : Machine) : Prop where
  kept : ∀ before after, statements = before ++ after →
    Keeps (({} : Machine).run before).labels last.labels
  bound : ∀ before name after, statements = before ++ .label name :: after →
    .label name ∉ before → ∃ later,
      last.vertices = (({} : Machine).run before).vertices ++ later ∧
      last.labels.lookup name = later.head?
  undeclared : ∀ name, .label name ∉ statements → last.labels.lookup name = none
  /-- A label that is declared again is warned of, and nothing else. -/
  repeated : ∀ before name after, statements = before ++ .label name :: after →
    .label name ∈ before → ∃ first rest warning,
      (outcome (before ++ after)).warnings = first ++ rest ∧
      warning ∈ [.repeatedLabel name, .idleLabel name] ∧
      last = { outcome (before ++ after) with
        pendingLabels := last.pendingLabels, warnings := first ++ warning :: rest }
  sources : ∀ jump ∈ asked statements, jump.source ∈ last.vertices
  /-- The edges of a place are those into the places created later, and one for each jump from there
  whose label is bound. -/
  edges : ∀ place ∈ last.places, place.edges.Perm (leaving place.vertex
    (({} : Machine).gather arcs statements ++ (asked statements).filterMap (Goto.arc? last.labels)))
  warned : last.warnings.filter Warning.isUndeclared =
    ((asked statements).filter (Goto.unbound last.labels)).map Goto.warning

theorem source_mem_of_asked {m : Machine} (h : m.Grounded) {statements : List Statement}
    {jump : Goto} (hjump : jump ∈ m.gather requests statements) :
    jump.source ∈ (m.run statements).vertices := by
  induction statements generalizing m with
  | nil => cases hjump
  | cons statement statements ih =>
      rcases List.mem_append.1 hjump with hjump | hjump
      · exact (m.vertices_prefix_run _).subset (h.source_mem_of_requests hjump)
      · exact ih (h.step statement) hjump

theorem perm_edges {statements : List Statement} {place : Place}
    (h : place ∈ (outcome statements).places) :
    place.edges.Perm (leaving place.vertex (({} : Machine).gather arcs statements ++
      (asked statements).filterMap (Goto.arc? (outcome statements).labels))) := by
  have hground := grounded_empty.run statements
  have hperm := ({} : Machine).perm_drawn statements
  have hedges := (grounded_outcome statements).edges_eq h
  rw [outcome, edgesFrom_finish hground, edgesFrom_run grounded_empty, List.append_assoc,
    ← leaving_append] at hedges
  rw [hedges, outcome, labels_finish]
  exact (hperm.filter _).map _

theorem filter_warnings_finish (m : Machine) :
    m.finish.warnings.filter Warning.isUndeclared =
      m.warnings.filter Warning.isUndeclared ++
        (m.gotos.filter (Goto.unbound m.labels)).map Goto.warning := by
  simp [finish_eq, List.filter_map, Function.comp_def, Warning.isUndeclared, Goto.warning]

/-- Wherever labels stand, each is bound once and for all to the first vertex behind it, and every
jump becomes the edge to that vertex, or a warning. -/
theorem outcome_resolved (statements : List Statement) :
    Resolved statements (outcome statements) where
  kept := by
    rintro before after rfl
    rw [outcome, labels_finish, run_append]
    exact keeps_run _ after
  bound := by
    rintro before name after rfl hfirst
    exact lookup_outcome after hfirst
  undeclared := by
    intro name h
    rw [outcome, labels_finish]
    exact (unbound_run_of_undeclared (m := {}) rfl (by simp) h).1
  repeated := by
    rintro before name after rfl hagain
    have hdeclared : (({} : Machine).run before).Declares name := declares_run_of_mem hagain
    have hechoes : Echoes name (({} : Machine).run before)
        ((({} : Machine).run before).step (.label name)) :=
      .waiting _ [] (by simp) hdeclared
    obtain ⟨first, rest, warning, hwarning, hsplit, hlast⟩ := (hechoes.run after).finish
    rw [← run_append] at hsplit hlast
    rw [← run_cons, ← run_append] at hlast
    exact ⟨first, rest, warning, hsplit, hwarning, hlast⟩
  sources := by
    intro jump hjump
    rw [outcome, vertices_finish]
    exact source_mem_of_asked grounded_empty hjump
  edges := fun place hplace => perm_edges hplace
  warned := by
    rw [outcome, filter_warnings_finish, filter_warnings_run, filter_gotos_run, labels_finish]
    rfl

end Machine

end Flowchart.Activity
