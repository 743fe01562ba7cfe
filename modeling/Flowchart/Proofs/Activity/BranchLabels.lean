import Flowchart.Proofs.Activity.Effects

/-!
# Labels of branches

The first edge of a branch leaves the decision.  It has the label of the branch, unless an arrow
label waits: one that was written in the branch, or in the branch before and not used up there,
since `else` and `elseif` leave it waiting.
-/

namespace Flowchart.Activity

namespace Statement

/-- Whether a statement creates nothing, and leaves the branch and the arrow label alone. -/
def isQuiet : Statement → Bool
  | .label _ | .goto _ => true
  | .activity text => text.isEmpty
  | _ => false

def leaves : Statement → Bool
  | .elseIf _ _ _ | .otherwise _ | .endIf => true
  | _ => false

end Statement

namespace Machine

/-- The loose end of the branch that a statement opens. -/
def opened (m : Machine) : Statement → Option Exit
  | .ifThen _ label => some ⟨m.nextVertex .decision, label⟩
  | .elseIf _ _ label => m.frames.head?.map fun _ => ⟨m.nextVertex .decision, label⟩
  | .otherwise label => m.frames.head?.map fun frame => ⟨frame.decision, label⟩
  | _ => none

/-- The arrow label that waits behind a statement that opens a branch. Only `if` uses it up. -/
def inherited (m : Machine) : Statement → Option Text
  | .ifThen _ _ => none
  | _ => m.arrowLabel

/-- Nothing in a branch has left its decision yet. -/
structure Begins (m : Machine) (exit : Exit) (arrow : Option Text) : Prop where
  stands : m.current = some exit.source
  alone : m.exits = []
  waits : m.arrowLabel = arrow
  untouched : ∃ frame frames, m.frames = frame :: frames ∧ frame.decision = exit.source ∧
    frame.branchTaken = false ∧ frame.branchLabel = exit.label

variable {m : Machine} {exit : Exit} {arrow : Option Text}

theorem begins_of_opened {opening : Statement} (h : m.opened opening = some exit) :
    (m.step opening).Begins exit (m.inherited opening) := by
  cases opening with
  | ifThen condition label =>
      obtain rfl := Option.some.inj h
      simp only [step, advance_eq]
      exact ⟨rfl, rfl, rfl, _, _, rfl, rfl, rfl, rfl⟩
  | elseIf no condition label =>
      cases hframes : m.frames with
      | nil => simp [opened, hframes] at h
      | cons frame frames =>
          obtain rfl : (⟨m.nextVertex .decision, label⟩ : Exit) = exit := by
            simpa [opened, hframes] using h
          simp only [step, elseIf_eq m hframes]
          exact ⟨rfl, rfl, rfl, _, _, rfl, rfl, rfl, rfl⟩
  | otherwise label =>
      cases hframes : m.frames with
      | nil => simp [opened, hframes] at h
      | cons frame frames =>
          obtain rfl : (⟨frame.decision, label⟩ : Exit) = exit := by
            simpa [opened, hframes] using h
          simp only [step, otherwise_eq m hframes]
          exact ⟨rfl, rfl, rfl, _, _, rfl, rfl, rfl, rfl⟩
  | _ => cases h

theorem current_run_of_idle {between : List Statement}
    (hquiet : ∀ statement ∈ between, statement.isQuiet = true) (hidle : m.current = none) :
    (m.run between).current = none := by
  induction between generalizing m with
  | nil => exact hidle
  | cons statement between ih =>
      obtain ⟨hstatement, hquiet⟩ := List.forall_mem_cons.1 hquiet
      apply ih hquiet
      cases statement with
      | activity text =>
          have hempty : text.isEmpty = true := hstatement
          simpa [step, hempty] using hidle
      | label name => exact hidle
      | goto name => rfl
      | _ => cases hstatement

theorem Begins.run (h : m.Begins exit arrow) {between : List Statement}
    (hquiet : ∀ statement ∈ between, statement.isQuiet = true) :
    (m.run between).Begins exit arrow ∨ (m.run between).current = none := by
  induction between generalizing m with
  | nil => exact .inl h
  | cons statement between ih =>
      obtain ⟨hstatement, hrest⟩ := List.forall_mem_cons.1 hquiet
      cases statement with
      | activity text =>
          have hempty : text.isEmpty = true := hstatement
          refine ih ?_ hrest
          simpa [step, hempty] using h
      | label name => exact ih ⟨h.stands, h.alone, h.waits, h.untouched⟩ hrest
      | goto name => exact .inr (current_run_of_idle (m := m.goto name) hrest rfl)
      | _ => cases hstatement

theorem Begins.waysIn_eq (h : m.Begins exit arrow) :
    m.waysIn = [⟨exit.source, arrow.or exit.label⟩] := by
  obtain ⟨frame, frames, hframes, hdecision, htaken, hlabel⟩ := h.untouched
  simp [waysIn, leavingLabel, atBranch, h.stands, h.alone, h.waits, hframes, hdecision, htaken,
    hlabel]

theorem Begins.drawn_eq (h : m.Begins exit arrow) {entering : Statement} {place : Place}
    (hmade : m.made entering = some place) (hstays : entering.leaves = false) :
    m.drawn entering = [⟨exit.source, place.vertex, arrow.or exit.label⟩] := by
  cases entering with
  | elseIf no condition label => cases hstays
  | otherwise label => cases hmade
  | endIf => cases hmade
  | label name => cases hmade
  | goto name => cases hmade
  | arrow label => cases hmade
  | _ => simp [drawn, arcs, requests, hmade, h.waysIn_eq, Exit.to]

/-- The first vertex of a branch that is entered from the decision hangs on one edge. It has the
arrow label that waited where the branch was opened, and the label of the branch if none did. -/
theorem edges_of_opened (before between after : List Statement) {opening entering : Statement}
    {exit : Exit} {place : Place} (hopened : (({} : Machine).run before).opened opening = some exit)
    (hquiet : ∀ statement ∈ between, statement.isQuiet = true)
    (hstands : (({} : Machine).run (before ++ opening :: between)).current = some exit.source)
    (hmade : (({} : Machine).run (before ++ opening :: between)).made entering = some place)
    (hstays : entering.leaves = false) :
    ∃ later, (outcome (before ++ opening :: between ++ entering :: after)).edgesFrom exit.source =
      (({} : Machine).run (before ++ opening :: between)).edgesFrom exit.source ++
        (place.vertex, ((({} : Machine).run before).inherited opening).or exit.label) :: later := by
  have hground := grounded_empty.run (before ++ opening :: between)
  have hbegins : (({} : Machine).run (before ++ opening :: between)).Begins exit
      ((({} : Machine).run before).inherited opening) := by
    have hrun := (begins_of_opened hopened).run hquiet
    rw [← run_cons, ← run_append] at hrun
    exact hrun.resolve_right (by simp [hstands])
  have hdrawn := hbegins.drawn_eq hmade hstays
  rw [outcome, run_append, run_cons, edgesFrom_finish ((hground.step entering).run after),
    edgesFrom_run (hground.step entering), edgesFrom_step hground, hdrawn, leaving_singleton,
    if_pos rfl, List.append_assoc, List.append_assoc]
  exact ⟨_, rfl⟩

def lateArrow : List Statement :=
  [.start, .ifThen "Ready?".toList (some "yes".toList), .activity "A".toList,
    .arrow (some "later".toList)]

/-- An arrow at the end of a branch labels the first edge of the next one. -/
theorem edges_of_lateArrow :
    (({} : Machine).run lateArrow).opened (.otherwise (some "no".toList)) =
        some ⟨⟨.decision, 2⟩, some "no".toList⟩ ∧
      ∃ later, (outcome (lateArrow ++ .otherwise (some "no".toList) :: [] ++
          .activity "B".toList :: [.endIf, .stop])).edgesFrom ⟨.decision, 2⟩ =
        [(⟨.activity, 3⟩, some "yes".toList)] ++
          (⟨.activity, 4⟩, some "later".toList) :: later := by
  have hopened : (({} : Machine).run lateArrow).opened (.otherwise (some "no".toList)) =
      some ⟨⟨.decision, 2⟩, some "no".toList⟩ := by decide
  have hmade : (({} : Machine).run (lateArrow ++ [.otherwise (some "no".toList)])).made
      (.activity "B".toList) = some ⟨⟨.activity, 4⟩, Caption.ofText "B".toList, []⟩ := by decide
  exact ⟨hopened, edges_of_opened lateArrow [] [.endIf, .stop] hopened (by simp) (by decide)
    hmade rfl⟩

end Machine

end Flowchart.Activity
