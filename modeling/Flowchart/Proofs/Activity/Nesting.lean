import Flowchart.Proofs.Activity.Compilation
import Flowchart.Proofs.Activity.Effects
import Flowchart.Proofs.Activity.Phrases

/-!
# Nested conditions

`elseif` is an `else` with a condition inside, and both end together.  The machine keeps the two
apart by a mark on the new frame alone, and does not look at it before the condition is closed:
until then every statement looks at the innermost frame, and at nothing of it but its branches.
-/

namespace Flowchart.Activity

/-- Conditions that are opened among the statements are closed there, and no others are. -/
inductive Balanced : List Statement → Prop where
  | nil : Balanced []
  | cons {statement : Statement} {rest : List Statement}
    (hopen : ∀ condition label, statement ≠ .ifThen condition label)
    (hclose : statement ≠ .endIf) (hrest : Balanced rest) : Balanced (statement :: rest)
  | block (condition : Text) (label : Option Text) {body rest : List Statement}
    (hbody : Balanced body) (hrest : Balanced rest) :
    Balanced (.ifThen condition label :: (body ++ .endIf :: rest))

def Frame.mark (chained : Bool) (frame : Frame) : Frame := { frame with chained := chained }

def Chained (frames : List Frame) : Prop := ∀ frame ∈ frames, frame.chained = true

theorem chained_nil : Chained [] := by simp [Chained]

theorem mark_of_chained {frame : Frame} (h : frame.chained = true) : frame.mark true = frame := by
  rw [Frame.mark, ← h]

namespace Machine

def framed (m : Machine) (frames : List Frame) : Machine := { m with frames := frames }

/-! ## The innermost frame -/

/-- An action looks at the innermost frame alone, and not at its mark. It may change that frame and
put others on top. -/
def Local (added : List Frame → Prop) (act : Machine → Machine) : Prop :=
  ∀ (m : Machine) (frame : Frame), ∃ (n : Machine) (more : List Frame) (top : Frame),
    added more ∧ ∀ chained below,
      act (m.framed (frame.mark chained :: below)) = n.framed (more ++ top.mark chained :: below)

/-- The innermost frame once the machine has left for another place. -/
def left (m : Machine) (frame : Frame) : Frame :=
  if (m.framed [frame]).atBranch then frame.take else frame

theorem takenFrames_framed (m : Machine) (frame : Frame) (chained : Bool) (below : List Frame) :
    (m.framed (frame.mark chained :: below)).takenFrames =
      (m.left frame).mark chained :: below := by
  have hat : (m.framed (frame.mark chained :: below)).atBranch = (m.framed [frame]).atBranch := rfl
  rw [takenFrames, left, hat]
  split <;> rfl

theorem local_advance (kind : VertexKind) (text : Text) :
    Local (· = []) fun m => m.advance kind text := by
  intro m frame
  refine ⟨(m.framed [frame]).advance kind text, [], m.left frame, rfl, fun chained below => ?_⟩
  change (m.framed (frame.mark chained :: below)).advance kind text = _
  rw [advance_eq, advance_eq, takenFrames_framed]
  rfl

theorem local_step {statement : Statement}
    (hopen : ∀ condition label, statement ≠ .ifThen condition label)
    (hclose : statement ≠ .endIf) : Local Chained fun m => m.step statement := by
  intro m frame
  cases statement with
  | start =>
      obtain ⟨n, more, top, rfl, h⟩ := local_advance .start "Start".toList m frame
      exact ⟨n, [], top, chained_nil, h⟩
  | stop =>
      obtain ⟨n, more, top, rfl, h⟩ := local_advance .finish "End".toList m frame
      refine ⟨{ n with current := none }, [], top, chained_nil, fun chained below => ?_⟩
      simp only [step, h]
      rfl
  | activity text =>
      cases hempty : text.isEmpty with
      | true =>
          refine ⟨m, [], frame, chained_nil, fun chained below => ?_⟩
          simp [step, hempty]
      | false =>
          obtain ⟨n, more, top, rfl, h⟩ := local_advance .activity text m frame
          refine ⟨n, [], top, chained_nil, fun chained below => ?_⟩
          simp only [step, hempty]
          exact h chained below
  | ifThen condition label => exact absurd rfl (hopen condition label)
  -- The frame is turned and a chained one comes on top; what stands below is not looked at.
  | elseIf no condition label =>
      refine ⟨(m.framed [frame]).elseIf no condition label,
        [{ decision := m.nextVertex .decision, thenLabel := label, chained := true }],
        frame.turn ((m.framed [frame]).looseEnds frame) (some no) true, by simp [Chained],
        fun chained below => ?_⟩
      simp only [step]
      rw [elseIf_eq _ rfl, elseIf_eq _ rfl]
      rfl
  | otherwise label =>
      refine ⟨(m.framed [frame]).otherwise label, [],
        frame.turn ((m.framed [frame]).looseEnds frame) label false, chained_nil,
        fun chained below => ?_⟩
      simp only [step]
      rw [otherwise_eq _ rfl, otherwise_eq _ rfl]
      rfl
  | endIf => exact absurd rfl hclose
  | label name => exact ⟨m.step (.label name), [], frame, chained_nil, fun _ _ => rfl⟩
  | goto name =>
      refine ⟨(m.framed [frame]).goto name, [], m.left frame, chained_nil, fun chained below => ?_⟩
      simp only [step]
      rw [goto_eq, goto_eq, takenFrames_framed]
      rfl
  | arrow label => exact ⟨m.step (.arrow label), [], frame, chained_nil, fun _ _ => rfl⟩

theorem local_ifThen (condition : Text) (label : Option Text) :
    Local (fun more => ∃ new : Frame, more = [new.mark false])
      fun m => m.step (.ifThen condition label) := by
  intro m frame
  obtain ⟨n, more, top, rfl, h⟩ := local_advance .decision condition m frame
  refine ⟨n, _, top, ⟨{ decision := m.nextVertex .decision, thenLabel := label }, rfl⟩,
    fun chained below => ?_⟩
  simp only [step, h]
  rfl

theorem Local.under {added : List Frame → Prop} {act : Machine → Machine} (h : Local added act)
    (m : Machine) {inner : List Frame} (hinner : Chained inner) (frame : Frame) :
    ∃ (n : Machine) (more others : List Frame) (top : Frame), added more ∧ Chained others ∧
      ∀ chained below,
      act (m.framed (inner ++ frame.mark chained :: below)) =
        n.framed (more ++ (others ++ top.mark chained :: below)) := by
  cases inner with
  | nil =>
      obtain ⟨n, more, top, hmore, hact⟩ := h m frame
      exact ⟨n, more, [], top, hmore, hinner, hact⟩
  | cons first inner =>
      obtain ⟨hfirst, hinner⟩ := List.forall_mem_cons.1 hinner
      obtain ⟨n, more, top, hmore, hact⟩ := h m first
      refine ⟨n, more, top.mark true :: inner, frame, hmore,
        List.forall_mem_cons.2 ⟨rfl, hinner⟩, fun chained below => ?_⟩
      have hframes := hact true (inner ++ frame.mark chained :: below)
      rw [mark_of_chained hfirst] at hframes
      exact hframes

/-! ## Closing -/

section Closing

variable {inner : List Frame} (hinner : Chained inner)

include hinner

theorem splitChain_of_chained (frames : List Frame) :
    splitChain (inner ++ frames) = (inner ++ (splitChain frames).1, (splitChain frames).2) := by
  induction inner with
  | nil => rfl
  | cons first inner ih =>
      obtain ⟨hfirst, hinner⟩ := List.forall_mem_cons.1 hinner
      rw [List.cons_append, splitChain, if_pos hfirst, ih hinner]
      rfl

theorem collected_of_chained (frames : List Frame) :
    collected (inner ++ frames) = collected frames ++ inner.reverse.flatMap Frame.terminals := by
  simp [collected, splitChain_of_chained hinner]

theorem endIf_framed (m : Machine) (frame : Frame) :
    ∃ exits, ∀ chained below, (m.framed (inner ++ frame.mark chained :: below)).endIf = { m with
      frames := if chained then (splitChain below).2 else below
      current := none
      exits := (if chained then collected below else []) ++ exits } := by
  cases inner with
  | nil =>
      have hmark : ∀ chained, m.shut (frame.mark chained) = (m.shut frame).mark chained := by
        intro chained
        have hin : (frame.mark chained).inElse = frame.inElse := rfl
        unfold shut
        rw [hin]
        split <;> rfl
      -- The frame is innermost: whether it is chained only decides how far the closing goes on.
      refine ⟨(m.shut frame).terminals, fun chained below => ?_⟩
      have hexits := collected_cons ((m.shut frame).mark chained) below
      rw [List.nil_append, endIf_of_frames rfl]
      change { m with
        frames := (splitChain (m.shut (frame.mark chained) :: below)).2
        current := none
        exits := collected (m.shut (frame.mark chained) :: below) } = _
      rw [hmark, hexits]
      cases chained <;> rfl
  | cons first inner =>
      obtain ⟨hfirst, hinner⟩ := List.forall_mem_cons.1 hinner
      -- The frames inside are chained, so closing the first of them reaches the frame.
      have hshut : Chained (m.shut first :: inner) := by
        refine List.forall_mem_cons.2 ⟨?_, hinner⟩
        rw [← hfirst, shut]
        split <;> rfl
      refine ⟨frame.terminals ++ (m.shut first :: inner).reverse.flatMap Frame.terminals,
        fun chained below => ?_⟩
      rw [List.cons_append, endIf_of_frames rfl]
      change { m with
        frames := (splitChain ((m.shut first :: inner) ++ frame.mark chained :: below)).2
        current := none
        exits := collected ((m.shut first :: inner) ++ frame.mark chained :: below) } = _
      rw [splitChain_of_chained hshut, collected_of_chained hshut, collected_cons,
        List.append_assoc]
      cases chained <;> rfl

end Closing

/-! ## Balanced statements -/

/-- Balanced statements neither see nor change what is below, nor the mark on top of it. -/
theorem run_framed {statements : List Statement} (h : Balanced statements) (m : Machine)
    {inner : List Frame} (hinner : Chained inner) (frame : Frame) :
    ∃ (n : Machine) (others : List Frame) (top : Frame), Chained others ∧ ∀ chained below,
      (m.framed (inner ++ frame.mark chained :: below)).run statements =
        n.framed (others ++ top.mark chained :: below) := by
  induction h generalizing m inner frame with
  | nil => exact ⟨m, inner, frame, hinner, fun _ _ => rfl⟩
  | cons hopen hclose hrest ih =>
      obtain ⟨n, more, others, top, hmore, hothers, hstep⟩ :=
        (local_step hopen hclose).under m hinner frame
      have hall : Chained (more ++ others) := List.forall_mem_append.2 ⟨hmore, hothers⟩
      obtain ⟨last, final, bottom, hfinal, hrun⟩ := ih n hall top
      refine ⟨last, final, bottom, hfinal, fun chained below => ?_⟩
      rw [run_cons, hstep, ← List.append_assoc, hrun]
  | block condition label hbody hrest ihbody ihrest =>
      obtain ⟨n, more, others, top, ⟨new, rfl⟩, hothers, hstep⟩ :=
        (local_ifThen condition label).under m hinner frame
      -- The body runs on the frame of its own condition, and `endif` removes that frame.
      obtain ⟨done, nested, closing, hnested, hran⟩ := ihbody n chained_nil new
      obtain ⟨exits, hend⟩ := endIf_framed hnested done closing
      obtain ⟨last, final, bottom, hfinal, hrun⟩ :=
        ihrest { done with current := none, exits := exits } hothers top
      refine ⟨last, final, bottom, hfinal, fun chained below => ?_⟩
      rw [run_cons, hstep, run_append]
      have hbodyRun := hran false (others ++ top.mark chained :: below)
      rw [List.nil_append] at hbodyRun
      rw [List.cons_append, List.nil_append, hbodyRun, run_cons]
      change ((done.framed _).endIf).run _ = _
      rw [hend]
      exact hrun chained below

/-! ## Conditions in an `else` part -/

section Nested

variable {m : Machine} {frame : Frame} {frames : List Frame}

/-- Both ways to open a condition in the `else` part of another one leave the same machine, but for
the mark. -/
theorem exists_nested (hframes : m.frames = frame :: frames) (harrow : m.arrowLabel = none)
    (no condition : Text) (label : Option Text) :
    ∃ (n : Machine) (new outer : Frame), outer.inElse = true ∧ outer.branchTaken = true ∧
      m.step (.elseIf no condition label) = n.framed (new.mark true :: outer :: frames) ∧
      (m.step (.otherwise (some no))).step (.ifThen condition label) =
        n.framed (new.mark false :: outer :: frames) := by
  have hturned : m.otherwise (some no) = { m with
      frames := frame.turn (m.looseEnds frame) (some no) false :: frames
      exits := []
      current := some frame.decision } := otherwise_eq m hframes (some no)
  have hat : (m.otherwise (some no)).atBranch = true := by
    simp [hturned, atBranch, Frame.turn]
  have hways : (m.otherwise (some no)).waysIn = [⟨frame.decision, some no⟩] := by
    have hleaving : (m.otherwise (some no)).leavingLabel = some no := by
      simp [hturned, leavingLabel, atBranch, harrow, Frame.branchLabel, Frame.turn]
    rw [waysIn, hleaving, hturned]
    rfl
  have htaken : (m.otherwise (some no)).takenFrames =
      frame.turn (m.looseEnds frame) (some no) true :: frames := by
    rw [takenFrames, if_pos hat, hturned]
    rfl
  refine ⟨m.elseIf no condition label, { decision := m.nextVertex .decision, thenLabel := label },
    frame.turn (m.looseEnds frame) (some no) true, rfl, rfl, ?_, ?_⟩
  · rw [step, elseIf_eq m hframes]
    rfl
  · simp only [step]
    rw [advance_eq, hways, htaken, hturned, elseIf_eq m hframes, harrow]
    rfl

theorem endIf_nested (m : Machine) {inner : List Frame} (hinner : Chained inner) (new : Frame)
    {outer : Frame} (helse : outer.inElse = true) (htaken : outer.branchTaken = true)
    (frames : List Frame) :
    (m.framed (inner ++ new.mark true :: outer :: frames)).endIf =
      (m.framed (inner ++ new.mark false :: outer :: frames)).endIf.endIf := by
  obtain ⟨exits, hend⟩ := endIf_framed hinner m new
  have hshut : ({ m with frames := outer :: frames, current := none, exits := exits } :
      Machine).shut outer = { outer with terminals := outer.terminals ++ exits } := by
    simp [shut, closed, looseEnds, helse, htaken]
  have hinside : (m.framed (inner ++ new.mark false :: outer :: frames)).endIf =
      { m with frames := outer :: frames, current := none, exits := exits } := hend false _
  rw [hend true, hinside, endIf_of_frames rfl, hshut,
    splitChain_snd_of_chained { outer with terminals := outer.terminals ++ exits } outer rfl]
  have hcollected := collected_cons { outer with terminals := outer.terminals ++ exits } frames
  rw [collected] at hcollected
  rw [hcollected, if_pos rfl, if_pos rfl, collected_cons, List.append_assoc]

theorem run_elseIf (hopen : m.frames ≠ []) (harrow : m.arrowLabel = none)
    {body : List Statement} (hbody : Balanced body) (no condition : Text) (label : Option Text)
    (after : List Statement) :
    m.run (.elseIf no condition label :: (body ++ .endIf :: after)) =
      m.run (.otherwise (some no) :: .ifThen condition label ::
        (body ++ .endIf :: .endIf :: after)) := by
  obtain ⟨frame, frames, hframes⟩ := List.exists_cons_of_ne_nil hopen
  obtain ⟨n, new, outer, helse, htaken, hchained, hnested⟩ :=
    exists_nested hframes harrow no condition label
  obtain ⟨last, inner, top, hinner, hrun⟩ := run_framed hbody n chained_nil new
  have hmarked : (n.framed (new.mark true :: outer :: frames)).run body =
      last.framed (inner ++ top.mark true :: outer :: frames) := hrun true (outer :: frames)
  have hplain : (n.framed (new.mark false :: outer :: frames)).run body =
      last.framed (inner ++ top.mark false :: outer :: frames) := hrun false (outer :: frames)
  calc m.run (.elseIf no condition label :: (body ++ .endIf :: after))
      = (last.framed (inner ++ top.mark true :: outer :: frames)).endIf.run after := by
        rw [run_cons, run_append, hchained, hmarked]
        rfl
    _ = (last.framed (inner ++ top.mark false :: outer :: frames)).endIf.endIf.run after := by
        rw [last.endIf_nested hinner top helse htaken frames]
    _ = m.run (.otherwise (some no) :: .ifThen condition label ::
          (body ++ .endIf :: .endIf :: after)) := by
        rw [run_cons, run_cons, run_append, hnested, hplain]
        rfl

theorem frames_run_ne_nil {statements : List Statement} (h : Balanced statements)
    (hopen : m.frames ≠ []) : (m.run statements).frames ≠ [] := by
  obtain ⟨frame, frames, hframes⟩ := List.exists_cons_of_ne_nil hopen
  obtain ⟨n, others, top, -, hrun⟩ := run_framed h m chained_nil frame
  have hself : m.framed ([] ++ frame.mark frame.chained :: frames) = m := by
    rw [List.nil_append, framed, Frame.mark, ← hframes]
  rw [← hself, hrun]
  simp [framed]

end Nested

end Machine

/-! ## Lines -/

/-- An `elseif` line in its parts. A guard in parentheses may come first. -/
structure Detour where
  guard : Option Text
  blanks : Text
  gap : Text
  rest : Text
  condition : Text
  label : Option Text
  enclosed : ∀ raw ∈ guard, ')' ∉ raw
  blank : ∀ c ∈ blanks, Text.isBlank c = true
  narrow : gap = [] ∨ ∃ c, Text.isBlank c = true ∧ gap = [c]
  reads : condition? rest = some (condition, label)

namespace Detour

def plain (detour : Detour) : Text :=
  "else".toList ++ (detour.gap ++ ("if".toList ++ detour.rest))

def line (detour : Detour) : Text :=
  match detour.guard with
  | none => detour.plain
  | some raw => '(' :: (raw ++ ')' :: (detour.blanks ++ detour.plain))

/-- The label of the way past the condition before. -/
def passing (detour : Detour) : Text := (detour.guard.bind labelOf).getD "no".toList

/-- The guard, unless nothing is left of it. -/
def shown (detour : Detour) : Text :=
  (detour.guard.filter fun raw => (labelOf raw).isSome).getD "no".toList

def elseLine (detour : Detour) : Text := "else ".toList ++ ('(' :: detour.shown ++ [')'])

def ifLine (detour : Detour) : Text := "if".toList ++ detour.rest

variable (detour : Detour)

theorem afterPair_plain :
    afterPair? "else".toList "if".toList detour.plain = some detour.rest := by
  rw [afterPair?, plain, Text.after?_append]
  rcases detour.narrow with hgap | ⟨c, hc, hgap⟩
  · rw [hgap]
    exact Text.after?_append "if".toList detour.rest
  · simp only [hgap, List.singleton_append, Option.bind_eq_bind, Option.bind_some, hc, if_true]
    exact Text.after?_append "if".toList detour.rest

theorem elseIf_line :
    elseIf? detour.line = some (.elseIf detour.passing detour.condition detour.label) := by
  have hline : elseIf? detour.line =
      (afterPair? "else".toList "if".toList detour.plain).bind fun rest =>
        (condition? rest).bind fun parts => some (.elseIf detour.passing parts.1 parts.2) := by
    cases hguard : detour.guard with
    | none =>
        simp only [line, passing, hguard]
        rfl
    | some raw =>
        have hraw : ∀ c ∈ raw, (c != ')') = true := by
          intro c hc
          have hne : c ≠ ')' := by
            rintro rfl
            exact detour.enclosed raw (by simp [hguard]) hc
          simpa using hne
        obtain ⟨htake, hdrop⟩ :
            (raw ++ ')' :: (detour.blanks ++ detour.plain)).takeWhile (· != ')') = raw ∧
            (raw ++ ')' :: (detour.blanks ++ detour.plain)).dropWhile (· != ')') =
              ')' :: (detour.blanks ++ detour.plain) :=
          Text.run_append hraw (by simp)
        have hleft : Text.trimLeft (detour.blanks ++ detour.plain) = detour.plain := by
          rw [Text.trimLeft_blanks_append detour.blank]
          rfl
        simp only [line, passing, hguard, elseIf?, htake, hdrop, hleft]
        rfl
  rw [hline, afterPair_plain]
  simp [detour.reads]

theorem read_line : Statement.read? detour.line =
    some (.elseIf detour.passing detour.condition detour.label) := by
  rw [Statement.read?, elseIf_line]
  cases hguard : detour.guard <;> simp only [line, hguard] <;> rfl

theorem labelOf_shown : labelOf detour.shown = some detour.passing := by
  cases hguard : detour.guard with
  | none =>
      simp only [shown, passing, hguard]
      rfl
  | some raw =>
      cases hlabel : labelOf raw with
      | none =>
          simp only [shown, passing, hguard, hlabel, Option.filter, Option.bind_some]
          rfl
      | some text => simp [shown, passing, hguard, hlabel, Option.filter]

theorem read_elseLine :
    Statement.read? detour.elseLine = some (.otherwise (some detour.passing)) := by
  have helse : otherwise? detour.elseLine = some (.otherwise (labelOf detour.shown)) := by
    have hline : otherwise? detour.elseLine =
        (parenthesized? ('(' :: detour.shown ++ [')'])).map
          fun raw => .otherwise (labelOf raw) := rfl
    rw [hline, parenthesized_append, Option.map_some]
  rw [Statement.read?, helse, labelOf_shown]
  rfl

theorem read_ifLine : Statement.read? detour.ifLine =
    some (.ifThen detour.condition detour.label) := by
  have hif : ifThen? detour.ifLine = some (.ifThen detour.condition detour.label) := by
    rw [ifThen?, ifLine, Text.after?_append]
    simp [detour.reads]
  rw [Statement.read?, hif]
  rfl

theorem exists_rest {keywords : Text} {f : Text × Option Text → Option Statement}
    {statement : Statement} (h : ((afterPair? "else".toList "if".toList keywords).bind fun rest =>
      (condition? rest).bind f) = some statement) :
    ∃ gap rest condition label, (gap = [] ∨ ∃ c, Text.isBlank c = true ∧ gap = [c]) ∧
      condition? rest = some (condition, label) ∧
      "else".toList ++ (gap ++ ("if".toList ++ rest)) = keywords := by
  obtain ⟨rest, hpair, h⟩ := Option.bind_eq_some_iff.1 h
  obtain ⟨⟨condition, label⟩, hreads, -⟩ := Option.bind_eq_some_iff.1 h
  obtain ⟨behind, helse, hif⟩ := Option.bind_eq_some_iff.1 hpair
  rw [Text.eq_append_of_after? helse]
  cases behind with
  | nil => cases hif
  | cons c more =>
      simp only at hif
      split at hif
      case isTrue hblank =>
        refine ⟨[c], rest, condition, label, .inr ⟨c, hblank, rfl⟩, hreads, ?_⟩
        rw [Text.eq_append_of_after? hif]
        rfl
      case isFalse =>
        refine ⟨[], rest, condition, label, .inl rfl, hreads, ?_⟩
        rw [Text.eq_append_of_after? hif]
        rfl

theorem exists_line {line no condition : Text} {label : Option Text}
    (h : Statement.read? line = some (.elseIf no condition label)) :
    ∃ detour : Detour, detour.line = line := by
  have helse : elseIf? line = some (.elseIf no condition label) := readFrom_of_read h
  unfold elseIf? at helse
  split at helse
  case h_1 behind =>
    split at helse
    case h_1 more hclosed =>
      obtain ⟨gap, rest, condition, label, hnarrow, hreads, hkeywords⟩ := exists_rest helse
      have hsplit := List.takeWhile_append_dropWhile (p := (· != ')')) (l := behind)
      rw [hclosed, ← List.takeWhile_append_dropWhile (p := Text.isBlank) (l := more)] at hsplit
      refine ⟨{
        guard := some (behind.takeWhile (· != ')'))
        blanks := more.takeWhile Text.isBlank
        gap, rest, condition, label
        enclosed := ?_
        blank := List.all_eq_true.1 List.all_takeWhile
        narrow := hnarrow, reads := hreads }, ?_⟩
      · rintro raw ⟨⟩ hmem
        simpa using List.all_eq_true.1 List.all_takeWhile _ hmem
      · simp only [line, plain, hkeywords]
        exact congrArg (List.cons '(') hsplit
    case h_2 => cases helse
  case h_2 =>
    obtain ⟨gap, rest, condition, label, hnarrow, hreads, hkeywords⟩ := exists_rest helse
    exact ⟨{
      guard := none, blanks := [], gap, rest, condition, label
      enclosed := by simp
      blank := by simp
      narrow := hnarrow, reads := hreads }, hkeywords⟩

end Detour

/-- An `elseif` line may be replaced by an `else` line with its guard and an `if` line with its
condition, if the block is closed twice and no arrow label waits: the machine cannot tell. -/
theorem compile_detour (detour : Detour) {opening closing condition : Text} {label : Option Text}
    (before after : List Text) {first body : List Text}
    (hopen : Statement.read? opening = some (.ifThen condition label))
    (hclose : Statement.read? closing = some .endIf)
    (hfirst : Balanced (first.filterMap Statement.read?))
    (hbody : Balanced (body.filterMap Statement.read?))
    (harrow : ((before ++ opening :: first).foldl Machine.stepLine {}).arrowLabel = none) :
    (before ++ opening :: (first ++ detour.line ::
        (body ++ closing :: after))).foldl Machine.stepLine {} =
      (before ++ opening :: (first ++ detour.elseLine :: detour.ifLine ::
        (body ++ closing :: closing :: after))).foldl Machine.stepLine {} := by
  have hread : ∀ {line : Text} {statement : Statement} (lines : List Text),
      Statement.read? line = some statement →
      (line :: lines).filterMap Statement.read? = statement :: lines.filterMap Statement.read? :=
    fun _ h => List.filterMap_cons_some h
  let m := ((({} : Machine).run (before.filterMap Statement.read?)).step
    (.ifThen condition label)).run (first.filterMap Statement.read?)
  have hstands : m.arrowLabel = none := by
    rwa [Machine.foldl_stepLine, List.filterMap_append, hread _ hopen, Machine.run_append,
      Machine.run_cons] at harrow
  have hopened : m.frames ≠ [] := Machine.frames_run_ne_nil hfirst (by simp [Machine.step])
  have hsame := Machine.run_elseIf hopened hstands hbody detour.passing detour.condition
    detour.label (after.filterMap Statement.read?)
  simp only [Machine.foldl_stepLine, List.filterMap_append, hread _ hopen, hread _ hclose,
    hread _ detour.read_line, hread _ detour.read_elseLine, hread _ detour.read_ifLine]
  rw [Machine.run_append, Machine.run_cons, Machine.run_append, hsame, ← Machine.run_append,
    ← Machine.run_cons, ← Machine.run_append]

def sampleDetour : Detour where
  guard := some "other".toList
  blanks := " ".toList
  gap := []
  rest := " (y) then (so)".toList
  condition := "y".toList
  label := some "so".toList
  enclosed := by decide
  blank := List.all_eq_true.1 rfl
  narrow := .inl rfl
  reads := rfl

def sampleFirst : List Text := ["label again".toList, ":A;".toList, "elseif (w)".toList]

def sampleBody : List Text :=
  [":B;".toList, "if (z) then".toList, "goto again".toList, "endif".toList, "else (none)".toList]

/-- A block with three conditions in a row, and one more inside. -/
theorem compile_sampleDetour :
    (Balanced (sampleFirst.filterMap Statement.read?) ∧
      Balanced (sampleBody.filterMap Statement.read?)) ∧
    (["start".toList, "if (x) then".toList] ++
        (sampleFirst ++ "(other) elseif (y) then (so)".toList ::
          (sampleBody ++ ["endif".toList, "stop".toList]))).foldl Machine.stepLine {} =
      (["start".toList, "if (x) then".toList] ++ (sampleFirst ++ "else (other)".toList ::
        "if (y) then (so)".toList :: (sampleBody ++
          ["endif".toList, "endif".toList, "stop".toList]))).foldl Machine.stepLine {} := by
  have hfirst : sampleFirst.filterMap Statement.read? =
      [.label "again".toList, .activity "A".toList, .elseIf "no".toList "w".toList none] := by
    decide
  have hbody : sampleBody.filterMap Statement.read? =
      .activity "B".toList :: .ifThen "z".toList none :: ([.goto "again".toList] ++
        .endIf :: [.otherwise (some "none".toList)]) := by
    decide
  have hbalanced : Balanced (sampleFirst.filterMap Statement.read?) ∧
      Balanced (sampleBody.filterMap Statement.read?) := by
    rw [hfirst, hbody]
    exact ⟨.cons (by simp) (by simp) (.cons (by simp) (by simp) (.cons (by simp) (by simp) .nil)),
      .cons (by simp) (by simp) (.block _ _ (.cons (by simp) (by simp) .nil)
        (.cons (by simp) (by simp) .nil))⟩
  have hopen : Statement.read? "if (x) then".toList = some (.ifThen "x".toList none) := by decide
  have hclose : Statement.read? "endif".toList = some .endIf := by decide
  exact ⟨hbalanced, compile_detour sampleDetour ["start".toList] ["stop".toList] hopen hclose
    hbalanced.1 hbalanced.2 (by decide)⟩

end Flowchart.Activity
