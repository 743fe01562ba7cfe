import Flowchart.Chart.Sheet

/-!
# Connectors

The arrows between groups of nodes. A label stands either inside an arrow, between blanks, or
behind it, between bars. Everything here stays on one line.
-/

namespace Flowchart.Chart

/-- Drops blanks, and a comment behind them, which takes the rest of the line. -/
def skipBlanks (s : Text) : Text :=
  let rest := Text.skipGaps s
  if Text.startsWith rest "%%".toList then [] else rest

theorem length_dropWhile_le (p : Char → Bool) (s : Text) : (s.dropWhile p).length ≤ s.length :=
  (List.dropWhile_sublist p).length_le

theorem length_skipBlanks_le (s : Text) : (skipBlanks s).length ≤ s.length := by
  simp only [skipBlanks]
  split
  · exact Nat.zero_le _
  · exact length_dropWhile_le Text.isGap s

theorem length_of_after? {p s r : Text} (h : Text.after? p s = some r) :
    r.length + p.length = s.length := by
  rw [Text.eq_append_of_after? h, List.length_append, Nat.add_comm]

structure Stroke where
  start : Text
  run : Char
  least : Nat
  tip : Text
  deriving DecidableEq, Repr

namespace Stroke

def past? (stroke : Stroke) (s : Text) : Option Text :=
  match Text.after? stroke.start s with
  | none => none
  | some rest =>
    if stroke.least ≤ (rest.takeWhile (· == stroke.run)).length then
      Text.after? stroke.tip (rest.dropWhile (· == stroke.run))
    else none

theorem length_of_past? {stroke : Stroke} {s rest : Text} (h : stroke.past? s = some rest) :
    rest.length ≤ s.length := by
  unfold past? at h
  split at h
  · simp at h
  · rename_i after hafter
    split at h
    · have := length_of_after? hafter
      have := length_dropWhile_le (· == stroke.run) after
      have := length_of_after? h
      omega
    · simp at h

end Stroke

/-- The arrows without a label inside, in the order in which they are tried. -/
def plainArrows : List (EdgeStyle × Stroke) :=
  [(.dotted, ⟨['-'], '.', 1, ['-', '>']⟩),
   (.thick, ⟨[], '=', 2, ['>']⟩),
   (.arrow, ⟨[], '-', 2, ['>']⟩),
   (.dotted, ⟨['-'], '.', 1, ['-']⟩),
   (.thick, ⟨[], '=', 3, []⟩),
   (.line, ⟨[], '-', 3, []⟩)]

def labelledArrows : List (EdgeStyle × Text × Stroke) :=
  [(.arrow, ['-', '-'], ⟨[], '-', 2, ['>']⟩),
   (.thick, ['=', '='], ⟨[], '=', 2, ['>']⟩),
   (.dotted, ['-', '.'], ⟨['.'], '-', 1, ['>']⟩)]

def pastSpaced? (stroke : Stroke) (s : Text) : Option Text :=
  match s with
  | c :: _ => if Text.isGap c then stroke.past? (Text.skipGaps s) else none
  | [] => none

/-- The shortest text, of one character at least, that a spaced stroke follows. -/
def labelBefore? (stroke : Stroke) : Text → Option (Text × Text)
  | [] => none
  | c :: s =>
    match pastSpaced? stroke s with
    | some rest => some ([c], rest)
    | none => (labelBefore? stroke s).map fun r => (c :: r.1, r.2)

/-- A label inside an arrow. Three blanks or more may also stand alone. -/
def innerLabel? (start : Text) (stroke : Stroke) (s : Text) : Option (Text × Text) :=
  match Text.after? start s with
  | none => none
  | some rest =>
    let gaps := (rest.takeWhile Text.isGap).length
    if gaps = 0 then none
    else
      match labelBefore? stroke (Text.skipGaps rest) with
      | some r => some r
      | none => if 3 ≤ gaps then (stroke.past? (Text.skipGaps rest)).map ([], ·) else none

theorem length_of_labelBefore? {stroke : Stroke} {s label rest : Text}
    (h : labelBefore? stroke s = some (label, rest)) : rest.length ≤ s.length := by
  induction s generalizing label with
  | nil => simp [labelBefore?] at h
  | cons c s ih =>
    unfold labelBefore? at h
    split at h
    · rename_i after hpast
      obtain ⟨-, rfl⟩ := Prod.mk.inj (Option.some.inj h)
      cases s with
      | nil => simp [pastSpaced?] at hpast
      | cons d s =>
        simp only [pastSpaced?] at hpast
        split at hpast
        · have := Stroke.length_of_past? hpast
          have := length_dropWhile_le Text.isGap (d :: s)
          simp only [List.length_cons, Text.skipGaps] at *
          omega
        · simp at hpast
    · obtain ⟨⟨inner, after⟩, hr, heq⟩ := Option.map_eq_some_iff.1 h
      obtain ⟨-, rfl⟩ := Prod.mk.inj heq
      exact Nat.le_succ_of_le (ih hr)

theorem length_of_innerLabel? {start : Text} {stroke : Stroke} {s label rest : Text}
    (h : innerLabel? start stroke s = some (label, rest)) : rest.length ≤ s.length := by
  unfold innerLabel? at h
  split at h
  · simp at h
  · rename_i after hafter
    have := length_of_after? hafter
    have := length_dropWhile_le Text.isGap after
    simp only at h
    split at h
    · simp at h
    · split at h
      · rename_i r hr
        have := length_of_labelBefore? (hr.trans h)
        simp only [Text.skipGaps] at this
        omega
      · split at h
        · obtain ⟨final, hpast, heq⟩ := Option.map_eq_some_iff.1 h
          obtain ⟨-, rfl⟩ := Prod.mk.inj heq
          have := Stroke.length_of_past? hpast
          simp only [Text.skipGaps] at this
          omega
        · simp at h

structure Connector where
  style : EdgeStyle
  label : Text := []
  deriving DecidableEq, Repr

structure UnclosedLabel where
  deriving DecidableEq, Repr

def labelled? (s : Text) : Option (Connector × Text) :=
  labelledArrows.findSome? fun arrow =>
    (innerLabel? arrow.2.1 arrow.2.2 s).map fun r => (⟨arrow.1, r.1⟩, r.2)

def plain? (s : Text) : Option (EdgeStyle × Text) :=
  plainArrows.findSome? fun arrow => (arrow.2.past? s).map (arrow.1, ·)

/-- A label between bars; without a first bar there is none, and nothing is read. -/
def barLabel (s : Text) : Except UnclosedLabel (Text × Text) :=
  match Text.after? ['|'] (skipBlanks s) with
  | none => .ok ([], s)
  | some inside =>
    match inside.dropWhile (· != '|') with
    | [] => .error {}
    | _ :: rest => .ok (inside.takeWhile (· != '|'), rest)

def connector? (s : Text) : Except UnclosedLabel (Option (Connector × Text)) :=
  match labelled? (skipBlanks s) with
  | some r => .ok (some r)
  | none =>
    match plain? (skipBlanks s) with
    | none => .ok none
    | some (style, rest) =>
      match barLabel rest with
      | .error fault => .error fault
      | .ok (label, rest) => .ok (some (⟨style, label⟩, rest))

theorem length_of_labelled? {s rest : Text} {connector : Connector}
    (h : labelled? s = some (connector, rest)) : rest.length ≤ s.length := by
  obtain ⟨arrow, -, h⟩ := List.exists_of_findSome?_eq_some h
  obtain ⟨r, hr, heq⟩ := Option.map_eq_some_iff.1 h
  obtain ⟨-, rfl⟩ := Prod.mk.inj heq
  exact length_of_innerLabel? hr

theorem length_of_plain? {s rest : Text} {style : EdgeStyle} (h : plain? s = some (style, rest)) :
    rest.length ≤ s.length := by
  obtain ⟨arrow, -, h⟩ := List.exists_of_findSome?_eq_some h
  obtain ⟨r, hr, heq⟩ := Option.map_eq_some_iff.1 h
  obtain ⟨-, rfl⟩ := Prod.mk.inj heq
  exact Stroke.length_of_past? hr

theorem length_of_barLabel {s label rest : Text} (h : barLabel s = .ok (label, rest)) :
    rest.length ≤ s.length := by
  unfold barLabel at h
  split at h
  · obtain ⟨-, rfl⟩ := Prod.mk.inj (Except.ok.inj h)
    exact Nat.le_refl _
  · rename_i inside hinside
    split at h
    · simp at h
    · rename_i c after hafter
      obtain ⟨-, rfl⟩ := Prod.mk.inj (Except.ok.inj h)
      have := length_of_after? hinside
      have := length_skipBlanks_le s
      have := length_dropWhile_le (· != '|') inside
      rw [hafter, List.length_cons] at this
      omega

theorem length_of_connector? {s rest : Text} {connector : Connector}
    (h : connector? s = .ok (some (connector, rest))) : rest.length ≤ s.length := by
  have hs := length_skipBlanks_le s
  unfold connector? at h
  split at h
  · rename_i r hr
    have := length_of_labelled? (hr.trans (Except.ok.inj h))
    omega
  · split at h
    · simp at h
    · rename_i style after hplain
      have := length_of_plain? hplain
      split at h
      · simp at h
      · rename_i label final hbar
        obtain ⟨-, rfl⟩ := Prod.mk.inj (Option.some.inj (Except.ok.inj h))
        have := length_of_barLabel hbar
        omega

end Flowchart.Chart
