import Flowchart.Chart.Connector
import Flowchart.Text.Digit

/-!
# Statements

A statement of a chart is a chain: groups of mentions with connectors between them. A mention is an
id, and perhaps a text in the brackets of a shape.
-/

namespace Flowchart.Chart

inductive Fault where
  | unclosedQuote
  | expectedCloser (closer node : Text)
  | unclosedShape (node : Text)
  | unclosedLabel
  | badCode (code : BadCode)
  deriving DecidableEq, Repr

def quotedText (quote : Char) : Text → Except Fault (Text × Text)
  | [] => .error .unclosedQuote
  | c :: s =>
    if c = quote then .ok ([], s)
    else
      match quotedText quote s with
      | .error fault => .error fault
      | .ok r => .ok (c :: r.1, r.2)

/-- The bracket that nests within a closer. Clouds and hexagons close where they can. -/
def nesting? : Char → Option Char
  | ')' => some '('
  | ']' => some '['
  | '\x7d' => some '\x7b'
  | _ => none

def deepen (opener : Option Char) (close : Char) (depth : Nat) (c : Char) : Nat :=
  if opener = some c then depth + 1 else if c = close then depth - 1 else depth

/-- The text before the closer that stands outside of nested brackets, and what follows it. -/
def bracketText? (opener : Option Char) (closer : Text) : Nat → Text → Option (Text × Text)
  | _, [] => none
  | depth, c :: s =>
    match (if depth = 0 then Text.after? closer (c :: s) else none) with
    | some rest => some ([], rest)
    | none =>
      (bracketText? opener closer (deepen opener (closer.headD ' ') depth c) s).map
        fun r => (c :: r.1, r.2)

def shapeText (node closer s : Text) : Except Fault (Text × Text) :=
  match skipBlanks s with
  | [] => .error (.unclosedShape node)
  | c :: rest =>
    if c = '"' ∨ c = '\'' then
      match quotedText c rest with
      | .error fault => .error fault
      | .ok (text, rest) =>
        match Text.after? closer (skipBlanks rest) with
        | some rest => .ok (text, rest)
        | none => .error (.expectedCloser closer node)
    else
      match bracketText? (nesting? (closer.headD ' ')) closer 0 (c :: rest) with
      | some r => .ok r
      | none => .error (.unclosedShape node)

theorem length_of_quotedText {quote : Char} {s text rest : Text}
    (h : quotedText quote s = .ok (text, rest)) : rest.length ≤ s.length := by
  induction s generalizing text with
  | nil => simp [quotedText] at h
  | cons c s ih =>
    unfold quotedText at h
    split at h
    · obtain ⟨-, rfl⟩ := Prod.mk.inj (Except.ok.inj h)
      exact Nat.le_succ _
    · split at h
      · simp at h
      · rename_i r hr
        obtain ⟨-, rfl⟩ := Prod.mk.inj (Except.ok.inj h)
        exact Nat.le_succ_of_le (ih hr)

theorem length_of_bracketText? {opener : Option Char} {closer s text rest : Text} {depth : Nat}
    (h : bracketText? opener closer depth s = some (text, rest)) : rest.length ≤ s.length := by
  induction s generalizing depth text with
  | nil => simp [bracketText?] at h
  | cons c s ih =>
    unfold bracketText? at h
    split at h
    · rename_i after hafter
      obtain ⟨-, rfl⟩ := Prod.mk.inj (Option.some.inj h)
      split at hafter
      · have := length_of_after? hafter
        omega
      · simp at hafter
    · obtain ⟨r, hr, heq⟩ := Option.map_eq_some_iff.1 h
      obtain ⟨-, rfl⟩ := Prod.mk.inj heq
      exact Nat.le_succ_of_le (ih hr)

theorem length_of_shapeText {node closer s text rest : Text}
    (h : shapeText node closer s = .ok (text, rest)) : rest.length ≤ s.length := by
  have hs := length_skipBlanks_le s
  unfold shapeText at h
  split at h
  · simp at h
  · rename_i c inside hc
    rw [hc, List.length_cons] at hs
    split at h
    · split at h
      · simp at h
      · rename_i quoted behind hq
        have := length_of_quotedText hq
        have := length_skipBlanks_le behind
        split at h
        · rename_i after hafter
          obtain ⟨-, rfl⟩ := Prod.mk.inj (Except.ok.inj h)
          have := length_of_after? hafter
          omega
        · simp at h
    · split at h
      · rename_i r hr
        have := length_of_bracketText? (hr.trans (congrArg some (Except.ok.inj h)))
        simp only [List.length_cons] at this
        omega
      · simp at h

def nodeId : Text → Text × Text
  | [] => ([], [])
  | '-' :: d :: s =>
    if Text.isWord d then
      let r := nodeId (d :: s)
      ('-' :: r.1, r.2)
    else ([], '-' :: d :: s)
  | c :: s =>
    if Text.isWord c then
      let r := nodeId s
      (c :: r.1, r.2)
    else ([], c :: s)

def shaped (id s : Text) : Except Fault (Mention × Text) :=
  match Shape.all.findSome? fun shape => (Text.after? shape.opener s).map (shape, ·) with
  | none => .ok ({ id := id }, s)
  | some (shape, inside) =>
    match shapeText id shape.closer inside with
    | .error fault => .error fault
    | .ok (raw, rest) =>
      match decode raw with
      | .error code => .error (.badCode code)
      | .ok text => .ok (⟨id, if text.isEmpty then none else some text, shape⟩, rest)

def skipClass (s : Text) : Text :=
  match Text.after? ":::".toList s with
  | none => s
  | some rest =>
    let after := rest.dropWhile fun c => Text.isWord c || c == '-'
    if after.length = rest.length then s else after

def mention? (s : Text) : Except Fault (Option (Mention × Text)) :=
  match skipBlanks s with
  | [] => .ok none
  | c :: rest =>
    if Text.isWord c then
      match shaped (nodeId (c :: rest)).1 (nodeId (c :: rest)).2 with
      | .error fault => .error fault
      | .ok (mention, rest) => .ok (some (mention, skipClass rest))
    else .ok none

theorem length_nodeId_le (s : Text) : (nodeId s).2.length ≤ s.length := by
  fun_induction nodeId s with
  | case1 => exact Nat.le_refl _
  | case2 d s _ r ih => exact Nat.le_succ_of_le ih
  | case3 => exact Nat.le_refl _
  | case4 c s _ _ r ih => exact Nat.le_succ_of_le ih
  | case5 => exact Nat.le_refl _

theorem length_nodeId_lt {c : Char} {s : Text} (hc : Text.isWord c = true) :
    (nodeId (c :: s)).2.length < (c :: s).length := by
  unfold nodeId
  split
  · simp_all
  · rename_i d rest heq
    obtain ⟨rfl, -⟩ := List.cons.inj heq
    exact absurd hc (by decide)
  · rename_i d rest _ heq
    obtain ⟨rfl, rfl⟩ := List.cons.inj heq
    rw [if_pos hc]
    exact Nat.lt_succ_of_le (length_nodeId_le _)

theorem length_of_shaped {id s rest : Text} {mention : Mention}
    (h : shaped id s = .ok (mention, rest)) : rest.length ≤ s.length := by
  unfold shaped at h
  split at h
  · obtain ⟨-, rfl⟩ := Prod.mk.inj (Except.ok.inj h)
    exact Nat.le_refl _
  · rename_i shape inside hfind
    obtain ⟨shape, -, hafter⟩ := List.exists_of_findSome?_eq_some hfind
    obtain ⟨r, hr, heq⟩ := Option.map_eq_some_iff.1 hafter
    obtain ⟨-, rfl⟩ := Prod.mk.inj heq
    have := length_of_after? hr
    split at h
    · simp at h
    · rename_i raw after htext
      have := length_of_shapeText htext
      split at h
      · simp at h
      · obtain ⟨-, rfl⟩ := Prod.mk.inj (Except.ok.inj h)
        omega

theorem length_skipClass_le (s : Text) : (skipClass s).length ≤ s.length := by
  unfold skipClass
  split
  · exact Nat.le_refl _
  · rename_i rest hrest
    have := length_of_after? hrest
    have := length_dropWhile_le (fun c => Text.isWord c || c == '-') rest
    simp only
    split <;> omega

theorem length_of_mention? {s rest : Text} {mention : Mention}
    (h : mention? s = .ok (some (mention, rest))) : rest.length < s.length := by
  have hs := length_skipBlanks_le s
  unfold mention? at h
  split at h
  · simp at h
  · rename_i c after hc
    split at h
    · rename_i hword
      have := length_nodeId_lt (s := after) hword
      rw [hc] at hs
      split at h
      · simp at h
      · rename_i shapedMention behind hshaped
        obtain ⟨-, rfl⟩ := Prod.mk.inj (Option.some.inj (Except.ok.inj h))
        have := length_of_shaped hshaped
        have := length_skipClass_le behind
        omega
    · simp at h

def moreMentions (s : Text) : Except Fault (List Mention × Text) :=
  match _ha : Text.after? ['&'] (skipBlanks s) with
  | none => .ok ([], s)
  | some rest =>
    match _hm : mention? rest with
    | .error fault => .error fault
    | .ok none => .ok ([], s)
    | .ok (some (mention, after)) =>
      match moreMentions after with
      | .error fault => .error fault
      | .ok (mentions, last) => .ok (mention :: mentions, last)
termination_by s.length
decreasing_by
  have := length_of_after? _ha
  have := length_skipBlanks_le s
  have := length_of_mention? _hm
  omega

def group? (s : Text) : Except Fault (Option (List Mention × Text)) :=
  match mention? s with
  | .error fault => .error fault
  | .ok none => .ok none
  | .ok (some (mention, rest)) =>
    match moreMentions rest with
    | .error fault => .error fault
    | .ok (mentions, last) => .ok (some (mention :: mentions, last))

theorem length_of_moreMentions {s rest : Text} {mentions : List Mention}
    (h : moreMentions s = .ok (mentions, rest)) : rest.length ≤ s.length := by
  fun_induction moreMentions s generalizing mentions with
  | case1 => simp_all
  | case2 => simp at h
  | case3 => simp_all
  | case4 => simp at h
  | case5 s rest' ha mention after hm mentions' last hmore ih =>
    obtain ⟨-, rfl⟩ := Prod.mk.inj (Except.ok.inj h)
    have := ih hmore
    have := length_of_after? ha
    have := length_skipBlanks_le s
    have := length_of_mention? hm
    omega

theorem length_of_group? {s rest : Text} {mentions : List Mention}
    (h : group? s = .ok (some (mentions, rest))) : rest.length < s.length := by
  unfold group? at h
  split at h
  · simp at h
  · simp at h
  · rename_i mention after hm
    have := length_of_mention? hm
    split at h
    · simp at h
    · rename_i more last hmore
      obtain ⟨-, rfl⟩ := Prod.mk.inj (Option.some.inj (Except.ok.inj h))
      have := length_of_moreMentions hmore
      omega

structure Segment where
  style : EdgeStyle
  label : Option Text
  targets : List Mention
  deriving DecidableEq, Repr

/-- The connectors and groups behind a first group. Where a connector has no group behind it,
neither is read. -/
def connections (s : Text) : Except Fault (List (Connector × List Mention) × Text) :=
  match _hc : connector? s with
  | .error _ => .error .unclosedLabel
  | .ok none => .ok ([], s)
  | .ok (some (connector, rest)) =>
    match _hg : group? rest with
    | .error fault => .error fault
    | .ok none => .ok ([], s)
    | .ok (some (targets, after)) =>
      match connections after with
      | .error fault => .error fault
      | .ok (more, last) => .ok ((connector, targets) :: more, last)
termination_by s.length
decreasing_by
  have := length_of_connector? _hc
  have := length_of_group? _hg
  omega

def decodeLabel (label : Text) : Except Fault (Option Text) :=
  match decode label with
  | .error code => .error (.badCode code)
  | .ok text => .ok (if text.isEmpty then none else some text)

/-- Decodes the labels of a whole chain, from left to right. -/
def segmentsOf : List (Connector × List Mention) → Except Fault (List Segment)
  | [] => .ok []
  | (connector, targets) :: more =>
    match decodeLabel connector.label with
    | .error fault => .error fault
    | .ok label =>
      match segmentsOf more with
      | .error fault => .error fault
      | .ok rest => .ok (⟨connector.style, label, targets⟩ :: rest)

theorem length_of_connections {s rest : Text} {chain : List (Connector × List Mention)}
    (h : connections s = .ok (chain, rest)) : rest.length ≤ s.length := by
  fun_induction connections s generalizing chain with
  | case1 => simp at h
  | case2 => simp_all
  | case3 => simp at h
  | case4 => simp_all
  | case5 => simp at h
  | case6 s connector rest' hc targets after hg more last hmore ih =>
    obtain ⟨-, rfl⟩ := Prod.mk.inj (Except.ok.inj h)
    have := ih hmore
    have := length_of_connector? hc
    have := length_of_group? hg
    omega

structure Statement where
  sources : List Mention
  segments : List Segment := []
  deriving DecidableEq, Repr

namespace Statement

def mentions (statement : Statement) : List Mention :=
  statement.sources ++ statement.segments.flatMap Segment.targets

def linksFrom : List Mention → List Segment → List Link
  | _, [] => []
  | sources, segment :: rest =>
    (sources.flatMap fun source => segment.targets.map fun target =>
      ⟨source.id, target.id, segment.label, segment.style⟩) ++ linksFrom segment.targets rest

def links (statement : Statement) : List Link := linksFrom statement.sources statement.segments

def read? (s : Text) : Except Fault (Option (Statement × Text)) :=
  match group? s with
  | .error fault => .error fault
  | .ok none => .ok none
  | .ok (some (sources, rest)) =>
    match connections rest with
    | .error fault => .error fault
    | .ok (chain, last) =>
      match segmentsOf chain with
      | .error fault => .error fault
      | .ok segments => .ok (some (⟨sources, segments⟩, last))

theorem length_of_read? {s rest : Text} {statement : Statement}
    (h : read? s = .ok (some (statement, rest))) : rest.length < s.length := by
  unfold read? at h
  split at h
  · simp at h
  · simp at h
  · rename_i sources after hg
    have := length_of_group? hg
    split at h
    · simp at h
    · rename_i chain last hchain
      have := length_of_connections hchain
      split at h
      · simp at h
      · obtain ⟨-, rfl⟩ := Prod.mk.inj (Option.some.inj (Except.ok.inj h))
        omega

end Statement

end Flowchart.Chart
