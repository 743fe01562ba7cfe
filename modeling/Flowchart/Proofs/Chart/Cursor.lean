import Flowchart.Chart.Reader

/-!
# Reading without lines

The same readers over a whole body, which is not cut into lines.  Everything stops at a line feed of
its own accord, or looks past it where its text says so: a bar is looked for in all that follows.
-/

namespace Flowchart.Chart.Cursor

/-- A fault, and how many line feeds are ahead where it shows. -/
structure Halt where
  fault : Fault
  ahead : Nat
  deriving DecidableEq, Repr

def halt (fault : Fault) (s : Text) : Halt := ⟨fault, Text.newlines s⟩

def Halt.lineFault (total : Nat) (halt : Halt) : LineFault := ⟨halt.fault, total - halt.ahead⟩

def dropLine (s : Text) : Text := s.dropWhile (· != '\n')

def skipBlanks (s : Text) : Text :=
  let rest := Text.skipGaps s
  if Text.startsWith rest "%%".toList then dropLine rest else rest

theorem length_dropLine_le (s : Text) : (dropLine s).length ≤ s.length :=
  length_dropWhile_le (· != '\n') s

theorem length_skipBlanks_le (s : Text) : (skipBlanks s).length ≤ s.length := by
  have := length_dropWhile_le Text.isGap s
  simp only [skipBlanks]
  split
  · exact Nat.le_trans (length_dropLine_le _) this
  · exact this

def quotedText (quote : Char) : Text → Except Halt (Text × Text)
  | [] => .error (halt .unclosedQuote [])
  | c :: s =>
    if c = quote then .ok ([], s)
    else if c = '\n' then .error (halt .unclosedQuote (c :: s))
    else (quotedText quote s).map fun r => (c :: r.1, r.2)

def bracketText (node : Text) (opener : Option Char) (closer : Text) :
    Nat → Text → Except Halt (Text × Text)
  | _, [] => .error (halt (.unclosedShape node) [])
  | depth, c :: s =>
    if c = '\n' then .error (halt (.unclosedShape node) (c :: s))
    else
      match (if depth = 0 then Text.after? closer (c :: s) else none) with
      | some rest => .ok ([], rest)
      | none =>
        (bracketText node opener closer (deepen opener (closer.headD ' ') depth c) s).map
          fun r => (c :: r.1, r.2)

def shapeText (node closer s : Text) : Except Halt (Text × Text) :=
  match skipBlanks s with
  | [] => .error (halt (.unclosedShape node) [])
  | c :: rest =>
    if c = '"' ∨ c = '\'' then
      match quotedText c rest with
      | .error halt => .error halt
      | .ok (text, rest) =>
        match Text.after? closer (skipBlanks rest) with
        | some rest => .ok (text, rest)
        | none => .error (halt (.expectedCloser closer node) (skipBlanks rest))
    else bracketText node (nesting? (closer.headD ' ')) closer 0 (c :: rest)

def shaped (id s : Text) : Except Halt (Mention × Text) :=
  match Shape.all.findSome? fun shape => (Text.after? shape.opener s).map (shape, ·) with
  | none => .ok ({ id := id }, s)
  | some (shape, inside) =>
    match shapeText id shape.closer inside with
    | .error halt => .error halt
    | .ok (raw, rest) =>
      match decode raw with
      | .error code => .error (halt (.badCode code) rest)
      | .ok text => .ok (⟨id, if text.isEmpty then none else some text, shape⟩, rest)

def mention? (s : Text) : Except Halt (Option (Mention × Text)) :=
  match skipBlanks s with
  | [] => .ok none
  | c :: rest =>
    if Text.isWord c then
      (shaped (nodeId (c :: rest)).1 (nodeId (c :: rest)).2).map fun r => some (r.1, skipClass r.2)
    else .ok none

/-- The mentions behind the first one of a group. The loop would end where nothing is read. -/
def moreMentions (s : Text) : Except Halt (List Mention × Text) :=
  match Text.after? ['&'] (skipBlanks s) with
  | none => .ok ([], s)
  | some rest =>
    match mention? rest with
    | .error halt => .error halt
    | .ok none => .ok ([], s)
    | .ok (some (mention, after)) =>
      if after.length < s.length then
        (moreMentions after).map fun r => (mention :: r.1, r.2)
      else .ok ([mention], after)
termination_by s.length

def group? (s : Text) : Except Halt (Option (List Mention × Text)) :=
  match mention? s with
  | .error halt => .error halt
  | .ok none => .ok none
  | .ok (some (mention, rest)) => (moreMentions rest).map fun r => some (mention :: r.1, r.2)

def labelBefore? (stroke : Stroke) : Text → Option (Text × Text)
  | [] => none
  | c :: s =>
    if c = '\n' then none
    else
      match pastSpaced? stroke s with
      | some rest => some ([c], rest)
      | none => (labelBefore? stroke s).map fun r => (c :: r.1, r.2)

def innerLabel? (start : Text) (stroke : Stroke) (s : Text) : Option (Text × Text) :=
  match Text.after? start s with
  | none => none
  | some rest =>
    let gaps := (rest.takeWhile Text.isGap).length
    if gaps = 0 then none
    else
      match labelBefore? stroke (Text.skipGaps rest) with
      | some r => some r
      | none => if 3 ≤ gaps then (stroke.past? (Text.skipGaps rest)).map ([], ·) else none

def labelled? (s : Text) : Option (Connector × Text) :=
  labelledArrows.findSome? fun arrow =>
    (innerLabel? arrow.2.1 arrow.2.2 s).map fun r => (⟨arrow.1, r.1⟩, r.2)

/-- The second bar is looked for in the whole text, and has to stand before the next line feed. -/
def barLabel (s : Text) : Except Halt (Text × Text) :=
  match Text.after? ['|'] (skipBlanks s) with
  | none => .ok ([], s)
  | some inside =>
    match inside.dropWhile (· != '|') with
    | [] => .error (halt .unclosedLabel inside)
    | _ :: rest =>
      if '\n' ∈ inside.takeWhile (· != '|') then .error (halt .unclosedLabel inside)
      else .ok (inside.takeWhile (· != '|'), rest)

def connector? (s : Text) : Except Halt (Option (Connector × Text)) :=
  match labelled? (skipBlanks s) with
  | some r => .ok (some r)
  | none =>
    match plain? (skipBlanks s) with
    | none => .ok none
    | some (style, rest) => (barLabel rest).map fun r => some (⟨style, r.1⟩, r.2)

def connections (s : Text) : Except Halt (List (Connector × List Mention) × Text) :=
  match connector? s with
  | .error halt => .error halt
  | .ok none => .ok ([], s)
  | .ok (some (connector, rest)) =>
    match group? rest with
    | .error halt => .error halt
    | .ok none => .ok ([], s)
    | .ok (some (targets, after)) =>
      if after.length < s.length then
        (connections after).map fun r => ((connector, targets) :: r.1, r.2)
      else .ok ([(connector, targets)], after)
termination_by s.length

def read? (s : Text) : Except Halt (Option (Statement × Text)) :=
  match group? s with
  | .error halt => .error halt
  | .ok none => .ok none
  | .ok (some (sources, rest)) =>
    match connections rest with
    | .error halt => .error halt
    | .ok (chain, last) =>
      match segmentsOf chain with
      | .error fault => .error (halt fault last)
      | .ok segments => .ok (some (⟨sources, segments⟩, last))

def endsStatement (c : Char) : Bool := c == '\n' || isSeparator c

/-- Where reading goes on behind a statement. What is left of its line is dropped, unless the
statement ends there. -/
def settle (s : Text) : Text :=
  let rest := skipBlanks s
  if rest.head?.all endsStatement then rest else dropLine rest

theorem length_settle_le (s : Text) : (settle s).length ≤ s.length := by
  have := length_skipBlanks_le s
  simp only [settle]
  split
  · exact this
  · exact Nat.le_trans (length_dropLine_le _) this

def statements (s : Text) : Except Halt (List Statement) :=
  match _hs : skipBlanks s with
  | [] => .ok []
  | c :: rest =>
    if endsStatement c then statements rest
    else if isSkipped (c :: rest) then statements (dropLine rest)
    else
      match _he : afterEnd? (c :: rest) with
      | some after => statements (settle after)
      | none =>
        match read? (c :: rest) with
        | .error halt => .error halt
        | .ok none => statements (dropLine rest)
        | .ok (some (statement, after)) =>
          if after.length ≤ rest.length then (statements (settle after)).map (statement :: ·)
          else .ok [statement]
termination_by s.length
decreasing_by
  all_goals
    have := length_skipBlanks_le s
    rw [_hs, List.length_cons] at this
  · omega
  · have := length_dropLine_le rest
    omega
  · have := length_settle_le after
    have := length_of_after? (Option.filter_eq_some_iff.1 _he).1
    have : "end".toList.length = 3 := rfl
    simp only [List.length_cons] at *
    omega
  · have := length_dropLine_le rest
    omega
  · have := length_settle_le after
    omega

def skipLines (s : Text) : Text :=
  let rest := s.dropWhile fun c => Text.isGap c || c == '\r' || c == '\n'
  match _hc : Text.after? "%%".toList rest with
  | none => rest
  | some comment => skipLines (dropLine comment)
termination_by s.length
decreasing_by
  have := length_of_after? _hc
  have := length_dropLine_le comment
  have : rest.length ≤ s.length := length_dropWhile_le _ s
  have : "%%".toList.length = 2 := rfl
  omega

def splitHeader? (s : Text) : Option (Direction × Text) :=
  (header? (skipLines s)).map (·, dropLine (skipLines s))

end Flowchart.Chart.Cursor

namespace Flowchart.Chart

/-- The sheet of a body that is read in one go. -/
def Sheet.scan (body : Text) : Except LineFault Sheet :=
  let (direction, s) := (Cursor.splitHeader? body).getD (.td, body)
  ((Cursor.statements s).mapError (Cursor.Halt.lineFault (Text.newlines body + 1))).map
    (Sheet.ofStatements direction)

end Flowchart.Chart
