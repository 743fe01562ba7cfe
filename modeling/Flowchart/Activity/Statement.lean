import Flowchart.Activity.Escape

/-!
# Statements of activity diagrams

One statement to a line. Conditions, labels and activities are unescaped and trimmed; a label with
nothing left is none.
-/

namespace Flowchart.Activity

inductive Statement where
  | start
  | stop
  | activity (text : Text)
  | ifThen (condition : Text) (label : Option Text)
  | elseIf (no condition : Text) (label : Option Text)
  | otherwise (label : Option Text)
  | endIf
  | label (name : Text)
  | goto (name : Text)
  | arrow (label : Option Text)
  deriving DecidableEq, Repr

def plainText (raw : Text) : Text := Text.trim (unescape raw)

def labelOf (raw : Text) : Option Text :=
  match plainText raw with
  | [] => none
  | text => some text

def parenthesized? (s : Text) : Option Text :=
  (Text.after? ['('] s).bind (Text.before? [')'])

def thenPart? (s : Text) : Option (Option Text) :=
  match Text.trimLeft s with
  | [] => some none
  | rest => do
    let rest ← Text.after? "then".toList rest
    match Text.trimLeft rest with
    | [] => some none
    | rest => (parenthesized? rest).map labelOf

/-- A condition up to the first parenthesis behind which the line can end. -/
def conditionUpTo? : Text → Option (Text × Option Text)
  | [] => none
  | c :: s =>
    match if c == ')' then thenPart? s else none with
    | some label => some ([], label)
    | none => (conditionUpTo? s).map fun r => (c :: r.1, r.2)

def condition? (s : Text) : Option (Text × Option Text) :=
  match Text.trimLeft s with
  | '(' :: c :: rest => (conditionUpTo? rest).map fun r => (plainText (c :: r.1), r.2)
  | _ => none

def afterPair? (first second s : Text) : Option Text := do
  let rest ← Text.after? first s
  match rest with
  | c :: more => if Text.isBlank c then Text.after? second more else Text.after? second rest
  | [] => none

def nameAfter? (keyword s : Text) : Option Text :=
  match Text.after? keyword s with
  | some (c :: rest) =>
    let name := Text.trimLeft rest
    if Text.isBlank c && !name.isEmpty && name.all (!Text.isBlank ·) then some name else none
  | _ => none

def activity? (s : Text) : Option Statement :=
  ((Text.after? [':'] s).bind (Text.before? [';'])).map fun text => .activity (plainText text)

def ifThen? (s : Text) : Option Statement := do
  let rest ← Text.after? "if".toList s
  let (condition, label) ← condition? rest
  return .ifThen condition label

/-- The label of the way past the previous condition may come first; it is `no` by default. -/
def elseIf? (s : Text) : Option Statement := do
  let (no, line) ←
    match s with
    | '(' :: rest =>
      match rest.dropWhile (· != ')') with
      | ')' :: line => some (labelOf (rest.takeWhile (· != ')')), Text.trimLeft line)
      | _ => none
    | _ => some (none, s)
  let rest ← afterPair? "else".toList "if".toList line
  let (condition, label) ← condition? rest
  return .elseIf (no.getD "no".toList) condition label

def otherwise? (s : Text) : Option Statement :=
  match Text.after? "else".toList s with
  | none => none
  | some [] => some (.otherwise none)
  | some rest => (parenthesized? (Text.trimLeft rest)).map fun label => .otherwise (labelOf label)

def endIf? (s : Text) : Option Statement :=
  if afterPair? "end".toList "if".toList s = some [] then some .endIf else none

def arrow? (s : Text) : Option Statement :=
  match s.dropWhile (· == '-') with
  | '>' :: rest =>
    let label := (Text.before? [';'] rest).getD rest
    if s.head? == some '-' && !label.contains ';' then some (.arrow (labelOf label)) else none
  | _ => none

def terminators : List Text :=
  ["stop".toList, "end".toList, "kill".toList, "detach".toList]

namespace Statement

def read? (s : Text) : Option Statement :=
  if s = "start".toList then some .start
  else if terminators.contains s then some .stop
  else
    activity? s <|> ifThen? s <|> elseIf? s <|> otherwise? s <|> endIf? s <|>
      (nameAfter? "label".toList s).map .label <|> (nameAfter? "goto".toList s).map .goto <|>
      arrow? s

end Statement

end Flowchart.Activity
