import Flowchart.Text
import Flowchart.Text.Digit
import Flowchart.Text.Upper

/-!
# Tokens of digraphs

The words of the notation. Blanks and comments may stand before each of them. An id keeps its quotes
or angle brackets, as they tell what it may stand for.
-/

namespace Flowchart.Digraph

def isSpace (c : Char) : Bool := c == ' ' || c == '\t' || c == '\r' || c == '\n'

def afterBlock? : Text → Option Text
  | [] => none
  | '*' :: '/' :: s => some s
  | _ :: s => afterBlock? s

def afterComment? : Text → Option Text
  | '#' :: s => some (s.dropWhile (· != '\n'))
  | '/' :: '/' :: s => some (s.dropWhile (· != '\n'))
  | '/' :: '*' :: s => afterBlock? s
  | _ => none

theorem length_of_afterBlock? {s rest : Text} (h : afterBlock? s = some rest) :
    rest.length < s.length := by
  fun_induction afterBlock? s with
  | case1 => simp at h
  | case2 s =>
    obtain rfl := Option.some.inj h
    simp only [List.length_cons]
    omega
  | case3 c s _ ih => exact Nat.lt_succ_of_lt (ih h)

theorem length_of_afterComment? {s rest : Text} (h : afterComment? s = some rest) :
    rest.length < s.length := by
  have hdrop (s : Text) : (s.dropWhile (· != '\n')).length ≤ s.length :=
    (List.dropWhile_sublist _).length_le
  unfold afterComment? at h
  split at h
  · rename_i s
    have := hdrop s
    obtain rfl := Option.some.inj h
    simp only [List.length_cons]
    omega
  · rename_i s
    have := hdrop s
    obtain rfl := Option.some.inj h
    simp only [List.length_cons]
    omega
  · have := length_of_afterBlock? h
    simp only [List.length_cons]
    omega
  · simp at h

def skipSpace (s : Text) : Text :=
  match _h : afterComment? (s.dropWhile isSpace) with
  | none => s.dropWhile isSpace
  | some rest => skipSpace rest
termination_by s.length
decreasing_by
  have := length_of_afterComment? _h
  have : (s.dropWhile isSpace).length ≤ s.length := (List.dropWhile_sublist _).length_le
  omega

def mark? (mark s : Text) : Option Text := Text.after? mark (skipSpace s)

/-- A keyword in any case. It need not end where a word does. -/
def keyword? (word s : Text) : Option Text :=
  let rest := skipSpace s
  if Text.upper (rest.take word.length) = Text.upper word then some (rest.drop word.length)
  else none

def skipMark (mark s : Text) : Text := (mark? mark s).getD s

/-- Letters and digits of the first plane, underscores and points. -/
def isIdChar (c : Char) : Bool :=
  c == '_' || c == '.' || (c.toNat < 0x10000 && (Text.isLetter c || Text.isDigit c))

/-- Up to the closing quote, with that quote. A backslash guards the character behind it. -/
def quotedTail? : Text → Option (Text × Text)
  | [] => none
  | '"' :: s => some (['"'], s)
  | '\\' :: c :: s => (quotedTail? s).map fun r => ('\\' :: c :: r.1, r.2)
  | c :: s => if c = '\\' then none else (quotedTail? s).map fun r => (c :: r.1, r.2)

/-- Takes out the breaks that a backslash stands before. -/
def joinLines : Text → Text
  | '\\' :: '\r' :: '\n' :: s => joinLines s
  | '\\' :: '\n' :: s => joinLines s
  | c :: s => c :: joinLines s
  | [] => []

def quoted? (s : Text) : Option (Text × Text) :=
  match skipSpace s with
  | '"' :: rest => (quotedTail? rest).map fun r => (joinLines ('"' :: r.1), r.2)
  | _ => none

/-- Repeats a step for as long as it reads something. -/
def many {α : Type} (step : Text → Option (α × Text)) (s : Text) : List α × Text :=
  match step s with
  | none => ([], s)
  | some (a, rest) =>
    if rest.length < s.length then
      let r := many step rest
      (a :: r.1, r.2)
    else ([], s)
termination_by s.length

def inside (quoted : Text) : Text := quoted.tail.dropLast

def quotedId? (s : Text) : Option (Text × Text) :=
  match quoted? s with
  | none => none
  | some (first, rest) =>
    match many (fun s => (mark? ['+'] s).bind quoted?) rest with
    | ([], _) => some (first, rest)
    | (more, last) =>
      some ('"' :: inside first ++ more.flatMap inside ++ ['"'], last)

/-- Up to the angle bracket that closes all open ones. -/
def angled? : Nat → Text → Option (Text × Text)
  | _, [] => none
  | depth, c :: s =>
    let after := if c = '<' then depth + 1 else if c = '>' then depth - 1 else depth
    if after = 0 then some ([c], s) else (angled? after s).map fun r => (c :: r.1, r.2)

def id? (s : Text) : Option (Text × Text) :=
  match skipSpace s with
  | '"' :: rest => quotedId? ('"' :: rest)
  | '<' :: rest => angled? 0 ('<' :: rest)
  | rest =>
    if (rest.takeWhile isIdChar).isEmpty then none
    else some (rest.takeWhile isIdChar, rest.dropWhile isIdChar)

def isNumberChar (c : Char) : Bool := c == '.' || c.isDigit

def number? (s : Text) : Option (Text × Text) :=
  let rest := skipSpace s
  let (sign, body) : Text × Text := match rest with
    | '-' :: body => (['-'], body)
    | body => ([], body)
  if (body.takeWhile isNumberChar).isEmpty then none
  else some (sign ++ body.takeWhile isNumberChar, body.dropWhile isNumberChar)

/-- What may stand behind an equals sign. A number ends with its last digit or point. -/
def value? (s : Text) : Option (Text × Text) := (number? s).or (id? s)

end Flowchart.Digraph
