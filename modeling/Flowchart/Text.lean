import Flowchart.Text.Blank

/-!
# Text

A text is a list of characters. This file holds the operations that every notation shares:
trimming, splitting, searching and joining.

Characters are Unicode scalar values, so texts with one half of a surrogate pair are left out. Where
a reader would make such a half of an escape or of a number, it makes U+FFFD.
-/

namespace Flowchart

abbrev Text := List Char

namespace Text

def trimLeft (s : Text) : Text := s.dropWhile isBlank

def trimRight : Text → Text
  | [] => []
  | c :: s =>
    match trimRight s with
    | [] => if isBlank c then [] else [c]
    | kept => c :: kept

def trim (s : Text) : Text := trimRight (trimLeft s)

def skipGaps (s : Text) : Text := s.dropWhile isGap

def withoutLastBreak (s : Text) : Text :=
  if s.getLast? == some '\n' then s.dropLast else s

/-- The pieces between the characters that satisfy `p`: always one more than there are of those. -/
def splitWhere (p : Char → Bool) : Text → List Text
  | [] => [[]]
  | c :: s =>
    if p c then [] :: splitWhere p s
    else
      match splitWhere p s with
      | [] => [[c]]
      | piece :: pieces => (c :: piece) :: pieces

def split (sep : Char) (s : Text) : List Text := splitWhere (· == sep) s

def words (s : Text) : List Text := (splitWhere isBlank s).filter (!·.isEmpty)

/-- Lines without their breaks. A carriage return and the line feed behind it are one break, and
no line follows a break at the very end. -/
def lines : Text → List Text
  | [] => []
  | '\r' :: '\n' :: s => [] :: lines s
  | c :: s =>
    if isBreak c then [] :: lines s
    else
      match lines s with
      | [] => [[c]]
      | line :: rest => (c :: line) :: rest

def trimmedLines (s : Text) : List Text := (lines (trim s)).map trim

def after? : Text → Text → Option Text
  | [], s => some s
  | _ :: _, [] => none
  | p :: ps, c :: s => if p == c then after? ps s else none

def startsWith (s beginning : Text) : Bool := (after? beginning s).isSome

def before? (ending s : Text) : Option Text :=
  (after? ending.reverse s.reverse).map List.reverse

def endsWith (s ending : Text) : Bool := (before? ending s).isSome

def occursIn (part : Text) : Text → Bool
  | [] => part.isEmpty
  | c :: s => startsWith (c :: s) part || occursIn part s

def indexOf? (part : Text) : Text → Option Nat
  | [] => if part.isEmpty then some 0 else none
  | c :: s => if startsWith (c :: s) part then some 0 else (indexOf? part s).map (· + 1)

def anyTail (p : Text → Bool) : Text → Bool
  | [] => p []
  | c :: s => p (c :: s) || anyTail p s

def anyLineStart (p : Text → Bool) (s : Text) : Bool :=
  p s || anyTail (fun tail => tail.head? == some '\n' && p tail.tail) s

def newlines (s : Text) : Nat := s.count '\n'

@[simp] theorem after?_nil (s : Text) : after? [] s = some s := by cases s <;> rfl

@[simp] theorem after?_append (p s : Text) : after? p (p ++ s) = some s := by
  induction p with
  | nil => simp
  | cons c p ih => simp [after?, ih]

theorem eq_append_of_after? {p s r : Text} (h : after? p s = some r) : s = p ++ r := by
  induction p generalizing s with
  | nil => simpa using h
  | cons c p ih =>
    cases s with
    | nil => simp [after?] at h
    | cons d s =>
      by_cases hcd : c = d
      · subst hcd; simp [ih (by simpa [after?] using h)]
      · simp [after?, hcd] at h

/-- Whether one text comes before another or is the same. The first characters that differ decide,
by their numbers. -/
def notAfter : Text → Text → Bool
  | [], _ => true
  | _ :: _, [] => false
  | a :: s, b :: t => a.toNat < b.toNat || (a == b && notAfter s t)

def join (sep : Text) (parts : List Text) : Text := sep.intercalate parts

def replace (old : Char) (new : Text) (s : Text) : Text :=
  s.flatMap fun c => if c == old then new else [c]

/-- Puts texts in the place of the matches found from left to right. `find` tells the length of the
match at the very start of a text, and what replaces it; `skip` characters belong to a match
already. -/
def substitute (find : Text → Option (Nat × Text)) : Nat → Text → Text
  | _, [] => []
  | skip + 1, _ :: s => substitute find skip s
  | 0, c :: s =>
    match find (c :: s) with
    | none => c :: substitute find 0 s
    | some (length, new) => new ++ substitute find (length - 1) s

/-- As `substitute`, where a match may have a fault instead of a meaning. -/
def trySubstitute {ε : Type} (find : Text → Option (Nat × Except ε Text)) :
    Nat → Text → Except ε Text
  | _, [] => .ok []
  | skip + 1, _ :: s => trySubstitute find skip s
  | 0, c :: s =>
    match find (c :: s) with
    | none => (trySubstitute find 0 s).map (c :: ·)
    | some (length, meaning) => do
      let new ← meaning
      let rest ← trySubstitute find (length - 1) s
      return new ++ rest

def spaces (n : Nat) : Text := List.replicate n ' '

end Text

end Flowchart
