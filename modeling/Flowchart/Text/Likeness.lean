import Flowchart.Text

/-!
# Likeness of texts

How much two texts have in common: the longest stretch that stands in both, then the longest ones
before and behind it, and so on. Two texts are alike if that makes up six tenths of them.
-/

namespace Flowchart.Text

structure Stretch where
  first : Nat := 0
  second : Nat := 0
  length : Nat := 0
  deriving DecidableEq, Repr

def agreement : Text → Text → Nat
  | c :: s, d :: t => if c = d then agreement s t + 1 else 0
  | _, _ => 0

def stretches (s t : Text) : List Stretch :=
  (List.range s.length).flatMap fun i =>
    (List.range t.length).map fun j => ⟨i, j, agreement (s.drop i) (t.drop j)⟩

/-- Of equally long stretches the one that begins first, in the first text before the second. -/
def longestStretch (s t : Text) : Stretch :=
  (stretches s t).foldl (fun best next => if best.length < next.length then next else best) {}

def sharedWithin : Nat → Text → Text → Nat
  | 0, _, _ => 0
  | steps + 1, s, t =>
    let middle := longestStretch s t
    if middle.length = 0 then 0
    else
      sharedWithin steps (s.take middle.first) (t.take middle.second) + middle.length +
        sharedWithin steps (s.drop (middle.first + middle.length))
          (t.drop (middle.second + middle.length))

/-- How many characters two texts have in common. Every step takes one of the first text away. -/
def shared (s t : Text) : Nat := sharedWithin s.length s t

def isAlike (s t : Text) : Bool := 3 * (s.length + t.length) ≤ 10 * shared s t

def isCloser (word s t : Text) : Bool :=
  let a := shared s word * (t.length + word.length)
  let b := shared t word * (s.length + word.length)
  b < a || (a == b && notAfter t s)

/-- The candidates that are alike, in order, and the three closest of them if there are more. -/
def closest (word : Text) (candidates : List Text) : List Text :=
  (((candidates.filter (isAlike · word)).mergeSort (isCloser word)).take 3).mergeSort notAfter

end Flowchart.Text
