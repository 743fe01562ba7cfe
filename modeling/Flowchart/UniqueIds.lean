import Flowchart.Text.Numeral

/-!
# Unique ids

Names are mapped to ids of a narrower alphabet. Different names get different ids: where an id is
taken already, the least free number from two on is put behind it.
-/

namespace Flowchart

abbrev UniqueIds := List (Text × Text)

namespace UniqueIds

def isPlain (c : Char) : Bool := c.isAlphanum || c == '_' || c == '-'

def sanitize (name : Text) : Text :=
  match (Text.trim name).map fun c => if isPlain c then c else '_' with
  | [] => ['_']
  | safe => safe

def candidate (base : Text) : Nat → Text
  | 0 => base
  | k + 1 => base ++ '_' :: Text.ofNat (k + 2)

/-- The first candidate that is free. One more candidate than there are taken ids is enough. -/
def firstFree (taken : List Text) (base : Text) : Text :=
  (((List.range (taken.length + 1)).map (candidate base)).find? (!taken.contains ·)).getD base

def id? (ids : UniqueIds) (name : Text) : Option Text := ids.lookup name

def add (clean : Text → Text) (ids : UniqueIds) (name : Text) : UniqueIds :=
  match ids.id? name with
  | some _ => ids
  | none => ids ++ [(name, firstFree (ids.map Prod.snd) (clean name))]

def addAll (clean : Text → Text) (names : List Text) : UniqueIds := names.foldl (add clean) []

def idOf (ids : UniqueIds) (name : Text) : Text := (ids.id? name).getD []

end UniqueIds

end Flowchart
