import Flowchart.Catalog

/-!
# Detection

The format of a text is the one that scores highest; of equal scores the one registered first wins.
-/

namespace Flowchart

inductive Undetected where
  | emptyInput
  | noScores
  | unclear
  deriving DecidableEq, Repr

namespace Undetected

def message : Undetected → Text
  | emptyInput => "Empty input provided".toList
  | noScores => "No detectors available".toList
  | unclear => "No clear format indicators found".toList

end Undetected

inductive Detection (κ : Type) where
  | found (id : Text) (score : κ)
  | unknown (reason : Undetected)
  deriving DecidableEq, Repr

def unknownId : Text := "unknown".toList

namespace Detection

variable {κ : Type}

def id? : Detection κ → Option Text
  | found id _ => if id = unknownId then none else some id
  | unknown _ => none

/-- The score of the format that was found. Where none was, nothing speaks for any. -/
def confidence [Zero κ] : Detection κ → κ
  | found _ score => score
  | unknown _ => 0

end Detection

def Entry.scored? {κ : Type} (text : Text) (entry : Entry κ) : Option (Text × κ) :=
  (entry.format.score text).map (entry.format.foundId text, ·)

namespace Catalog

variable {κ : Type}

def scores (catalog : Catalog κ) (text : Text) : List (Text × κ) :=
  catalog.entries.filterMap (Entry.scored? text)

variable [LT κ] [DecidableLT κ]

def highest (first : Text × κ) (others : List (Text × κ)) : Text × κ :=
  others.foldl (fun best next => if best.2 < next.2 then next else best) first

def detect (catalog : Catalog κ) (text : Text) : Detection κ :=
  if (Text.trim text).isEmpty then .unknown .emptyInput
  else
    match catalog.scores text with
    | [] => .unknown .noScores
    | first :: others =>
      let best := highest first others
      if catalog.settings.threshold < best.2 then .found best.1 best.2 else .unknown .unclear

end Catalog

end Flowchart
