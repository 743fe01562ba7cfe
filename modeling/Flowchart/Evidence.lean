import Flowchart.Binary64.Arithmetic
import Flowchart.Text

/-!
# Evidence

What speaks for a notation: findings that each count a few hundredths, up to a cap. The score is
their sum, one at most. Its exact value is a whole number of hundredths; the score that is reported
comes from adding floating-point numbers one after the other.
-/

namespace Flowchart

structure Finding where
  count : Nat
  unit : Nat
  cap : Nat
  deriving DecidableEq, Repr

abbrev Evidence := List Finding

namespace Finding

def once (found : Bool) (weight : Nat) : Finding := ⟨if found then 1 else 0, weight, weight⟩

def exact (finding : Finding) : Nat := min (finding.count * finding.unit) finding.cap

def value (finding : Finding) : Binary64 :=
  Binary64.least (Binary64.hundredths finding.cap)
    (Binary64.times finding.count (Binary64.hundredths finding.unit))

end Finding

namespace Evidence

def exact (evidence : Evidence) : Nat :=
  min 100 (evidence.foldl (fun sum finding => sum + finding.exact) 0)

def score (evidence : Evidence) : Binary64 :=
  Binary64.least Binary64.one
    (evidence.foldl (fun sum finding => Binary64.add sum finding.value) Binary64.zero)

end Evidence

end Flowchart
