import Flowchart.Binary64

/-!
# Order, sums and products of floating-point numbers

Every number but NaN has a place on one line, on which both zeros share theirs. A sum is the number
nearest to the exact sum, and a product the number nearest to the exact product.
-/

namespace Flowchart.Binary64

def place (x : Binary64) : Int :=
  let magnitude : Int := (x.bits.toNat % signWeight : Nat)
  if x.negative then -magnitude else magnitude

/-- NaN is neither below nor above anything. -/
def below (x y : Binary64) : Bool := !x.isNan && !y.isNan && x.place < y.place

instance : LT Binary64 := ⟨fun x y => below x y = true⟩

instance : DecidableLT Binary64 := fun x y => inferInstanceAs (Decidable (below x y = true))

def zero : Binary64 := ofMagnitude false 0

instance : Zero Binary64 := ⟨zero⟩

def one : Binary64 := ofRatio false 1 1

def least (x y : Binary64) : Binary64 := if below y x then y else x

def greatest (x y : Binary64) : Binary64 := if below x y then y else x

def clamp (x : Binary64) : Binary64 := greatest zero (least one x)

def add (x y : Binary64) : Binary64 :=
  let (a, b) := x.magnitude
  let (c, d) := y.magnitude
  ofRatio false (a * d + c * b) (b * d)

def times (n : Nat) (x : Binary64) : Binary64 :=
  let (a, b) := x.magnitude
  ofRatio false (n * a) b

def negate (x : Binary64) : Binary64 := ⟨x.bits ^^^ UInt64.ofNat signWeight⟩

def fraction (x : Binary64) : Int × Nat :=
  let (num, den) := x.magnitude
  (if x.negative then -(num : Int) else num, den)

/-- The sum of any two numbers. Infinities of both signs have none, and a sum of zeros is negative
only if both are. -/
def plus (x y : Binary64) : Binary64 :=
  if x.isNan || y.isNan then nan
  else if x.isInfinite then (if y.isInfinite && x.negative != y.negative then nan else x)
  else if y.isInfinite then y
  else
    let (a, b) := x.fraction
    let (c, d) := y.fraction
    let sum := a * d + c * b
    ofRatio (if sum = 0 then x.negative && y.negative else sum < 0) sum.natAbs (b * d)

def product (x y : Binary64) : Binary64 :=
  let negative := x.negative != y.negative
  if x.isNan || y.isNan then nan
  else if x.isInfinite || y.isInfinite then
    if x.isZero || y.isZero then nan else infinity negative
  else
    let (a, b) := x.magnitude
    let (c, d) := y.magnitude
    ofRatio negative (a * c) (b * d)

def hundredths (n : Nat) : Binary64 := ofRatio false n 100

def ofInt (n : Int) : Binary64 := ofRatio (n < 0) n.natAbs 1

end Flowchart.Binary64
