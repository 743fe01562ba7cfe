/-!
# Binary floating-point numbers

Numbers of 64 bits: a sign, eleven bits of exponent and a fraction of 52 bits. A finite number is
`mantissa · 2 ^ power`, so every comparison below is exact arithmetic on natural numbers.
-/

namespace Flowchart

structure Binary64 where
  bits : UInt64
  deriving DecidableEq, Repr

namespace Binary64

def signWeight : Nat := 1 <<< 63

/-- The weight of the lowest bit of the exponent, and of the bit of a mantissa that is not
stored. -/
def exponentWeight : Nat := 1 <<< 52

def negative (x : Binary64) : Bool := signWeight ≤ x.bits.toNat

def exponentField (x : Binary64) : Nat := x.bits.toNat / exponentWeight % 2048

def fractionField (x : Binary64) : Nat := x.bits.toNat % exponentWeight

def isNan (x : Binary64) : Bool := x.exponentField == 2047 && x.fractionField != 0

def isInfinite (x : Binary64) : Bool := x.exponentField == 2047 && x.fractionField == 0

def isZero (x : Binary64) : Bool := x.exponentField == 0 && x.fractionField == 0

def mantissa (x : Binary64) : Nat :=
  if x.exponentField == 0 then x.fractionField else x.fractionField + exponentWeight

def power (x : Binary64) : Int :=
  if x.exponentField == 0 then -1074 else (x.exponentField : Int) - 1075

def magnitude (x : Binary64) : Nat × Nat :=
  (x.mantissa <<< x.power.toNat, 1 <<< (-x.power).toNat)

/-- The whole number nearest to `num / den`; a tie goes to the even one. -/
def roundHalfEven (num den : Nat) : Nat :=
  let q := num / den
  let r := num % den
  if 2 * r < den then q
  else if 2 * r > den then q + 1
  else if q % 2 == 0 then q else q + 1

def ofMagnitude (negative : Bool) (magnitude : Nat) : Binary64 :=
  ⟨UInt64.ofNat ((if negative then signWeight else 0) + magnitude)⟩

def infinity (negative : Bool) : Binary64 := ofMagnitude negative (2047 * exponentWeight)

def nan : Binary64 := ofMagnitude false (2047 * exponentWeight + exponentWeight / 2)

/-- The nearest number to `num / den`. The exponent is the one that leaves a mantissa of 53 bits,
or the least one there is. Exponent and mantissa are added, so that a mantissa that rounds up to
the next power of two moves the exponent. -/
def ofRatio (negative : Bool) (num den : Nat) : Binary64 :=
  if num == 0 then ofMagnitude negative 0
  else
    let guess : Int := (num.log2 : Int) - den.log2 - 53
    let wide := 2 * exponentWeight ≤ num <<< (-guess).toNat / (den <<< guess.toNat)
    let power := max (if wide then guess + 1 else guess) (-1074)
    let mantissa := roundHalfEven (num <<< (-power).toNat) (den <<< power.toNat)
    let word := (power + 1074).toNat * exponentWeight + mantissa
    if 2047 * exponentWeight ≤ word then infinity negative else ofMagnitude negative word

def tenTo (exponent : Int) : Nat := Nat.pow 10 exponent.toNat

/-- The nearest number to `digits · 10 ^ exponent`. Numbers far outside the range are settled by
their count of digits alone. -/
def ofDecimal (negative : Bool) (digits : Nat) (exponent : Int) : Binary64 :=
  let size : Int := (Nat.toDigits 10 digits).length + exponent
  if digits == 0 || size < -400 then ofMagnitude negative 0
  else if size > 400 then infinity negative
  else ofRatio negative (digits * tenTo exponent) (tenTo (-exponent))

end Binary64

end Flowchart
