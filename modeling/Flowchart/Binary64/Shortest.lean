import Flowchart.Binary64
import Flowchart.Text.Numeral

/-!
# Shortest decimal text

A finite number is written with the fewest digits that read back as the same number, the nearest
such decimal, and an even last digit on a tie. Fixed numbers of decimal places round to the
nearest, ties to even.
-/

namespace Flowchart.Binary64

structure Decimal where
  digits : Nat
  exponent : Int
  deriving DecidableEq, Repr

def scaled (num den : Nat) (exponent : Int) : Nat × Nat :=
  (num * tenTo (-exponent), den * tenTo exponent)

/-- The least `k` with `num / den < 10 ^ k`, searched upwards from an estimate below it. -/
def decimalSize (num den : Nat) : Int :=
  let below : Int := ((num.log2 : Int) - den.log2 - 1) * 30103 / 100000 - 1
  let reaches (k : Int) : Bool := num * tenTo (-k) < den * tenTo k
  let step := (List.range 6).find? fun (i : Nat) => reaches (below + i)
  below + ((step.getD 0 : Nat) : Int)

/-- The decimal of `count` digits nearest to the number, if one of its two neighbours on that grid
reads back. -/
def nearestOf? (x : Binary64) (count : Nat) : Option Decimal :=
  let (num, den) := x.magnitude
  let exponent := decimalSize num den - count
  let (n, d) := scaled num den exponent
  let low := n / d
  let readsBack (m : Nat) : Bool := ofDecimal x.negative m exponent == x
  match readsBack low, readsBack (low + 1) with
  | true, true => some ⟨roundHalfEven n d, exponent⟩
  | true, false => some ⟨low, exponent⟩
  | false, true => some ⟨low + 1, exponent⟩
  | false, false => none

def shortest (x : Binary64) : Decimal :=
  ((List.range 17).findSome? fun i => nearestOf? x (i + 1)).getD ⟨0, 0⟩

structure Layout where
  nan : Text
  infinity : Text
  /-- Positional notation holds for `10 ^ low ≤ x < 10 ^ high`. -/
  low : Int
  high : Int
  deriving DecidableEq, Repr

/-- Numbers from `0.0001` up to below `10 ^ 16` are written out. -/
def plainLayout : Layout := ⟨"nan".toList, "inf".toList, -4, 16⟩

def dropTrailingZeros (digits : Text) : Text :=
  (digits.reverse.dropWhile (· == '0')).reverse

def exponentText (e : Int) : Text :=
  (if e < 0 then ['-'] else ['+']) ++ Text.padLeft 2 '0' (Text.ofNat e.natAbs)

def finiteText (layout : Layout) (x : Binary64) : Text :=
  let decimal := x.shortest
  let digits := Text.ofNat decimal.digits
  let point : Int := digits.length + decimal.exponent
  let kept := dropTrailingZeros digits
  if x.isZero then "0.0".toList
  else if layout.low < point && point ≤ layout.high then
    if point ≤ 0 then "0.".toList ++ List.replicate (-point).toNat '0' ++ kept
    else
      let whole := kept.take point.toNat
      let fraction := kept.drop point.toNat
      whole ++ List.replicate (point.toNat - whole.length) '0' ++ '.' ::
        (if fraction.isEmpty then ['0'] else fraction)
  else
    match kept with
    | [] => []
    | first :: others =>
      first :: (if others.isEmpty then [] else '.' :: others) ++ 'e' :: exponentText (point - 1)

def toText (layout : Layout) (x : Binary64) : Text :=
  if x.isNan then layout.nan
  else
    (if x.negative then ['-'] else []) ++
      (if x.isInfinite then layout.infinity else finiteText layout x)

def toFixed (places : Nat) (x : Binary64) : Text :=
  if x.isNan then "nan".toList
  else
    let (num, den) := x.magnitude
    let units := Text.padLeft (places + 1) '0' (Text.ofNat (roundHalfEven (num * tenTo places) den))
    let whole := units.take (units.length - places)
    (if x.negative then ['-'] else []) ++
      (if x.isInfinite then "inf".toList
      else if places == 0 then whole
      else whole ++ '.' :: units.drop (units.length - places))

end Flowchart.Binary64
