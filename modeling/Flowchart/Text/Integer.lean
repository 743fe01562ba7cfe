import Flowchart.Text
import Flowchart.Text.Digit
import Flowchart.Text.Quoted

/-!
# Reading whole numbers

A whole number stands between blanks, with a sign and a mark of its base if one likes, in digits of
any script. In base ten it has 4300 digits at most.
-/

namespace Flowchart.Text

inductive IntegerFault where
  | notInteger (base : Nat) (text : Text)
  | tooManyDigits (count : Nat)
  deriving DecidableEq, Repr

/-- The most digits that a number in base ten is read or written with. -/
def maxDigits : Nat := 4300

def IntegerFault.message : IntegerFault → Text
  | notInteger base text =>
    "invalid literal for int() with base ".toList ++ ofNat base ++ ": ".toList ++
      text.quoted.take 200
  | tooManyDigits count =>
    "Exceeds the limit (4300 digits) for integer string conversion: value has ".toList ++
      ofNat count ++ " digits; use sys.set_int_max_str_digits() to increase the limit".toList

/-- Digits of any script as Latin ones, blanks beyond the Latin ones as spaces, and a question mark
for any other sign beyond them. -/
def latinize (c : Char) : Char :=
  if c.toNat < 127 then c
  else if isBlank c then ' '
  else
    match decimalValue? c with
    | some value => Char.ofNat ('0'.toNat + value)
    | none => '?'

def isNumeralBlank (c : Char) : Bool := c == ' ' || (0x09 ≤ c.toNat && c.toNat ≤ 0x0d)

def latinNumeral (s : Text) : Text :=
  let body := (s.map latinize).dropWhile isNumeralBlank
  (body.reverse.dropWhile isNumeralBlank).reverse

def isDigitOf (base : Nat) (c : Char) : Bool := (hexValue? c).any (· < base)

def baseLetter? : Nat → Option Char
  | 2 => some 'b'
  | 8 => some 'o'
  | 16 => some 'x'
  | _ => none

def afterBaseMark (base : Nat) (s : Text) : Text :=
  match s with
  | '0' :: c :: rest => if some c.toLower == baseLetter? base then rest else s
  | _ => s

def readDigits (base : Nat) (digits : Text) : Nat :=
  digits.foldl (fun n c => base * n + (hexValue? c).getD 0) 0

/-- Too many digits are refused before anything else is looked at. -/
def readInteger (base : Nat) (s : Text) : Except IntegerFault Int :=
  let body := latinNumeral s
  let digits := afterBaseMark base (dropSign body)
  let count := (digits.takeWhile (isDigitOf base)).length
  if base = 10 ∧ maxDigits < count then .error (.tooManyDigits count)
  else if digits.isEmpty || count < digits.length then .error (.notInteger base s)
  else
    let n : Int := readDigits base digits
    .ok (if body.head? = some '-' then -n else n)

end Flowchart.Text
