import Flowchart.Binary64.Arithmetic
import Flowchart.Text.Integer
import Flowchart.Text.Lower
import Flowchart.Yaml.Cursor

/-!
# Numbers in YAML text

Whole numbers and fractions as scalars spell them. Underscores do not count, a colon parts digits in
base sixty, and a mark tells any other base.
-/

namespace Flowchart.Yaml

def dropUnderscores (s : Text) : Text := s.filter (· != '_')

def isNegative (s : Text) : Bool := s.head? == some '-'

def integer (base : Nat) (s : Text) : Except Fault Int :=
  (Text.readInteger base s).mapError .badInteger

def sexagesimal (parts : List Int) : Int := parts.foldl (fun n part => 60 * n + part) 0

def unsignedInteger (body : Text) : Except Fault Int :=
  match Text.after? "0b".toList body, Text.after? "0x".toList body with
  | some digits, _ => integer 2 digits
  | none, some digits => integer 16 digits
  | none, none =>
    if body == ['0'] then .ok 0
    else if body.head? == some '0' then integer 8 body
    else if body.contains ':' then ((Text.split ':' body).mapM (integer 10)).map sexagesimal
    else integer 10 body

def integerOf (text : Text) : Except Fault Int := do
  let s := dropUnderscores text
  let body := Text.dropSign s
  if body.isEmpty then .error .noDigits
  else do
    let magnitude ← unsignedInteger body
    return if isNegative s then -magnitude else magnitude

def exponentOf? (s : Text) : Option Int :=
  match s with
  | [] => some 0
  | e :: rest =>
    let digits := Text.dropSign rest
    if e == 'e' && !digits.isEmpty && digits.all Text.isAsciiDigit then
      let n : Int := Text.natOfDigits digits
      some (if isNegative rest then -n else n)
    else none

def splitDecimal (s : Text) : Text × Text × Text :=
  match s.span Text.isAsciiDigit with
  | (whole, '.' :: rest) => (whole, rest.span Text.isAsciiDigit)
  | (whole, rest) => (whole, [], rest)

def decimal? (s : Text) : Option Binary64 :=
  let body := Text.latinNumeral s
  let word := Text.dropSign body
  if word == "inf".toList || word == "infinity".toList then
    some (Binary64.infinity (isNegative body))
  else if word == "nan".toList then some Binary64.nan
  else
    let (whole, decimals, rest) := splitDecimal word
    if whole.isEmpty && decimals.isEmpty then none
    else
      (exponentOf? rest).map fun e =>
        Binary64.ofDecimal (isNegative body) (Text.natOfDigits (whole ++ decimals))
          (e - decimals.length)

def decimal (s : Text) : Except Fault Binary64 :=
  match decimal? s with
  | some x => .ok x
  | none => .error (.badFloat s)

/-- The last part counts once and every part before it sixty times as much as the next one. The
weight of the hundred and seventy-fifth part is too great for a number. -/
def sexagesimalFraction (parts : List Binary64) : Except Fault Binary64 :=
  if 174 < parts.length then .error .heavyPart
  else
    let weighted := parts.reverse.mapIdx fun i part =>
      part.product (Binary64.ofRatio false (Nat.pow 60 i) 1)
    .ok (weighted.foldl Binary64.plus Binary64.zero)

def unsignedFraction (body : Text) : Except Fault Binary64 :=
  if body == ".inf".toList then .ok (Binary64.infinity false)
  else if body.contains ':' then (Text.split ':' body).mapM decimal >>= sexagesimalFraction
  else decimal body

/-- The number that is none, spelled with a point. All its spellings have one value. -/
def isNoNumber (text : Text) : Bool :=
  Text.dropSign (Text.lower (dropUnderscores text)) == ".nan".toList

def fractionOf (text : Text) : Except Fault Binary64 := do
  let s := Text.lower (dropUnderscores text)
  if s.isEmpty then .error .noDigits
  else do
    let magnitude ← unsignedFraction (Text.dropSign s)
    return if isNegative s then magnitude.negate else magnitude

end Flowchart.Yaml
