import Flowchart.Text.Quoted

/-!
# Bytes in YAML text

Bytes are written with 64 signs of six bits each, four signs for three bytes. Other characters do
not count, and padding ends the text.
-/

namespace Flowchart.Yaml

def sixBits? (c : Char) : Option Nat :=
  if c.isUpper then some (c.toNat - 'A'.toNat)
  else if c.isLower then some (c.toNat - 'a'.toNat + 26)
  else if c.isDigit then some (c.toNat - '0'.toNat + 52)
  else if c == '+' then some 62
  else if c == '/' then some 63
  else none

/-- The values of the signs up to the end or to the padding that closes a group. `place` counts the
signs of the present group, and `pads` the padding behind the last of them. A group that was begun
must be closed. -/
def signValues (place pads : Nat) : Text → Option (List Nat)
  | [] => if place = 0 then some [] else none
  | c :: s =>
    if c == '=' then
      if place < 2 then signValues place pads s
      else if 4 ≤ place + pads + 1 then some []
      else signValues place (pads + 1) s
    else
      match sixBits? c with
      | some value => (signValues ((place + 1) % 4) 0 s).map (value :: ·)
      | none => signValues place pads s

/-- A group that padding closed holds one byte less for each sign that it lacks. -/
def joinSigns : List Nat → List UInt8
  | a :: b :: c :: d :: signs =>
    .ofNat (4 * a + b / 16) :: .ofNat (16 * b + c / 4) :: .ofNat (64 * c + d) :: joinSigns signs
  | [a, b, c] => [.ofNat (4 * a + b / 16), .ofNat (16 * b + c / 4)]
  | [a, b] => [.ofNat (4 * a + b / 16)]
  | _ => []

def bytesOf? (s : Text) : Option (List UInt8) :=
  if s.all (·.toNat < 128) then (signValues 0 0 s).map joinSigns else none

def escapeByte (quote : Char) (byte : UInt8) : Text :=
  let c := Char.ofNat byte.toNat
  if byte < 128 then Text.escapeInQuotes quote c
  else "\\x".toList ++ Text.hexadecimal 2 byte.toNat

def bytesText (bytes : List UInt8) : Text :=
  let quote := Text.quoteFor (bytes.map fun byte => Char.ofNat byte.toNat)
  'b' :: quote :: bytes.flatMap (escapeByte quote) ++ [quote]

end Flowchart.Yaml
