import Flowchart.Reference.Table
import Flowchart.Text.Integer

/-!
# Character references

`&name;`, `&#10;` and `&#x0a;` stand for characters. A name may run on into other text: the longest
beginning that is a name counts. A number in base ten may have too many digits to be read.
-/

namespace Flowchart.Reference

/-- What the codes from 128 to 159 mean; five of them stand for themselves. -/
def upperControls : Text :=
  "\u20ac\x81\u201a\u0192\u201e\u2026\u2020\u2021".toList ++
    "\u02c6\u2030\u0160\u2039\u0152\x8d\u017d\x8f".toList ++
    "\x90\u2018\u2019\u201c\u201d\u2022\u2013\u2014".toList ++
    "\u02dc\u2122\u0161\u203a\u0153\x9d\u017e\u0178".toList

def isNoncharacter (n : Nat) : Bool :=
  (0x1 ≤ n && n ≤ 0x8) || n == 0xb || (0xe ≤ n && n ≤ 0x1f) || n == 0x7f ||
    (0xfdd0 ≤ n && n ≤ 0xfdef) || 0xfffe ≤ n % 0x10000

def ofCode (n : Nat) : Text :=
  if n == 0 then ['\ufffd']
  else if 0x80 ≤ n && n ≤ 0x9f then [upperControls.getD (n - 0x80) '\ufffd']
  else if (0xd800 ≤ n && n ≤ 0xdfff) || n > 0x10ffff then ['\ufffd']
  else if isNoncharacter n then []
  else [Char.ofNat n]

def codeOf (isHex : Bool) (digits : Text) : Except Text.IntegerFault Nat :=
  if isHex then .ok (Text.natOfHex digits)
  else if Text.maxDigits < digits.length then .error (.tooManyDigits digits.length)
  else .ok (Text.natOfDigits digits)

def named? (name : Text) : Option Text := names.lookup name

/-- The longest beginning of at least two characters that is a name, and what is left. -/
def longestName? (s : Text) : Option (Text × Text) :=
  (List.range s.length).reverse.findSome? fun n =>
    if n < 2 then none else (named? (s.take n)).map fun found => (found, s.drop n)

def ofName (s : Text) : Text :=
  match named? s with
  | some found => found
  | none =>
    match longestName? s with
    | some (found, rest) => found ++ rest
    | none => '&' :: s

def isNameChar (c : Char) : Bool :=
  !(c == '\t' || c == '\n' || c == '\x0c' || c == ' ' || c == '<' || c == '&' || c == '#' ||
    c == ';')

def semicolon (s : Text) : Nat := if s.head? == some ';' then 1 else 0

def match? (s : Text) : Option (Nat × Except Text.IntegerFault Text) :=
  match s with
  | '&' :: '#' :: x :: rest =>
    let body := if x == 'x' || x == 'X' then rest else x :: rest
    let isHex := x == 'x' || x == 'X'
    let isDigit := fun c => if isHex then (Text.hexValue? c).isSome else Text.isAsciiDigit c
    match body.takeWhile isDigit with
    | [] => none
    | digits =>
      let length := s.length - body.length + digits.length + semicolon (body.drop digits.length)
      some (length, (codeOf isHex digits).map ofCode)
  | '&' :: rest =>
    match (rest.takeWhile isNameChar).take 32 with
    | [] => none
    | run =>
      let name := rest.take (run.length + semicolon (rest.drop run.length))
      some (name.length + 1, .ok (ofName name))
  | _ => none

def decode (s : Text) : Except Text.IntegerFault Text := Text.trySubstitute match? 0 s

end Flowchart.Reference
