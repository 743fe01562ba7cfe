import Flowchart.Text

/-!
# Numerals

Whole numbers written in base ten and in base sixteen, and read back from their digits.
-/

namespace Flowchart.Text

def ofNat (n : Nat) : Text := Nat.toDigits 10 n

def ofInt (n : Int) : Text :=
  match n with
  | .ofNat m => ofNat m
  | .negSucc m => '-' :: ofNat (m + 1)

def hexadecimal (width n : Nat) : Text :=
  let digits := Nat.toDigits 16 n
  List.replicate (width - digits.length) '0' ++ digits

def padLeft (width : Nat) (filler : Char) (s : Text) : Text :=
  List.replicate (width - s.length) filler ++ s

def padRight (width : Nat) (s : Text) : Text := s ++ spaces (width - s.length)

def dropSign (s : Text) : Text :=
  match s with
  | c :: rest => if c == '-' || c == '+' then rest else s
  | [] => []

def hexValue? (c : Char) : Option Nat :=
  let n := c.toNat
  if 0x30 ≤ n && n ≤ 0x39 then some (n - 0x30)
  else if 0x41 ≤ n && n ≤ 0x46 then some (n - 0x37)
  else if 0x61 ≤ n && n ≤ 0x66 then some (n - 0x57)
  else none

def isAsciiDigit (c : Char) : Bool := 0x30 ≤ c.toNat && c.toNat ≤ 0x39

def natOfDigits (s : Text) : Nat := Nat.ofDigitChars 10 s 0

def natOfHex (s : Text) : Nat := s.foldl (fun n c => 16 * n + (hexValue? c).getD 0) 0

theorem natOfDigits_ofNat (n : Nat) : natOfDigits (ofNat n) = n :=
  Nat.ofDigitChars_toDigits (by decide) (by decide)

theorem ofNat_injective {m n : Nat} (h : ofNat m = ofNat n) : m = n := by
  rw [← natOfDigits_ofNat m, ← natOfDigits_ofNat n, h]

end Flowchart.Text
