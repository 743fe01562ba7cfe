import Flowchart.Text.Integer

/-!
# Places in a YAML text

A cursor is the rest of a text with the line and column that it starts at. Line feeds, carriage
returns and three other characters break lines.
-/

namespace Flowchart.Yaml

/-- Why a text yields no value. All texts that break a rule of the notation are malformed; what is
left are scalars that mean nothing, and values that cannot be shown. -/
inductive Fault where
  | malformed
  | badInteger (fault : Text.IntegerFault)
  | badFloat (digits : Text)
  | badTruth (word : Text)
  | noDigits
  | badCode (code : Nat)
  | badDate (complaint : Text)
  | noDate
  | mappedDate
  /-- A number has so many parts that the weight of the first one is no number any more. -/
  | heavyPart
  /-- A text is a part of itself. -/
  | endless
  | longNumber
  deriving DecidableEq, Repr

structure Cursor where
  rest : Text
  line : Nat := 0
  column : Nat := 0
  index : Nat := 0
  deriving DecidableEq, Repr

def isBreak (c : Char) : Bool :=
  c == '\n' || c == '\r' || c == '\x85' || c == '\u2028' || c == '\u2029'

def isGapOrBreak (c : Char) : Bool := Text.isGap c || isBreak c

def isAllowed (c : Char) : Bool :=
  let n := c.toNat
  n == 0x9 || n == 0xa || n == 0xd || (0x20 ≤ n && n ≤ 0x7e) || n == 0x85 ||
    (0xa0 ≤ n && n ≤ 0xfffd) || 0x10000 ≤ n

namespace Cursor

def peek? (c : Cursor) (k : Nat) : Option Char := c.rest[k]?

def head? (c : Cursor) : Option Char := c.rest.head?

def atEnd (c : Cursor) : Bool := c.rest.isEmpty

def endsOr (c : Cursor) (k : Nat) (p : Char → Bool) : Bool := (c.peek? k).all p

/-- The cursor behind one character. The byte order mark takes no column. -/
def next (c : Cursor) : Cursor :=
  match c.rest with
  | [] => c
  | ch :: rest =>
    if isBreak ch && !(ch == '\r' && rest.head? == some '\n') then
      ⟨rest, c.line + 1, 0, c.index + 1⟩
    else ⟨rest, c.line, if ch == '\ufeff' then c.column else c.column + 1, c.index + 1⟩

def skip (c : Cursor) : Nat → Cursor
  | 0 => c
  | n + 1 => c.next.skip n

def run (c : Cursor) (p : Char → Bool) : Text × Cursor :=
  let found := c.rest.takeWhile p
  (found, c.skip found.length)

def skipWhile (c : Cursor) (p : Char → Bool) : Cursor := (c.run p).2

def skipSpaces (c : Cursor) : Cursor := c.skipWhile (· == ' ')

def endsWord (c : Cursor) : Bool := c.endsOr 0 fun ch => ch == ' ' || isBreak ch

/-- A line break read as text: most read as a line feed. -/
def lineBreak? (c : Cursor) : Option (Char × Cursor) :=
  match c.rest with
  | '\r' :: '\n' :: _ => some ('\n', c.skip 2)
  | ch :: _ =>
    if ch == '\u2028' || ch == '\u2029' then some (ch, c.next)
    else if isBreak ch then some ('\n', c.next)
    else none
  | [] => none

def atMarker (c : Cursor) (marker : Text) : Bool :=
  Text.startsWith c.rest marker && c.endsOr 3 isGapOrBreak

def atDocumentMarker (c : Cursor) : Bool := c.atMarker "---".toList || c.atMarker "...".toList

end Cursor

end Flowchart.Yaml
