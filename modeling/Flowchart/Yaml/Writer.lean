import Flowchart.Json
import Flowchart.Yaml.Implicit

/-!
# Writing YAML

Mappings in block style. A text stands plain where it reads back as the same text, else between
single quotes, else between double quotes with escapes. Beyond column 1000 a space becomes a line
break.
-/

namespace Flowchart.Yaml

def width : Nat := 1000

def isWrittenBreak (c : Char) : Bool :=
  c == '\n' || c == '\x85' || c == '\u2028' || c == '\u2029'

def isSpecial (c : Char) : Bool :=
  let n := c.toNat
  !(c == '\n' || (0x20 ≤ n && n ≤ 0x7e) || n == 0x85 ||
    (0xa0 ≤ n && n ≤ 0xfffd && n != 0xfeff) || (0x10000 ≤ n && n < 0x10ffff))

def blankOrEnd (s : Text) : Bool := s.head?.all isGapOrBreak

/-- Marks that mean something at the very start of a plain text. -/
def hasLeadingMark (s : Text) : Bool :=
  match s with
  | [] => false
  | c :: rest =>
    Text.startsWith s "---".toList || Text.startsWith s "...".toList ||
      "#,[]\x7b\x7d&*!|>'\"%@`".toList.contains c ||
      ((c == '?' || c == ':' || c == '-') && blankOrEnd rest)

/-- A colon before a blank, or a number sign behind one, ends a plain text. -/
def hasInnerMark : Text → Bool
  | c :: d :: s =>
    (d == ':' && blankOrEnd s) || (d == '#' && isGapOrBreak c) || hasInnerMark (d :: s)
  | _ => false

def hasPair (p q : Char → Bool) : Text → Bool
  | c :: d :: s => (p c && q d) || hasPair p q (d :: s)
  | _ => false

inductive Style where
  | plain
  | single
  | double
  deriving DecidableEq, Repr

def isSpace (c : Char) : Bool := c == ' '

def edges (s : Text) : Text := s.head?.toList ++ s.getLast?.toList

def allowsPlain (s : Text) : Bool :=
  !s.isEmpty && !((edges s).any fun c => isSpace c) && !s.any isWrittenBreak &&
    !hasLeadingMark s && !hasInnerMark s && !s.any isSpecial

def allowsSingle (s : Text) : Bool :=
  !s.any isSpecial && !hasPair isWrittenBreak isSpace s && !hasPair isSpace isWrittenBreak s

def styleOf (key : Bool) (s : Text) : Style :=
  if Tag.ofPlain s == .str && allowsPlain s then .plain
  else if allowsSingle s && !(key && s.any isWrittenBreak) then .single
  else .double

inductive RunKind where
  | spaces
  | breaks
  | word
  deriving DecidableEq, Repr

def runKind (c : Char) : RunKind :=
  if isSpace c then .spaces else if isWrittenBreak c then .breaks else .word

def runs (s : Text) : List Text := s.splitBy fun a b => runKind a == runKind b

def breakAt (indent : Nat) : Text := '\n' :: Text.spaces indent

/-- A break is written twice, as one alone would read as a space. -/
def writtenBreaks (indent : Nat) (run : Text) : Text :=
  (if run.head? == some '\n' then ['\n'] else []) ++ run ++ Text.spaces indent

/-- Runs from a column on. Inside, a single space may become a line break. -/
def writeRuns (fold : Bool) (indent : Nat) : Nat → Bool → List Text → Text
  | _, _, [] => []
  | column, first, run :: others =>
    match run.head?.map runKind with
    | some .breaks =>
      writtenBreaks indent run ++ writeRuns fold indent indent false others
    | some .spaces =>
      if run.length == 1 && column > width && fold && !first && !others.isEmpty then
        breakAt indent ++ writeRuns fold indent indent false others
      else run ++ writeRuns fold indent (column + run.length) false others
    | _ =>
      let written := Text.replace '\'' "''".toList run
      written ++ writeRuns fold indent (column + written.length) false others

def writePlain (fold : Bool) (indent : Nat) : Nat → List Text → Text
  | _, [] => []
  | column, run :: others =>
    if run == [' '] && column > width && fold then
      breakAt indent ++ writePlain fold indent indent others
    else run ++ writePlain fold indent (column + run.length) others

def escapeLetter? : Char → Option Char
  | '\x00' => some '0'
  | '\x07' => some 'a'
  | '\x08' => some 'b'
  | '\t' => some 't'
  | '\n' => some 'n'
  | '\x0b' => some 'v'
  | '\x0c' => some 'f'
  | '\r' => some 'r'
  | '\x1b' => some 'e'
  | '"' => some '"'
  | '\\' => some '\\'
  | '\x85' => some 'N'
  | '\xa0' => some '_'
  | '\u2028' => some 'L'
  | '\u2029' => some 'P'
  | _ => none

def standsInDouble (c : Char) : Bool :=
  let n := c.toNat
  c != '"' && c != '\\' && ((0x20 ≤ n && n ≤ 0x7e) ||
    (0xa0 ≤ n && n ≤ 0xfffd && n != 0x2028 && n != 0x2029 && n != 0xfeff))

def upperHex (width n : Nat) : Text := (Text.hexadecimal width n).map Char.toUpper

def escapeDouble (c : Char) : Text :=
  match escapeLetter? c with
  | some letter => ['\\', letter]
  | none =>
    if c.toNat ≤ 0xff then "\\x".toList ++ upperHex 2 c.toNat
    else if c.toNat ≤ 0xffff then "\\u".toList ++ upperHex 4 c.toNat
    else "\\U".toList ++ upperHex 8 c.toNat

/-- The end of a line inside double quotes; a space that comes next has to be guarded. -/
def doubleBreak (indent : Nat) (next : Option Char) : Text :=
  '\\' :: breakAt indent ++ (if next == some ' ' then ['\\'] else [])

def columnAfterBreak (indent : Nat) (next : Option Char) : Nat :=
  if next == some ' ' then indent + 1 else indent

/-- `pending` was not written yet and starts at the column. Neither the first character nor the
last one is the place of a break. -/
def writeDouble (fold : Bool) (indent : Nat) : Bool → Nat → Text → Text → Text
  | _, _, pending, [] => pending
  | first, column, pending, c :: s =>
    let inner := fold && !first && !s.isEmpty
    if standsInDouble c then
      if inner && (c == ' ' || pending.isEmpty) && column + pending.length > width then
        pending ++ doubleBreak indent (some c) ++
          writeDouble fold indent false (columnAfterBreak indent (some c)) [c] s
      else writeDouble fold indent false column (pending ++ [c]) s
    else
      let written := pending ++ escapeDouble c
      let column := column + written.length
      if inner && column > width + 1 then
        written ++ doubleBreak indent s.head? ++
          writeDouble fold indent false (columnAfterBreak indent s.head?) [] s
      else written ++ writeDouble fold indent false column [] s

def writeText (key : Bool) (indent column : Nat) (s : Text) : Text :=
  match styleOf key s with
  | .plain => writePlain (!key) indent column (runs s)
  | .single => '\'' :: writeRuns (!key) indent (column + 1) true (runs s) ++ ['\'']
  | .double => '"' :: writeDouble (!key) indent true (column + 1) [] s ++ ['"']

/-- A number always has a point where it has an exponent. -/
def writeFloat (x : Binary64) : Text :=
  let text := x.toText ⟨".nan".toList, ".inf".toList, -4, 16⟩
  if text.contains '.' then text else Text.replace 'e' ".0e".toList text

def writeScalar (indent column : Nat) : Json → Text
  | .null => "null".toList
  | .bool b => if b then "true".toList else "false".toList
  | .int n => Text.ofInt n
  | .float x => writeFloat x
  | .str s => writeText false indent column s
  | .arr _ => "[]".toList
  | .obj _ => "\x7b\x7d".toList

def isShortKey (key : Text) : Bool :=
  !key.isEmpty && !key.any isWrittenBreak && key.length < 123

mutual

def writeValue (indent column : Nat) : Json → Text
  | .arr (item :: items) => breakAt indent ++ writeItems indent (item :: items)
  | .obj (field :: fields) => breakAt (indent + 2) ++ writeFields (indent + 2) (field :: fields)
  | value => ' ' :: writeScalar (indent + 2) column value

def writeItem (indent : Nat) : Json → Text
  | .arr (item :: items) => ' ' :: writeItems (indent + 2) (item :: items)
  | .obj (field :: fields) => ' ' :: writeFields (indent + 2) (field :: fields)
  | value => ' ' :: writeScalar (indent + 2) (indent + 2) value

def writeItems (indent : Nat) : List Json → Text
  | [] => []
  | item :: items =>
    '-' :: writeItem indent item ++
      (if items.isEmpty then [] else breakAt indent ++ writeItems indent items)

def writeFields (indent : Nat) : Fields → Text
  | [] => []
  | (key, value) :: fields =>
    let name := writeText true indent indent key
    let field :=
      if isShortKey key then name ++ ':' :: writeValue indent (indent + name.length + 2) value
      else
        '?' :: ' ' :: writeText false (indent + 2) (indent + 2) key ++ breakAt indent ++
          ':' :: writeItem indent value
    field ++ (if fields.isEmpty then [] else breakAt indent ++ writeFields indent fields)

end

def write (fields : Fields) : Text := writeFields 0 fields

end Flowchart.Yaml
