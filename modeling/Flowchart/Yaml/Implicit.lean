import Flowchart.Yaml.Cursor

/-!
# Types of plain scalars

A plain scalar may read as a truth value, a number, a date or nothing at all. The spelling alone
decides, and anything else is text.
-/

namespace Flowchart.Yaml

inductive Tag where
  | null
  | bool
  | int
  | float
  | timestamp
  | merge
  | value
  | str
  | seq
  | map
  | set
  | pairs
  | binary
  | unknown
  deriving DecidableEq, Repr

def isDigitOrGap (c : Char) : Bool := Text.isAsciiDigit c || c == '_'

def startsWithDigit (s : Text) : Bool := s.head?.any Text.isAsciiDigit

def isCount (s : Text) : Bool :=
  startsWithDigit s && s.head? != some '0' && s.all isDigitOrGap

def isSixtieth (s : Text) : Bool :=
  match s with
  | [a] => Text.isAsciiDigit a
  | [a, b] => '0' ≤ a && a ≤ '5' && Text.isAsciiDigit b
  | _ => false

/-- Parts between colons: a first one that satisfies `p`, and at least one more below sixty. -/
def isSexagesimal (p : Text → Bool) (s : Text) : Bool :=
  match s.split ':' with
  | first :: part :: parts => p first && (part :: parts).all isSixtieth
  | _ => false

def isInteger (s : Text) : Bool :=
  let body := Text.dropSign s
  let oneOrMore := fun (p : Char → Bool) (rest : Option Text) =>
    rest.any fun r => !r.isEmpty && r.all p
  oneOrMore (fun c => c == '0' || c == '1' || c == '_') (Text.after? "0b".toList body) ||
    oneOrMore (fun c => ('0' ≤ c && c ≤ '7') || c == '_') (Text.after? "0".toList body) ||
    body == ['0'] || isCount body ||
    oneOrMore (fun c => (Text.hexValue? c).isSome || c == '_') (Text.after? "0x".toList body) ||
    isSexagesimal isCount body

def isFraction (s : Text) : Bool :=
  match s.dropWhile isDigitOrGap with
  | [] => true
  | e :: sign :: digits =>
    (e == 'e' || e == 'E') && (sign == '-' || sign == '+') && !digits.isEmpty &&
      digits.all Text.isAsciiDigit
  | _ => false

def infinityWords : List Text := [".inf".toList, ".Inf".toList, ".INF".toList]

def nanWords : List Text := [".nan".toList, ".NaN".toList, ".NAN".toList]

def isFloat (s : Text) : Bool :=
  let body := Text.dropSign s
  let whole := body.takeWhile (· != '.')
  let pointed :=
    match body.dropWhile (· != '.') with
    | '.' :: rest =>
      (startsWithDigit whole && whole.all isDigitOrGap && isFraction rest) ||
        (s.head? == some '.' && startsWithDigit rest && isFraction rest) ||
        (isSexagesimal (fun p => startsWithDigit p && p.all isDigitOrGap) whole &&
          rest.all isDigitOrGap)
    | _ => false
  pointed || infinityWords.contains body || nanWords.contains s

structure Stamp where
  year : Text
  month : Text
  day : Text
  /-- Hour, minute, second and the digits of the fraction. -/
  time : Option (Text × Text × Text × Text) := none
  /-- Sign, hours and minutes of the offset; no sign means universal time. -/
  zone : Option (Option Char × Text × Text) := none
  deriving DecidableEq, Repr

def digits? (least most : Nat) (s : Text) : Option (Text × Text) :=
  let found := (s.takeWhile Text.isAsciiDigit).take most
  if least ≤ found.length then some (found, s.drop found.length) else none

def mark? (c : Char) (s : Text) : Option Text := Text.after? [c] s

def zone? (s : Text) : Option (Option (Option Char × Text × Text)) :=
  let body := s.dropWhile Text.isGap
  match body with
  | [] => if s.isEmpty then some none else none
  | ['Z'] => some (some (none, [], []))
  | sign :: rest =>
    if sign == '-' || sign == '+' then do
      let (hours, rest) ← digits? 1 2 rest
      match rest with
      | [] => some (some (some sign, hours, []))
      | ':' :: rest => do
        let (minutes, rest) ← digits? 2 2 rest
        if rest.isEmpty then some (some (some sign, hours, minutes)) else none
      | _ => none
    else none

def time? (s : Text) : Option ((Text × Text × Text × Text) × Text) := do
  let (hour, s) ← digits? 1 2 s
  let s ← mark? ':' s
  let (minute, s) ← digits? 2 2 s
  let s ← mark? ':' s
  let (second, s) ← digits? 2 2 s
  match s with
  | '.' :: rest =>
    return ((hour, minute, second, rest.takeWhile Text.isAsciiDigit),
      rest.dropWhile Text.isAsciiDigit)
  | _ => return ((hour, minute, second, []), s)

/-- A date of any widths; a time follows a `T` or blanks. -/
def stamp? (s : Text) : Option Stamp := do
  let (year, s) ← digits? 4 4 s
  let s ← mark? '-' s
  let (month, s) ← digits? 1 2 s
  let s ← mark? '-' s
  let (day, s) ← digits? 1 2 s
  match s with
  | [] => return { year, month, day }
  | c :: rest =>
    let body ←
      if c == 'T' || c == 't' then some rest
      else if Text.isGap c then some (rest.dropWhile Text.isGap)
      else none
    let (time, s) ← time? body
    let zone ← zone? s
    return { year, month, day, time := some time, zone }

/-- A date alone needs two digits for month and day. -/
def isTimestamp (s : Text) : Bool :=
  match stamp? s with
  | none => false
  | some stamp => stamp.time.isSome || (stamp.month.length == 2 && stamp.day.length == 2)

/-- Marks that may stand for a tag, an anchor or an alias, but for no value. -/
def loneMarks : List Text := ["!".toList, "&".toList, "*".toList]

def truthWords : List Text :=
  ["yes", "Yes", "YES", "true", "True", "TRUE", "on", "On", "ON"].map String.toList

def falsehoodWords : List Text :=
  ["no", "No", "NO", "false", "False", "FALSE", "off", "Off", "OFF"].map String.toList

def nullWords : List Text := ["", "~", "null", "Null", "NULL"].map String.toList

def Tag.ofSpelling (s : Text) : Tag :=
  if truthWords.contains s || falsehoodWords.contains s then .bool
  else if isFloat s then .float
  else if isInteger s then .int
  else if s == "<<".toList then .merge
  else if nullWords.contains s then .null
  else if isTimestamp s then .timestamp
  else if s == "=".toList then .value
  else if loneMarks.contains s then .unknown
  else .str

/-- A line feed behind the spelling does not count, but one alone is text. -/
def Tag.ofPlain (s : Text) : Tag :=
  if s == ['\n'] then .str else .ofSpelling (Text.withoutLastBreak s)

end Flowchart.Yaml
