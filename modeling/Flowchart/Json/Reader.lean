import Flowchart.Json
import Flowchart.Text.Integer

/-!
# Reading JSON

A reader over the rest of the text. A fault keeps the rest at which it arose, so that its position
is the length that had been read by then.
-/

namespace Flowchart.Json

inductive Cause where
  | expectingValue
  | expectingKey
  | expectingColon
  | expectingComma
  | unterminatedString
  | controlCharacter
  | badEscape
  | badUnicodeEscape
  | extraData
  | byteOrderMark
  | hugeInteger (digits : Nat)
  deriving DecidableEq, Repr

structure Fault where
  cause : Cause
  rest : Text
  deriving DecidableEq, Repr

namespace Cause

def message : Cause → Text
  | expectingValue => "Expecting value".toList
  | expectingKey => "Expecting property name enclosed in double quotes".toList
  | expectingColon => "Expecting ':' delimiter".toList
  | expectingComma => "Expecting ',' delimiter".toList
  | unterminatedString => "Unterminated string starting at".toList
  | controlCharacter => "Invalid control character at".toList
  | badEscape => "Invalid \\escape".toList
  | badUnicodeEscape => "Invalid \\uXXXX escape".toList
  | extraData => "Extra data".toList
  | byteOrderMark => "Unexpected UTF-8 BOM (decode using utf-8-sig)".toList
  | hugeInteger digits => (Text.IntegerFault.tooManyDigits digits).message

end Cause

namespace Fault

def message (fault : Fault) (source : Text) : Text :=
  match fault.cause with
  | .hugeInteger _ => fault.cause.message
  | _ =>
    let done := source.take (source.length - fault.rest.length)
    let column := (done.reverse.takeWhile (· != '\n')).length + 1
    fault.cause.message ++ ": line ".toList ++ Text.ofNat (Text.newlines done + 1) ++
      " column ".toList ++ Text.ofNat column ++
      " (char ".toList ++ Text.ofNat done.length ++ [')']

end Fault

def isSpace (c : Char) : Bool := c == ' ' || c == '\t' || c == '\n' || c == '\r'

def skipSpace (s : Text) : Text := s.dropWhile isSpace

def hex4? (a b c d : Char) : Option Nat := do
  let a ← Text.hexValue? a
  let b ← Text.hexValue? b
  let c ← Text.hexValue? c
  let d ← Text.hexValue? d
  return ((a * 16 + b) * 16 + c) * 16 + d

def simpleEscape? : Char → Option Char
  | '"' => some '"'
  | '\\' => some '\\'
  | '/' => some '/'
  | 'b' => some '\x08'
  | 'f' => some '\x0c'
  | 'n' => some '\n'
  | 'r' => some '\r'
  | 't' => some '\t'
  | _ => none

def isHighSurrogate (n : Nat) : Bool := 0xd800 ≤ n && n ≤ 0xdbff

def isLowSurrogate (n : Nat) : Bool := 0xdc00 ≤ n && n ≤ 0xdfff

def joinSurrogates (high low : Nat) : Nat := 0x10000 + (high - 0xd800) * 0x400 + (low - 0xdc00)

def charOfCode (n : Nat) : Char :=
  if isHighSurrogate n || isLowSurrogate n then '\ufffd' else Char.ofNat n

/-- The characters of a run of codes. A high surrogate and a low one behind it are one character. -/
def joinCodes : List Nat → Text
  | [] => []
  | [n] => [charOfCode n]
  | high :: low :: codes =>
    if isHighSurrogate high && isLowSurrogate low then
      Char.ofNat (joinSurrogates high low) :: joinCodes codes
    else charOfCode high :: joinCodes (low :: codes)

/-- The codes up to the closing quote. `start` begins with the opening one. -/
def readCodes (start : Text) : Text → Except Fault (List Nat × Text)
  | [] => .error ⟨.unterminatedString, start⟩
  | '"' :: rest => .ok ([], rest)
  | '\\' :: 'u' :: a :: b :: c :: d :: e :: rest =>
    match hex4? a b c d with
    | none => .error ⟨.badUnicodeEscape, 'u' :: a :: b :: c :: d :: e :: rest⟩
    | some code => (readCodes start (e :: rest)).map fun r => (code :: r.1, r.2)
  | '\\' :: 'u' :: rest => .error ⟨.badUnicodeEscape, 'u' :: rest⟩
  | '\\' :: c :: rest =>
    match simpleEscape? c with
    | none => .error ⟨.badEscape, '\\' :: c :: rest⟩
    | some meant => (readCodes start rest).map fun r => (meant.toNat :: r.1, r.2)
  | c :: rest =>
    if c == '\\' then .error ⟨.unterminatedString, start⟩
    else if c.toNat < 0x20 then .error ⟨.controlCharacter, c :: rest⟩
    else (readCodes start rest).map fun r => (c.toNat :: r.1, r.2)

def readString (start rest : Text) : Except Fault (Text × Text) :=
  (readCodes start rest).map fun r => (joinCodes r.1, r.2)

def fraction (s : Text) : Text × Text :=
  match s with
  | '.' :: rest =>
    match rest.takeWhile Text.isAsciiDigit with
    | [] => ([], s)
    | digits => (digits, rest.dropWhile Text.isAsciiDigit)
  | _ => ([], s)

def exponent? (s : Text) : Option (Int × Text) :=
  match s with
  | [] => none
  | e :: rest =>
    let (negative, body) :=
      match rest with
      | '-' :: r => (true, r)
      | '+' :: r => (false, r)
      | r => (false, r)
    match body.takeWhile Text.isAsciiDigit with
    | [] => none
    | digits =>
      if e == 'e' || e == 'E' then
        let n : Int := Text.natOfDigits digits
        some (if negative then -n else n, body.dropWhile Text.isAsciiDigit)
      else none

def wholePart? (s : Text) : Option (Text × Text) :=
  match s with
  | '0' :: rest => some (['0'], rest)
  | c :: _ =>
    if Text.isAsciiDigit c then
      some (s.takeWhile Text.isAsciiDigit, s.dropWhile Text.isAsciiDigit)
    else none
  | [] => none

def signed (negative : Bool) (n : Nat) : Int := if negative then -(n : Int) else n

def readNumber (start : Text) : Except Fault (Json × Text) :=
  let (negative, body) :=
    match start with
    | '-' :: rest => (true, rest)
    | rest => (false, rest)
  match wholePart? body with
  | none => .error ⟨.expectingValue, start⟩
  | some (whole, rest) =>
    let (decimals, rest) := fraction rest
    match exponent? rest with
    | some (e, rest) =>
      let digits := Text.natOfDigits (whole ++ decimals)
      .ok (.float (Binary64.ofDecimal negative digits (e - decimals.length)), rest)
    | none =>
      if decimals.isEmpty then
        if whole.length > Text.maxDigits then .error ⟨.hugeInteger whole.length, start⟩
        else .ok (.int (signed negative (Text.natOfDigits whole)), rest)
      else
        let digits := Text.natOfDigits (whole ++ decimals)
        .ok (.float (Binary64.ofDecimal negative digits (-(decimals.length : Int))), rest)

def wordValues : List (Text × Json) :=
  [("null".toList, .null), ("true".toList, .bool true), ("false".toList, .bool false),
    ("NaN".toList, .float Binary64.nan), ("Infinity".toList, .float (Binary64.infinity false)),
    ("-Infinity".toList, .float (Binary64.infinity true))]

def readWord? (s : Text) : Option (Json × Text) :=
  wordValues.findSome? fun w => (Text.after? w.1 s).map fun rest => (w.2, rest)

def readScalar (s : Text) : Except Fault (Json × Text) :=
  match readWord? s with
  | some found => .ok found
  | none => readNumber s

mutual

/-- One value at the very start of the text. Of two nested calls one has read a character more, so
twice the length of the text is fuel enough. -/
def readValue : Nat → Text → Except Fault (Json × Text)
  | 0, s => .error ⟨.expectingValue, s⟩
  | fuel + 1, s =>
    match s with
    | '"' :: rest => do
      let (text, after) ← readString s rest
      return (.str text, after)
    | '{' :: rest =>
      match skipSpace rest with
      | '}' :: after => .ok (.obj [], after)
      | body => do
        let (fields, after) ← readFields fuel body []
        return (.obj fields, after)
    | '[' :: rest =>
      match skipSpace rest with
      | ']' :: after => .ok (.arr [], after)
      | body => do
        let (items, after) ← readItems fuel body
        return (.arr items, after)
    | _ => readScalar s

def readItems : Nat → Text → Except Fault (List Json × Text)
  | 0, s => .error ⟨.expectingValue, s⟩
  | fuel + 1, s => do
    let (item, rest) ← readValue fuel s
    match skipSpace rest with
    | ']' :: after => return ([item], after)
    | ',' :: more => do
      let (items, after) ← readItems fuel (skipSpace more)
      return (item :: items, after)
    | other => .error ⟨.expectingComma, other⟩

/-- Fields behind those that are known already; a key that comes again takes its last value. -/
def readFields : Nat → Text → Fields → Except Fault (Fields × Text)
  | 0, s, _ => .error ⟨.expectingKey, s⟩
  | fuel + 1, s, known =>
    match s with
    | '"' :: rest => do
      let (key, rest) ← readString s rest
      match skipSpace rest with
      | ':' :: rest => do
        let (value, rest) ← readValue fuel (skipSpace rest)
        let fields := known.put key value
        match skipSpace rest with
        | '}' :: after => return (fields, after)
        | ',' :: more => readFields fuel (skipSpace more) fields
        | other => .error ⟨.expectingComma, other⟩
      | other => .error ⟨.expectingColon, other⟩
    | _ => .error ⟨.expectingKey, s⟩

end

def read (s : Text) : Except Fault Json :=
  if s.head? == some '\ufeff' then .error ⟨.byteOrderMark, s⟩
  else do
    let (value, rest) ← readValue (2 * s.length + 2) (skipSpace s)
    match skipSpace rest with
    | [] => .ok value
    | extra => .error ⟨.extraData, extra⟩

end Flowchart.Json
