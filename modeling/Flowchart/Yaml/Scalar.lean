import Flowchart.Text.Numeral
import Flowchart.Yaml.Cursor

/-!
# Scalars in YAML text

A scalar stands plain, between quotes, or as a block of lines. Line breaks inside fold to spaces
unless the style keeps them.
-/

namespace Flowchart.Yaml

def folded (first : Char) (others : Text) : Text :=
  if first != '\n' then first :: others
  else if others.isEmpty then [' '] else others

/-- Breaks and spaces behind the first break of a plain scalar; none if a document marker comes. -/
def plainBreaks : Nat → Cursor → Option (Text × Cursor)
  | 0, c => some ([], c)
  | fuel + 1, c =>
    if c.head? == some ' ' then plainBreaks fuel c.next
    else
      match c.lineBreak? with
      | none => some ([], c)
      | some (ch, after) =>
        if after.atDocumentMarker then none
        else (plainBreaks fuel after).map fun r => (ch :: r.1, r.2)

structure PlainGap where
  text : Text
  cursor : Cursor
  broke : Bool

def plainGap (c : Cursor) : PlainGap :=
  let (spaces, c) := c.run (· == ' ')
  match c.lineBreak? with
  | none => ⟨spaces, c, false⟩
  | some (first, after) =>
    if after.atDocumentMarker then ⟨[], after, true⟩
    else
      match plainBreaks after.rest.length after with
      | some (others, after) => ⟨folded first others, after, true⟩
      | none => ⟨[], after, true⟩

def plainRun (inFlow : Bool) : Text → Text
  | [] => []
  | c :: s =>
    let flowMark := fun d => d == ',' || d == '[' || d == ']' || d == '{' || d == '}'
    let ends := isGapOrBreak c ||
      (c == ':' && s.head?.all fun d => isGapOrBreak d || (inFlow && flowMark d)) ||
      (inFlow && (flowMark c || c == '?'))
    if ends then [] else c :: plainRun inFlow s

structure PlainScalar where
  text : Text
  cursor : Cursor
  broke : Bool

/-- `gap` was read behind what precedes. -/
def plainScalar (inFlow : Bool) (indent : Int) : Nat → Text → Cursor → PlainScalar
  | 0, _, c => ⟨[], c, false⟩
  | fuel + 1, gap, c =>
    let word := if c.head? == some '#' then [] else plainRun inFlow c.rest
    if word.isEmpty then ⟨[], c, false⟩
    else
      let behind := plainGap (c.skip word.length)
      let ends := behind.text.isEmpty || behind.cursor.head? == some '#' ||
        (!inFlow && (behind.cursor.column : Int) < indent)
      if ends then ⟨gap ++ word, behind.cursor, behind.broke⟩
      else
        let more := plainScalar inFlow indent fuel behind.text behind.cursor
        ⟨gap ++ word ++ more.text, more.cursor,
          more.broke || (behind.broke && more.text.isEmpty)⟩

def escapeMeaning? : Char → Option Char
  | '0' => some '\x00'
  | 'a' => some '\x07'
  | 'b' => some '\x08'
  | 't' => some '\t'
  | '\t' => some '\t'
  | 'n' => some '\n'
  | 'v' => some '\x0b'
  | 'f' => some '\x0c'
  | 'r' => some '\r'
  | 'e' => some '\x1b'
  | ' ' => some ' '
  | '"' => some '"'
  | '\\' => some '\\'
  | '/' => some '/'
  | 'N' => some '\x85'
  | '_' => some '\xa0'
  | 'L' => some '\u2028'
  | 'P' => some '\u2029'
  | _ => none

def codeWidth? : Char → Option Nat
  | 'x' => some 2
  | 'u' => some 4
  | 'U' => some 8
  | _ => none

def charOfCode (code : Nat) : Except Fault Char :=
  if code ≥ 0x110000 then .error (.badCode code)
  else if 0xd800 ≤ code && code ≤ 0xdfff then .ok '\ufffd'
  else .ok (.ofNat code)

def quotedBreaks : Nat → Cursor → Except Fault (Text × Cursor)
  | 0, c => .ok ([], c)
  | fuel + 1, c =>
    if c.atDocumentMarker then .error .malformed
    else
      let c := c.skipWhile Text.isGap
      match c.lineBreak? with
      | none => .ok ([], c)
      | some (ch, after) => (quotedBreaks fuel after).map fun r => (ch :: r.1, r.2)

def quotedGap (c : Cursor) : Except Fault (Text × Cursor) :=
  let (blanks, c) := c.run Text.isGap
  if c.atEnd then .error .malformed
  else
    match c.lineBreak? with
    | none => .ok (blanks, c)
    | some (first, after) =>
      (quotedBreaks after.rest.length after).map fun r => (folded first r.1, r.2)

def escapeSequence (c : Cursor) : Except Fault (Text × Cursor) :=
  match c.head? with
  | none => .error .malformed
  | some ch =>
    match escapeMeaning? ch, codeWidth? ch with
    | some meant, _ => .ok ([meant], c.next)
    | none, some width =>
      let digits := c.next.rest.take width
      if digits.length == width && digits.all fun d => (Text.hexValue? d).isSome then
        (charOfCode (Text.natOfHex digits)).map fun meant => ([meant], c.skip (width + 1))
      else .error .malformed
    | none, none =>
      match c.lineBreak? with
      | some (_, after) => quotedBreaks after.rest.length after
      | none => .error .malformed

def quotedScalar (quote : Char) : Nat → Cursor → Except Fault (Text × Cursor)
  | 0, _ => .error .malformed
  | fuel + 1, c =>
    match c.rest with
    | [] => .error .malformed
    | ch :: rest =>
      if ch == quote then
        if quote == '\'' && rest.head? == some '\'' then
          (quotedScalar quote fuel (c.skip 2)).map fun r => ('\'' :: r.1, r.2)
        else .ok ([], c.next)
      else if ch == '\\' && quote == '"' then do
        let (meant, after) ← escapeSequence c.next
        let (tail, last) ← quotedScalar quote fuel after
        return (meant ++ tail, last)
      else if isGapOrBreak ch then do
        let (gap, after) ← quotedGap c
        let (tail, last) ← quotedScalar quote fuel after
        return (gap ++ tail, last)
      else (quotedScalar quote fuel c.next).map fun r => (ch :: r.1, r.2)

inductive Chomping where
  | clip
  | strip
  | keep
  deriving DecidableEq, Repr

structure BlockHeader where
  chomping : Chomping
  increment : Option Nat
  deriving DecidableEq, Repr

def chomping? : Option Char → Option Chomping
  | some '+' => some .keep
  | some '-' => some .strip
  | _ => none

def increment? (c : Option Char) : Option Nat :=
  c.bind fun d => if Text.isAsciiDigit d then some (d.toNat - '0'.toNat) else none

def blockHeader (c : Cursor) : Except Fault (BlockHeader × Cursor) :=
  let (header, c) :=
    match chomping? c.head? with
    | some chomping =>
      match increment? c.next.head? with
      | some n => ((⟨chomping, some n⟩ : BlockHeader), c.skip 2)
      | none => (⟨chomping, none⟩, c.next)
    | none =>
      match increment? c.head? with
      | some n =>
        match chomping? c.next.head? with
        | some chomping => (⟨chomping, some n⟩, c.skip 2)
        | none => (⟨.clip, some n⟩, c.next)
      | none => (⟨.clip, none⟩, c)
  if header.increment == some 0 then .error .malformed
  else if !c.endsWord then .error .malformed
  else
    let c := c.skipWhile (· == ' ')
    let c := if c.head? == some '#' then c.skipWhile (!isBreak ·) else c
    if c.atEnd then .ok (header, c)
    else
      match c.lineBreak? with
      | some (_, after) => .ok (header, after)
      | none => .error .malformed

/-- Leading empty lines of a block, and the widest indentation among them and the first text. -/
def blockIndentation : Nat → Nat → Cursor → (Text × Nat) × Cursor
  | 0, widest, c => (([], widest), c)
  | fuel + 1, widest, c =>
    if c.head? == some ' ' then
      let c := c.next
      blockIndentation fuel (max widest c.column) c
    else
      match c.lineBreak? with
      | none => (([], widest), c)
      | some (ch, after) =>
        let r := blockIndentation fuel widest after
        ((ch :: r.1.1, r.1.2), r.2)

def skipIndent (indent : Nat) : Nat → Cursor → Cursor
  | 0, c => c
  | fuel + 1, c =>
    if c.column < indent && c.head? == some ' ' then skipIndent indent fuel c.next else c

def blockBreaks (indent : Nat) : Nat → Cursor → Text × Cursor
  | 0, c => ([], c)
  | fuel + 1, c =>
    let c := skipIndent indent indent c
    match c.lineBreak? with
    | none => ([], c)
    | some (ch, after) =>
      let r := blockBreaks indent fuel after
      (ch :: r.1, r.2)

def tail (chomping : Chomping) (last : Text) (breaks : Text) : Text :=
  match chomping with
  | .strip => []
  | .clip => last
  | .keep => last ++ breaks

/-- The lines of a block; `breaks` were read before the line that begins here. -/
def blockLines (fold : Bool) (chomping : Chomping) (indent : Nat) :
    Nat → Text → Cursor → Text × Cursor
  | 0, _, c => ([], c)
  | fuel + 1, breaks, c =>
    let leading := !(c.head?.any Text.isGap)
    let (line, c) := c.run (!isBreak ·)
    let (last, c) :=
      match c.lineBreak? with
      | some (ch, after) => ([ch], after)
      | none => ([], c)
    let (more, c) := blockBreaks indent c.rest.length c
    if c.column == indent && !c.atEnd then
      let joint :=
        if fold && last == ['\n'] && leading && !(c.head?.any Text.isGap) then
          if more.isEmpty then [' '] else []
        else last
      let r := blockLines fold chomping indent fuel more c
      (breaks ++ line ++ joint ++ r.1, r.2)
    else (breaks ++ line ++ tail chomping last more, c)

def blockScalar (fold : Bool) (outer : Int) (c : Cursor) : Except Fault (Text × Cursor) := do
  let (header, c) ← blockHeader c
  let least := (max (outer + 1) 1).toNat
  let ((breaks, indent), c) :=
    match header.increment with
    | none =>
      let ((breaks, widest), c) := blockIndentation c.rest.length 0 c
      ((breaks, max least widest), c)
    | some n =>
      let indent := least + n - 1
      let (breaks, c) := blockBreaks indent c.rest.length c
      ((breaks, indent), c)
  if c.column == indent && !c.atEnd then
    return blockLines fold header.chomping indent c.rest.length breaks c
  else return (tail header.chomping [] breaks, c)

end Flowchart.Yaml
