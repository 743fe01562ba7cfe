import Flowchart.Yaml.Scalar

/-!
# YAML tokens

Indentation and line ends become tokens of their own. Whether a scalar is a key shows only at the
colon behind it, so the place of every possible key is kept and its token is put in later. Where the
text breaks off, what may still be a key is no token yet.
-/

namespace Flowchart.Yaml

inductive Token where
  | version (major : Nat)
  | handle (name start : Text)
  | otherDirective
  | documentStart
  | documentEnd
  | sequenceStart
  | mappingStart
  | blockEnd
  | flowSequenceStart
  | flowSequenceEnd
  | flowMappingStart
  | flowMappingEnd
  | entry
  | flowEntry
  | key
  | value
  | alias (name : Text)
  | anchor (name : Text)
  | tag (handle : Option Text) (rest : Text)
  | scalar (text : Text) (plain : Bool)
  | broken (fault : Fault)
  deriving DecidableEq, Repr

structure KeyPlace where
  position : Nat
  required : Bool
  index : Nat
  line : Nat
  column : Nat
  deriving DecidableEq, Repr

structure Lexer where
  cursor : Cursor
  tokens : Array Token := #[]
  depth : Nat := 0
  indent : Int := -1
  indents : List Int := []
  keyAllowed : Bool := true
  keys : List (Nat × KeyPlace) := []
  deriving Repr

namespace Lexer

def push (lx : Lexer) (token : Token) : Lexer := { lx with tokens := lx.tokens.push token }

def moveTo (lx : Lexer) (cursor : Cursor) : Lexer := { lx with cursor := cursor }

def skip (lx : Lexer) (n : Nat) : Lexer := lx.moveTo (lx.cursor.skip n)

/-- Ends the blocks that are indented further than a column. -/
def unwind (lx : Lexer) (column : Int) : List Int → Lexer
  | [] => lx
  | outer :: indents =>
    if lx.depth == 0 && column < lx.indent then
      unwind { lx.push .blockEnd with indent := outer, indents := indents } column indents
    else lx

def unwindTo (lx : Lexer) (column : Int) : Lexer := lx.unwind column lx.indents

/-- Begins a block at a column, unless one begins there already. The token goes to a position. -/
def indentTo (lx : Lexer) (column : Nat) (position : Nat) (token : Token) : Lexer :=
  if lx.indent < column then
    { lx with
      tokens := lx.tokens.insertIdxIfInBounds position token
      indents := lx.indent :: lx.indents
      indent := column }
  else lx

def keyHere? (lx : Lexer) : Option KeyPlace := lx.keys.lookup lx.depth

def dropKey (lx : Lexer) : Lexer := { lx with keys := lx.keys.filter (·.1 != lx.depth) }

def removeKey (lx : Lexer) : Except Fault Lexer :=
  if lx.keyHere?.any (·.required) then .error .malformed else .ok lx.dropKey

def saveKey (lx : Lexer) : Except Fault Lexer :=
  if lx.keyAllowed then do
    let c := lx.cursor
    let required := lx.depth == 0 && lx.indent == (c.column : Int)
    let lx ← lx.removeKey
    return { lx with
      keys := (lx.depth, ⟨lx.tokens.size, required, c.index, c.line, c.column⟩) :: lx.keys }
  else .ok lx

/-- A key ends on its line, within 1024 characters. -/
def isStale (lx : Lexer) (place : KeyPlace) : Bool :=
  place.line != lx.cursor.line || lx.cursor.index - place.index > 1024

def dropStaleKeys (lx : Lexer) : Except Fault Lexer :=
  if lx.keys.any fun k => lx.isStale k.2 && k.2.required then .error .malformed
  else .ok { lx with keys := lx.keys.filter fun k => !lx.isStale k.2 }

def skipBlanks (lx : Lexer) : Nat → Lexer
  | 0 => lx
  | fuel + 1 =>
    let c := lx.cursor.skipWhile (· == ' ')
    let c := if c.head? == some '#' then c.skipWhile (!isBreak ·) else c
    match c.lineBreak? with
    | some (_, after) =>
      skipBlanks { lx.moveTo after with keyAllowed := lx.keyAllowed || lx.depth == 0 } fuel
    | none => lx.moveTo c

def documentToken (lx : Lexer) (token : Token) : Except Fault Lexer := do
  let lx ← (lx.unwindTo (-1)).removeKey
  return ({ lx with keyAllowed := false }.skip 3).push token

def openFlow (lx : Lexer) (token : Token) : Except Fault Lexer := do
  let lx ← lx.saveKey
  return ({ lx with depth := lx.depth + 1, keyAllowed := true }.skip 1).push token

def closeFlow (lx : Lexer) (token : Token) : Except Fault Lexer := do
  let lx ← lx.removeKey
  return ({ lx with depth := lx.depth - 1, keyAllowed := false }.skip 1).push token

def flowEntryToken (lx : Lexer) : Except Fault Lexer := do
  let lx ← { lx with keyAllowed := true }.removeKey
  return (lx.skip 1).push .flowEntry

def openBlock (lx : Lexer) (token : Token) : Except Fault Lexer :=
  if lx.depth != 0 then .ok lx
  else if lx.keyAllowed then .ok (lx.indentTo lx.cursor.column lx.tokens.size token)
  else .error .malformed

def entryToken (lx : Lexer) : Except Fault Lexer := do
  let lx ← lx.openBlock .sequenceStart
  let lx ← { lx with keyAllowed := true }.removeKey
  return (lx.skip 1).push .entry

def keyToken (lx : Lexer) : Except Fault Lexer := do
  let lx ← lx.openBlock .mappingStart
  let lx ← { lx with keyAllowed := lx.depth == 0 }.removeKey
  return (lx.skip 1).push .key

def valueToken (lx : Lexer) : Except Fault Lexer := do
  match lx.keyHere? with
  | some place =>
    let lx := lx.dropKey
    let lx := { lx with tokens := lx.tokens.insertIdxIfInBounds place.position .key }
    let lx := if lx.depth == 0 then lx.indentTo place.column place.position .mappingStart else lx
    return ({ lx with keyAllowed := false }.skip 1).push .value
  | none =>
    let lx ← lx.openBlock .mappingStart
    let lx ← { lx with keyAllowed := lx.depth == 0 }.removeKey
    return (lx.skip 1).push .value

def keyLike (lx : Lexer) (scan : Cursor → Except Fault (Token × Cursor)) :
    Except Fault Lexer := do
  let lx ← lx.saveKey
  let (token, after) ← scan lx.cursor
  return ({ lx with keyAllowed := false }.moveTo after).push token

def plainToken (lx : Lexer) : Except Fault Lexer := do
  let lx ← lx.saveKey
  let found := plainScalar (lx.depth != 0) (lx.indent + 1) (lx.cursor.rest.length + 1) [] lx.cursor
  return ({ lx with keyAllowed := found.broke }.moveTo found.cursor).push (.scalar found.text true)

def blockToken (lx : Lexer) (fold : Bool) : Except Fault Lexer := do
  let lx ← { lx with keyAllowed := true }.removeKey
  let (text, after) ← blockScalar fold lx.indent lx.cursor.next
  return (lx.moveTo after).push (.scalar text false)

end Lexer

def isNameChar (c : Char) : Bool := c.isAlphanum || c == '-' || c == '_'

def isTagChar (c : Char) : Bool :=
  c.isAlphanum || "-;/?:@&=+$,_.!~*'()[]%".toList.contains c

def scanName (make : Text → Token) (c : Cursor) : Except Fault (Token × Cursor) :=
  let (name, after) := c.next.run isNameChar
  let ends := after.endsOr 0 fun ch => isGapOrBreak ch || "?:,]\x7d%@`".toList.contains ch
  if name.isEmpty || !ends then .error .malformed else .ok (make name, after)

def textOfBytes? (bytes : List UInt8) : Option Text :=
  (String.fromUTF8? ⟨bytes.toArray⟩).map String.toList

/-- Percent escapes stand for bytes. `bytes` are those of the escapes read last. -/
def decodePercents (bytes : List UInt8) : Text → Option Text
  | '%' :: a :: b :: s => do
    let high ← Text.hexValue? a
    let low ← Text.hexValue? b
    decodePercents (bytes ++ [.ofNat (16 * high + low)]) s
  | '%' :: _ => none
  | c :: s => do
    let start ← textOfBytes? bytes
    let rest ← decodePercents [] s
    return start ++ c :: rest
  | [] => textOfBytes? bytes

def scanTagRest (c : Cursor) : Except Fault (Text × Cursor) :=
  let (raw, after) := c.run isTagChar
  match raw, decodePercents [] raw with
  | _ :: _, some rest => .ok (rest, after)
  | _, _ => .error .malformed

def scanHandle (c : Cursor) : Except Fault (Text × Cursor) :=
  let (name, after) := c.next.run isNameChar
  if c.head? != some '!' then .error .malformed
  else if after.head? == some '!' then .ok ('!' :: name ++ ['!'], after.next)
  else if c.peek? 1 == some ' ' then .ok (['!'], c.next)
  else .error .malformed

def scanTag (c : Cursor) : Except Fault (Token × Cursor) := do
  let (token, after) ←
    if c.peek? 1 == some '<' then do
      let (rest, after) ← scanTagRest (c.skip 2)
      if after.head? == some '>' then .ok (Token.tag none rest, after.next) else .error .malformed
    else if c.endsOr 1 isGapOrBreak then .ok (Token.tag none ['!'], c.next)
    else
      let word := c.next.rest.takeWhile fun ch => !(ch == ' ' || isBreak ch)
      if word.contains '!' then do
        let (handle, after) ← scanHandle c
        let (rest, after) ← scanTagRest after
        .ok (Token.tag (some handle) rest, after)
      else do
        let (rest, after) ← scanTagRest c.next
        .ok (Token.tag (some ['!']) rest, after)
  if after.endsWord then .ok (token, after)
  else .error .malformed

def scanNumber (c : Cursor) : Except Fault (Nat × Cursor) :=
  let (digits, after) := c.run Text.isAsciiDigit
  if digits.isEmpty then .error .malformed
  else if Text.maxDigits < digits.length then
    .error (.badInteger (.tooManyDigits digits.length))
  else .ok (Text.natOfDigits digits, after)

def scanVersion (c : Cursor) : Except Fault (Token × Cursor) := do
  let (major, c) ← scanNumber c.skipSpaces
  if c.head? != some '.' then .error .malformed
  else do
    let (_, c) ← scanNumber c.next
    if c.endsWord then .ok (.version major, c) else .error .malformed

def scanTagDirective (c : Cursor) : Except Fault (Token × Cursor) := do
  let (name, c) ← scanHandle c.skipSpaces
  if c.head? != some ' ' then .error .malformed
  else do
    let (start, c) ← scanTagRest c.skipSpaces
    if c.endsWord then .ok (.handle name start, c) else .error .malformed

def afterDirective (c : Cursor) : Except Fault Cursor :=
  let c := c.skipSpaces
  let c := if c.head? == some '#' then c.skipWhile (!isBreak ·) else c
  if c.atEnd then .ok c
  else
    match c.lineBreak? with
    | some (_, after) => .ok after
    | none => .error .malformed

def scanDirective (c : Cursor) : Except Fault (Token × Cursor) := do
  let (name, after) := c.next.run isNameChar
  if name.isEmpty || !after.endsWord then .error .malformed
  else do
    let (token, after) ←
      if name == "YAML".toList then scanVersion after
      else if name == "TAG".toList then scanTagDirective after
      else .ok (.otherDirective, after.skipWhile (!isBreak ·))
    let last ← afterDirective after
    return (token, last)

namespace Lexer

def atPlain (lx : Lexer) : Bool :=
  match lx.cursor.head? with
  | none => false
  | some c =>
    !(isGapOrBreak c || "-?:,[]\x7b\x7d#&*!|>'\"%@`".toList.contains c) ||
      (!(lx.cursor.endsOr 1 isGapOrBreak) &&
        (c == '-' || (lx.depth == 0 && (c == '?' || c == ':'))))

def standsAlone (lx : Lexer) : Bool := lx.depth != 0 || lx.cursor.endsOr 1 isGapOrBreak

def scanToken (lx : Lexer) (c : Char) : Except Fault Lexer :=
  let here := lx.cursor
  let lineStart := here.column == 0
  if c == '%' && lineStart then do
    let lx ← (lx.unwindTo (-1)).removeKey
    let (token, after) ← scanDirective lx.cursor
    return ({ lx with keyAllowed := false }.moveTo after).push token
  else if lineStart && here.atMarker "---".toList then lx.documentToken .documentStart
  else if lineStart && here.atMarker "...".toList then lx.documentToken .documentEnd
  else if c == '[' then lx.openFlow .flowSequenceStart
  else if c == '\x7b' then lx.openFlow .flowMappingStart
  else if c == ']' then lx.closeFlow .flowSequenceEnd
  else if c == '\x7d' then lx.closeFlow .flowMappingEnd
  else if c == ',' then lx.flowEntryToken
  else if c == '-' && here.endsOr 1 isGapOrBreak then lx.entryToken
  else if c == '?' && lx.standsAlone then lx.keyToken
  else if c == ':' && lx.standsAlone then lx.valueToken
  else if c == '*' then lx.keyLike (scanName .alias)
  else if c == '&' then lx.keyLike (scanName .anchor)
  else if c == '!' then lx.keyLike scanTag
  else if c == '|' && lx.depth == 0 then lx.blockToken false
  else if c == '>' && lx.depth == 0 then lx.blockToken true
  else if c == '\'' || c == '"' then
    lx.keyLike fun c' =>
      (quotedScalar c (c'.rest.length + 1) c'.next).map fun r => (.scalar r.1 false, r.2)
  else if lx.atPlain then lx.plainToken
  else .error .malformed

def firstKey? (lx : Lexer) : Option Nat :=
  ((lx.keys.filter fun k => !lx.isStale k.2).map (·.2.position)).min?

def breakOff (lx : Lexer) (fault : Fault) : List Token :=
  lx.tokens.toList.take ((lx.firstKey?).getD lx.tokens.size) ++ [.broken fault]

def approach (lx : Lexer) : Except Fault Lexer := do
  let lx ← (lx.skipBlanks (lx.cursor.rest.length + 1)).dropStaleKeys
  return lx.unwindTo lx.cursor.column

def step (lx : Lexer) : Except Fault (Option Lexer) := do
  let here ← lx.approach
  match here.cursor.head? with
  | none => return none
  | some c => return some (← here.scanToken c)

/-- The end of the text ends every block. -/
def finish (lx : Lexer) : Except Fault Lexer := do
  let here ← lx.approach
  (here.unwindTo (-1)).removeKey

def tokensOf (lx : Lexer) (last : Except Fault Lexer) : List Token :=
  match last with
  | .ok done => done.tokens.toList
  | .error fault => lx.breakOff fault

/-- Every token but those of indentation takes up a character, so the length of the text is fuel
enough. -/
def scanAll : Nat → Lexer → List Token
  | 0, lx => lx.breakOff .malformed
  | fuel + 1, lx =>
    match lx.step with
    | .error fault => lx.breakOff fault
    | .ok none => lx.tokensOf lx.finish
    | .ok (some next) => scanAll fuel next

end Lexer

def scan (s : Text) : List Token :=
  if s.all isAllowed then
    let start : Cursor := ⟨s, 0, 0, 0⟩
    let start := if s.head? == some '\ufeff' then start.next else start
    Lexer.scanAll (s.length + 2) { cursor := start }
  else [.broken .malformed]

end Flowchart.Yaml
