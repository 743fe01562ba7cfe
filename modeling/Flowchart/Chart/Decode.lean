import Flowchart.Reference
import Flowchart.Text.Integer

/-!
# Text in charts

Text may stand in quotes, and holds character references: those of markup, and `#name;` or
`#number;` of its own.
-/

namespace Flowchart.Chart

inductive BadCode where
  | unreadable (fault : Text.IntegerFault)
  | outOfRange
  | tooLarge
  deriving DecidableEq, Repr

namespace BadCode

def message : BadCode → Text
  | unreadable fault => fault.message
  | outOfRange => "chr() arg not in range(0x110000)".toList
  | tooLarge => "Python int too large to convert to C int".toList

end BadCode

def codeOfDigits (digits : Text) : Except BadCode Nat :=
  ((Text.readInteger 10 digits).map Int.toNat).mapError BadCode.unreadable

def charOfDigits (digits : Text) : Except BadCode Char := do
  let code ← codeOfDigits digits
  if code < 0x110000 then .ok (if (0xd800 ≤ code && code ≤ 0xdfff) then '\ufffd' else .ofNat code)
  else if code < 0x80000000 then .error .outOfRange
  else .error .tooLarge

def hashName? (s : Text) : Option Text :=
  match s with
  | '#' :: rest =>
    match rest.takeWhile Text.isWord, rest.dropWhile Text.isWord with
    | [], _ => none
    | name, ';' :: _ => some name
    | _, _ => none
  | _ => none

def decodeMarkup (s : Text) : Except BadCode Text :=
  (Reference.decode s).mapError BadCode.unreadable

/-- An unknown name leaves the reference as it is. -/
def hashMeaning (name : Text) : Except BadCode Text :=
  if name.all Text.isDigit then (charOfDigits name).map ([·])
  else
    let reference := '&' :: name ++ [';']
    (decodeMarkup reference).map fun decoded =>
      if decoded = reference then '#' :: name ++ [';'] else decoded

/-- `skip` characters belong to a reference that was replaced already. -/
def decodeHashes : Nat → Text → Except BadCode Text
  | _, [] => .ok []
  | skip + 1, _ :: s => decodeHashes skip s
  | 0, c :: s =>
    match hashName? (c :: s) with
    | none => (decodeHashes 0 s).map (c :: ·)
    | some name => do
      let meaning ← hashMeaning name
      let rest ← decodeHashes (name.length + 1) s
      return meaning ++ rest

def unwrap (s : Text) : Text :=
  match s with
  | quote :: rest =>
    if (quote == '"' || quote == '\'') && !rest.isEmpty && rest.getLast? == some quote then
      rest.dropLast
    else s
  | [] => s

def decode (s : Text) : Except BadCode Text := do
  let decoded ← decodeHashes 0 (unwrap (Text.trim s))
  let meant ← decodeMarkup decoded
  return Text.trim meant

end Flowchart.Chart
