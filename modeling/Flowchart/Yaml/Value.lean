import Flowchart.Yaml.Bytes
import Flowchart.Yaml.Merge
import Flowchart.Yaml.Moment
import Flowchart.Yaml.Number

/-!
# YAML values

The meaning of scalars by their tags, and which values are one key. A collection names the nodes
whose values are in it.
-/

namespace Flowchart.Yaml

inductive Value where
  | null
  | bool (value : Bool)
  | int (value : Int)
  | float (value : Binary64)
  /-- What every spelling of `.nan` stands for. -/
  | noNumber
  | str (text : Text)
  | bytes (value : List UInt8)
  | moment (value : Moment)
  | list (items : List Ref)
  | pairs (items : List (Ref × Ref))
  | map (pairs : List (Ref × Ref))
  | set (items : List Ref)
  deriving DecidableEq, Repr

/-- The text of a node. A mapping stands for what its key `=` names, so a way that is longer than
there are nodes never ends. -/
def textOf (nodes : Nodes) : Nat → Ref → Except Fault Text
  | 0, _ => .error .endless
  | fuel + 1, ref =>
    match nodes[ref]? with
    | some ⟨_, .scalar text⟩ => .ok text
    | some ⟨_, .mapping pairs⟩ =>
      match pairs.find? fun pair => nodes.tag? pair.1 == some .value with
      | some (_, value) => textOf nodes fuel value
      | none => .error .malformed
    | _ => .error .malformed

def truthOf (text : Text) : Except Fault Bool :=
  let word := Text.lower text
  if ["yes", "true", "on"].any (·.toList == word) then .ok true
  else if ["no", "false", "off"].any (·.toList == word) then .ok false
  else .error (.badTruth word)

def momentOf (content : Content) (text : Text) : Except Fault Moment :=
  match content, stamp? (Text.withoutLastBreak text) with
  | .mapping _, _ => .error .mappedDate
  | _, some stamp => Moment.ofStamp stamp
  | _, none => .error .noDate

def bytesOf (text : Text) : Except Fault (List UInt8) :=
  match bytesOf? text with
  | some bytes => .ok bytes
  | none => .error .malformed

def scalarOf (tag : Tag) (content : Content) (text : Text) : Except Fault Value :=
  match tag with
  | .null => .ok .null
  | .bool => (truthOf text).map .bool
  | .int => (integerOf text).map .int
  | .float => if isNoNumber text then .ok .noNumber else (fractionOf text).map .float
  | .str => .ok (.str text)
  | .timestamp => (momentOf content text).map .moment
  | .binary => (bytesOf text).map .bytes
  | _ => .error .malformed

def emptyOf? : Tag → Option Value
  | .seq => some (.list [])
  | .map => some (.map [])
  | .set => some (.set [])
  | .pairs => some (.pairs [])
  | _ => none

namespace Value

/-- A number as a fraction, so that numbers of any kind compare. -/
def number? : Value → Option (Int × Nat)
  | bool b => some (if b then 1 else 0, 1)
  | int n => some (n, 1)
  | float x => if x.isNan || x.isInfinite then none else some x.fraction
  | _ => none

/-- Whether two values are one key. No other number that is none is the same as any. -/
def sameKey (a b : Value) : Bool :=
  match a.number?, b.number? with
  | some (m, d), some (n, e) => m * e == n * d
  | some _, none => false
  | none, some _ => false
  | none, none =>
    match a, b with
    | null, null => true
    | noNumber, noNumber => true
    | str s, str t => s == t
    | bytes s, bytes t => s == t
    | moment s, moment t => s.same t
    | float x, float y => x == y && !x.isNan
    | _, _ => false

def isKey : Value → Bool
  | list _ => false
  | pairs _ => false
  | map _ => false
  | set _ => false
  | _ => true

end Value

end Flowchart.Yaml
