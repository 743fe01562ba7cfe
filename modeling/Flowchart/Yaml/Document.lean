import Flowchart.Binary64.Shortest
import Flowchart.Yaml.Slots

/-!
# YAML documents

A document gives each node its value. Collections are filled level by level from the root on, so
that one may be a part of itself. Equal keys of a mapping are one key: the first of them with the
last value.
-/

namespace Flowchart.Yaml

/-- Nodes, the values found so far, and the collections that are not filled yet. -/
structure Builder where
  nodes : Nodes
  values : Array (Option Value)
  waiting : List Ref := []
  deriving Repr

namespace Builder

def value? (b : Builder) (ref : Ref) : Option Value := b.values[ref]?.join

def give (b : Builder) (ref : Ref) (value : Value) : Builder :=
  { b with values := b.values.setIfInBounds ref (some value) }

/-- Gives a node its value, unless it has one. A collection is empty at first. -/
def visit (b : Builder) (ref : Ref) : Except Fault Builder :=
  match b.value? ref, b.nodes[ref]? with
  | some _, _ => .ok b
  | none, none => .error .malformed
  | none, some node =>
    match emptyOf? node.tag with
    | some value => .ok { b.give ref value with waiting := b.waiting ++ [ref] }
    | none => do
      if node.tag == .unknown || node.tag == .merge || node.tag == .value then .error .malformed
      else do
        let text ← textOf b.nodes (b.nodes.size + 1) ref
        let value ← scalarOf node.tag node.content text
        return b.give ref value

def sameKey (b : Builder) (key other : Ref) : Bool :=
  key == other ||
    match b.value? key, b.value? other with
    | some v, some w => v.sameKey w
    | _, _ => false

def put (b : Builder) (key value : Ref) : List (Ref × Ref) → List (Ref × Ref)
  | [] => [(key, value)]
  | pair :: pairs =>
    if b.sameKey pair.1 key then (pair.1, value) :: pairs else pair :: b.put key value pairs

def addPair (known : Builder × List (Ref × Ref)) (pair : Ref × Ref) :
    Except Fault (Builder × List (Ref × Ref)) := do
  let b ← known.1.visit pair.1
  if (b.value? pair.1).any Value.isKey then do
    let b ← b.visit pair.2
    return (b, b.put pair.1 pair.2 known.2)
  else .error .malformed

def mapping (b : Builder) (ref : Ref) : Except Fault (Builder × List (Ref × Ref)) :=
  if (b.nodes.pairs? ref).isSome then do
    let nodes ← b.nodes.merge ref
    (nodes.pairs ref).foldlM addPair ({ b with nodes }, [])
  else .error .malformed

def addEntry (known : Builder × List (Ref × Ref)) (item : Ref) :
    Except Fault (Builder × List (Ref × Ref)) := do
  match known.1.nodes.pairs? item with
  | some [pair] => do
    let b ← known.1.visit pair.1
    let b ← b.visit pair.2
    return (b, known.2 ++ [pair])
  | _ => .error .malformed

def items (b : Builder) (ref : Ref) : Except Fault (List Ref) :=
  match b.nodes[ref]? with
  | some ⟨_, .sequence items⟩ => .ok items
  | _ => .error .malformed

def fill (b : Builder) (ref : Ref) : Except Fault Builder :=
  match b.value? ref with
  | some (.list _) => do
    let items ← b.items ref
    let b ← items.foldlM visit b
    return b.give ref (.list items)
  | some (.pairs _) => do
    let items ← b.items ref
    let (b, pairs) ← items.foldlM addEntry (b, [])
    return b.give ref (.pairs pairs)
  | some (.map _) => do
    let (b, pairs) ← b.mapping ref
    return b.give ref (.map pairs)
  | some (.set _) => do
    let (b, pairs) ← b.mapping ref
    return b.give ref (.set (setOrder b.value? (pairs.map Prod.fst)))
  | _ => .ok b

/-- Fills what waits, and whatever comes to wait meanwhile. No node waits twice. -/
def fillAll : Nat → Builder → Except Fault Builder
  | 0, b => .ok b
  | fuel + 1, b =>
    match b.waiting with
    | [] => .ok b
    | ref :: refs => do
      let b ← { b with waiting := refs }.fill ref
      fillAll fuel b

end Builder

structure Document where
  values : Array (Option Value) := #[]
  root : Option Ref := none
  deriving Repr

namespace Document

def ofNodes (nodes : Nodes) (root : Ref) : Except Fault Document := do
  let start : Builder := { nodes, values := Array.replicate nodes.size none }
  let b ← start.visit root
  let b ← b.fillAll (nodes.size + 1)
  return ⟨b.values, some root⟩

def load (s : Text) : Except Fault Document := do
  match ← document? (scan s) with
  | none => return {}
  | some (nodes, root) => ofNodes nodes root

def value? (d : Document) (ref : Ref) : Option Value := d.values[ref]?.join

def pairs (d : Document) : List (Ref × Ref) :=
  match d.root.bind d.value? with
  | some (.map pairs) => pairs
  | _ => []

def find? (d : Document) (key : Text) : Option Ref :=
  (d.pairs.find? fun pair => d.value? pair.1 == some (.str key)).map Prod.snd

def plainText : Value → Except Fault Text
  | .null => .ok "None".toList
  | .bool b => .ok (if b then "True".toList else "False".toList)
  | .int n =>
    let text := Text.ofInt n
    if Text.maxDigits < (Text.dropSign text).length then .error .longNumber else .ok text
  | .float x => .ok (x.toText Binary64.plainLayout)
  | .noNumber => .ok Binary64.plainLayout.nan
  | .str s => .ok s.quoted
  | .bytes bytes => .ok (bytesText bytes)
  | .moment t => .ok t.nested
  | _ => .ok []

def enclose (first last : String) (parts : List Text) : Text :=
  first.toList ++ Text.join ", ".toList parts ++ last.toList

/-- A value as it stands inside a collection. `within` are the collections around it; one of them
is not shown again. They differ, so there are no more of them than nodes. -/
def nested (d : Document) : Nat → List Ref → Ref → Except Fault Text
  | 0, _, _ => .ok []
  | fuel + 1, within, ref =>
    let part := nested d fuel (ref :: within)
    match d.value? ref with
    | none => .ok []
    | some (.list items) =>
      if within.contains ref then .ok "[...]".toList
      else (items.mapM part).map (enclose "[" "]")
    | some (.pairs items) =>
      if within.contains ref then .ok "[...]".toList
      else do
        let parts ← items.mapM fun pair => do
          return enclose "(" ")" [← part pair.1, ← part pair.2]
        return enclose "[" "]" parts
    | some (.map pairs) =>
      if within.contains ref then .ok "\x7b...\x7d".toList
      else do
        let parts ← pairs.mapM fun pair => do
          return (← part pair.1) ++ ": ".toList ++ (← part pair.2)
        return enclose "\x7b" "\x7d" parts
    | some (.set []) => .ok "set()".toList
    | some (.set items) => (items.mapM part).map (enclose "\x7b" "\x7d")
    | some value => plainText value

def display (d : Document) (ref : Ref) : Except Fault Text :=
  match d.value? ref with
  | some (.str s) => .ok s
  | some (.moment t) => .ok t.display
  | _ => d.nested (d.values.size + 1) [] ref

end Document

namespace Fault

def message : Fault → Text
  | malformed => "malformed".toList
  | badInteger fault => fault.message
  | badFloat digits => "could not convert string to float: ".toList ++ digits.quoted
  | badTruth word => word.quoted
  | noDigits => "string index out of range".toList
  | badCode code =>
    if code < 0x80000000 then "chr() arg not in range(0x110000)".toList
    else "Python int too large to convert to C int".toList
  | badDate complaint => complaint
  | noDate => "'NoneType' object has no attribute 'groupdict'".toList
  | mappedDate => "expected string or bytes-like object, got 'list'".toList
  | heavyPart => "int too large to convert to float".toList
  | endless => "maximum recursion depth exceeded".toList
  | longNumber =>
    "Exceeds the limit (4300 digits) for integer string conversion; ".toList ++
      "use sys.set_int_max_str_digits() to increase the limit".toList

end Fault

end Flowchart.Yaml
