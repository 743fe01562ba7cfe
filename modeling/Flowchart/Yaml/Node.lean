import Flowchart.Yaml.Implicit
import Flowchart.Yaml.Token

/-!
# YAML nodes

Tokens make up scalars, sequences and mappings. The nodes of a document are numbered, and a
collection names its parts by their numbers: an alias names the node that its anchor marks, which
may be a collection around it.
-/

namespace Flowchart.Yaml

abbrev Ref := Nat

inductive Content where
  | scalar (text : Text)
  | sequence (items : List Ref)
  | mapping (pairs : List (Ref × Ref))
  deriving DecidableEq, Repr

structure Node where
  tag : Tag
  content : Content
  deriving DecidableEq, Repr

structure Composer where
  tokens : List Token
  nodes : Array Node := #[]
  anchors : List (Text × Ref) := []
  handles : List (Text × Text) :=
    [("!".toList, "!".toList), ("!!".toList, "tag:yaml.org,2002:".toList)]
  deriving Repr

namespace Composer

def head? (c : Composer) : Option Token := c.tokens.head?

def next (c : Composer) : Composer := { c with tokens := c.tokens.tail }

def fault (c : Composer) : Fault :=
  match c.head? with
  | some (.broken fault) => fault
  | _ => .malformed

def sees (c : Composer) (expected : List Token) : Bool := c.head?.any expected.contains

def expect (c : Composer) (token : Token) : Except Fault Composer :=
  if c.head? == some token then .ok c.next else .error c.fault

def add (c : Composer) (tag : Tag) (content : Content) : Ref × Composer :=
  (c.nodes.size, { c with nodes := c.nodes.push ⟨tag, content⟩ })

def addEmpty (c : Composer) : Ref × Composer := c.add .null (.scalar [])

def complete (c : Composer) (ref : Ref) (content : Content) : Composer :=
  { c with nodes := c.nodes.modify ref fun node => { node with content } }

def mark (c : Composer) (anchor : Option Text) : Composer :=
  { c with anchors := (anchor.map fun name => (name, c.nodes.size)).toList ++ c.anchors }

end Composer

structure Properties where
  anchor : Option Text := none
  tag : Option Text := none
  deriving DecidableEq, Repr

def fullTag (c : Composer) (handle : Option Text) (rest : Text) : Except Fault Text :=
  match handle with
  | none => .ok rest
  | some handle =>
    match c.handles.lookup handle with
    | some start => .ok (start ++ rest)
    | none => .error .malformed

def properties (c : Composer) : Except Fault (Properties × Composer) := do
  match c.tokens with
  | .anchor name :: .tag handle rest :: _ =>
    return (⟨some name, some (← fullTag c handle rest)⟩, c.next.next)
  | .anchor name :: _ => return (⟨some name, none⟩, c.next)
  | .tag _ _ :: .broken fault :: _ => .error fault
  | .tag handle rest :: .anchor name :: _ =>
    return (⟨some name, some (← fullTag c handle rest)⟩, c.next.next)
  | .tag handle rest :: _ => return (⟨none, some (← fullTag c handle rest)⟩, c.next)
  | _ => return ({}, c)

def standardTags : List (String × Tag) :=
  [("null", .null), ("bool", .bool), ("int", .int), ("float", .float), ("timestamp", .timestamp),
    ("merge", .merge), ("value", .value), ("str", .str), ("seq", .seq), ("map", .map),
    ("set", .set), ("omap", .pairs), ("pairs", .pairs), ("binary", .binary)]

def Tag.ofName (name : Text) : Tag :=
  match Text.after? "tag:yaml.org,2002:".toList name with
  | none => .unknown
  | some short =>
    ((standardTags.find? fun t => t.1.toList == short).map Prod.snd).getD .unknown

/-- The tag of a scalar. The lone mark `!` makes it plain. -/
def scalarTag (tag : Option Text) (text : Text) (plain : Bool) : Tag :=
  match tag with
  | none => if plain then .ofPlain text else .str
  | some ['!'] => .ofPlain text
  | some name => .ofName name

def collectionTag (tag : Option Text) (default : Tag) : Tag :=
  match tag with
  | none => default
  | some ['!'] => default
  | some name => .ofName name

def checkAnchor (c : Composer) (anchor : Option Text) : Except Fault Unit :=
  match c.head? with
  | some (.broken fault) => .error fault
  | _ =>
    if anchor.any fun name => (c.anchors.lookup name).isSome then .error .malformed else .ok ()

/-- A node may be empty if an anchor or a tag stands for it. -/
def emptyContent (c : Composer) (props : Properties) : Except Fault (Ref × Composer) :=
  if props.anchor.isSome || props.tag.isSome then
    .ok ((c.mark props.anchor).add (scalarTag props.tag [] true) (.scalar []))
  else .error c.fault

mutual

/-- A node. Block collections need `block`; where a key or a value may be a sequence that is not
indented, `unindented` says so. -/
def node (block unindented : Bool) : Nat → Composer → Except Fault (Ref × Composer)
  | 0, _ => .error .malformed
  | fuel + 1, c =>
    match c.head? with
    | some (.alias name) =>
      match c.anchors.lookup name with
      | none => .error .malformed
      | some ref => .ok (ref, c.next)
    | _ => do
      let (props, c) ← properties c
      checkAnchor c props.anchor
      content block unindented fuel c props

def content (block unindented : Bool) :
    Nat → Composer → Properties → Except Fault (Ref × Composer)
  | 0, _, _ => .error .malformed
  | fuel + 1, c, props =>
    let sequence := fun (c : Composer) =>
      (c.mark props.anchor).add (collectionTag props.tag .seq) (.sequence [])
    let mapping := fun (c : Composer) =>
      (c.mark props.anchor).add (collectionTag props.tag .map) (.mapping [])
    match c.head? with
    | some (.scalar text plain) =>
      .ok ((c.next.mark props.anchor).add (scalarTag props.tag text plain) (.scalar text))
    | some .flowSequenceStart => do
      let (ref, c) := sequence c.next
      let (items, c) ← flowItems true fuel c
      return (ref, c.complete ref (.sequence items))
    | some .flowMappingStart => do
      let (ref, c) := mapping c.next
      let (pairs, c) ← flowPairs true fuel c
      return (ref, c.complete ref (.mapping pairs))
    | some .entry =>
      if unindented then do
        let (ref, c) := sequence c
        let (items, c) ← unindentedItems fuel c
        return (ref, c.complete ref (.sequence items))
      else emptyContent c props
    | some .sequenceStart =>
      if block then do
        let (ref, c) := sequence c.next
        let (items, c) ← blockItems fuel c
        return (ref, c.complete ref (.sequence items))
      else emptyContent c props
    | some .mappingStart =>
      if block then do
        let (ref, c) := mapping c.next
        let (pairs, c) ← blockPairs fuel c
        return (ref, c.complete ref (.mapping pairs))
      else emptyContent c props
    | _ => emptyContent c props

def nodeUnless (ends : List Token) (block unindented : Bool) :
    Nat → Composer → Except Fault (Ref × Composer)
  | 0, _ => .error .malformed
  | fuel + 1, c => if c.sees ends then .ok c.addEmpty else node block unindented fuel c

def blockItems : Nat → Composer → Except Fault (List Ref × Composer)
  | 0, _ => .error .malformed
  | fuel + 1, c =>
    if c.sees [.entry] then do
      let (item, c) ← nodeUnless [.entry, .blockEnd] true false fuel c.next
      let (items, c) ← blockItems fuel c
      return (item :: items, c)
    else do
      let c ← c.expect .blockEnd
      return ([], c)

def unindentedItems : Nat → Composer → Except Fault (List Ref × Composer)
  | 0, _ => .error .malformed
  | fuel + 1, c =>
    if c.sees [.entry] then do
      let (item, c) ← nodeUnless [.entry, .key, .value, .blockEnd] true false fuel c.next
      let (items, c) ← unindentedItems fuel c
      return (item :: items, c)
    else .ok ([], c)

def valueNode (ends : List Token) (block : Bool) :
    Nat → Composer → Except Fault (Ref × Composer)
  | 0, _ => .error .malformed
  | fuel + 1, c =>
    if c.sees [.value] then nodeUnless ends block block fuel c.next else .ok c.addEmpty

def blockPairs : Nat → Composer → Except Fault (List (Ref × Ref) × Composer)
  | 0, _ => .error .malformed
  | fuel + 1, c =>
    if c.sees [.key] then do
      let (key, c) ← nodeUnless [.key, .value, .blockEnd] true true fuel c.next
      let (value, c) ← valueNode [.key, .value, .blockEnd] true fuel c
      let (pairs, c) ← blockPairs fuel c
      return ((key, value) :: pairs, c)
    else do
      let c ← c.expect .blockEnd
      return ([], c)

def flowItems (first : Bool) : Nat → Composer → Except Fault (List Ref × Composer)
  | 0, _ => .error .malformed
  | fuel + 1, c => do
    if c.sees [.flowSequenceEnd] then return ([], c.next)
    let c ← if first then .ok c else c.expect .flowEntry
    if c.sees [.flowSequenceEnd] then return ([], c.next)
    let ends := [Token.value, .flowEntry, .flowSequenceEnd]
    let (item, c) ←
      if c.sees [.key] then do
        let (key, c) ← nodeUnless ends false false fuel c.next
        let (value, c) ← valueNode [.flowEntry, .flowSequenceEnd] false fuel c
        .ok (c.add .map (.mapping [(key, value)]))
      else node false false fuel c
    let (items, c) ← flowItems false fuel c
    return (item :: items, c)

def flowPairs (first : Bool) : Nat → Composer → Except Fault (List (Ref × Ref) × Composer)
  | 0, _ => .error .malformed
  | fuel + 1, c => do
    if c.sees [.flowMappingEnd] then return ([], c.next)
    let c ← if first then .ok c else c.expect .flowEntry
    if c.sees [.flowMappingEnd] then return ([], c.next)
    let ends := [Token.value, .flowEntry, .flowMappingEnd]
    let (pair, c) ←
      if c.sees [.key] then do
        let (key, c) ← nodeUnless ends false false fuel c.next
        let (value, c) ← valueNode [.flowEntry, .flowMappingEnd] false fuel c
        .ok ((key, value), c)
      else do
        let (key, c) ← node false false fuel c
        let (value, c) := c.addEmpty
        .ok ((key, value), c)
    let (pairs, c) ← flowPairs false fuel c
    return (pair :: pairs, c)

end

/-- Directives at the head of a document. Neither the version nor a handle is set twice, and the
version is the first one. -/
def directives (versioned : Bool) (set : List Text) :
    List Token → Composer → Except Fault Composer
  | .version major :: tokens, c =>
    if versioned || major != 1 then .error .malformed
    else directives true set tokens { c with tokens := tokens }
  | .handle name start :: tokens, c =>
    if set.contains name then .error .malformed
    else directives versioned (name :: set) tokens
      { c with tokens := tokens, handles := (name, start) :: c.handles }
  | .otherDirective :: tokens, c => directives versioned set tokens { c with tokens := tokens }
  | _, c => .ok c

def isDirective : Token → Bool
  | .version _ => true
  | .handle _ _ => true
  | .otherDirective => true
  | _ => false

def startsDocument (token : Token) : Bool := isDirective token || token == .documentStart

/-- The root of a document behind its start. Nothing at all is an empty node. -/
def documentRoot (fuel : Nat) (c : Composer) : Except Fault (Ref × Composer) :=
  if c.head?.all fun token => startsDocument token || token == .documentEnd then .ok c.addEmpty
  else node true false fuel c

/-- The root of the first document and what follows it. Each token takes a few calls at most. -/
def firstRoot (tokens : List Token) : Except Fault (Ref × Composer) := do
  let fuel := 4 * tokens.length + 8
  let start : Composer := { tokens }
  if tokens.head?.any startsDocument then do
    let c ← directives false [] tokens start
    let c ← c.expect .documentStart
    documentRoot fuel c
  else node true false fuel start

def document? (tokens : List Token) : Except Fault (Option (Array Node × Ref)) := do
  if tokens.isEmpty then return none
  let (root, c) ← firstRoot tokens
  let rest := { c with tokens := c.tokens.dropWhile (· == Token.documentEnd) }
  if rest.tokens.isEmpty then return some (rest.nodes, root) else .error rest.fault

end Flowchart.Yaml
