import Flowchart.Digraph.Token

/-!
# Statements of digraphs

A graph is a list of statements in braces. Braces nest, and a whole group may stand at an end of an
edge.
-/

namespace Flowchart.Digraph

abbrev Attributes := List (Text × Option Text)

inductive Subject where
  | graph
  | node
  | edge
  deriving DecidableEq, Repr

mutual

inductive Statement where
  | assignment (key value : Text)
  | defaults (subject : Subject) (attributes : Attributes)
  | node (id : Text) (attributes : Attributes)
  | edges (first : Terminal) (others : List Terminal) (attributes : Attributes)
  | group (statements : List Statement)
  deriving Repr

inductive Terminal where
  | node (id : Text) (ports : List Text)
  | group (statements : List Statement)
  deriving Repr

end

structure Drawing where
  keyword : Text
  name : Option Text
  statements : List Statement
  deriving Repr

namespace Subject

def word : Subject → Text
  | graph => "graph".toList
  | node => "node".toList
  | edge => "edge".toList

def all : List Subject := [graph, node, edge]

end Subject

def attribute? (s : Text) : Option ((Text × Option Text) × Text) :=
  (id? s).map fun (key, rest) =>
    match (mark? ['='] rest).bind value? with
    | some (value, rest) => ((key, some value), skipMark [','] rest)
    | none => ((key, none), skipMark [','] rest)

def bracket? (s : Text) : Option (Attributes × Text) :=
  match mark? ['['] s with
  | none => none
  | some rest =>
    let (attributes, rest) := many attribute? rest
    (mark? [']'] rest).map (attributes, ·)

def brackets (s : Text) : Attributes × Text :=
  let (lists, rest) := many bracket? s
  (lists.flatten, rest)

def port? (s : Text) : Option (Text × Text) := (mark? [':'] s).bind id?

def nodeTerminal? (s : Text) : Option (Terminal × Text) :=
  match id? s with
  | none => none
  | some (id, rest) =>
    match port? rest with
    | none => some (.node id [], rest)
    | some (port, rest) =>
      match port? rest with
      | none => some (.node id [port], rest)
      | some (compass, rest) => some (.node id [port, compass], rest)

def braces? (statement? : Text → Option (Statement × Text)) (s : Text) :
    Option (List Statement × Text) :=
  match mark? ['\x7b'] s with
  | none => none
  | some rest =>
    let (statements, rest) :=
      many (fun s => (statement? s).map fun r => (r.1, skipMark [';'] r.2)) rest
    (mark? ['\x7d'] rest).map fun rest => (statements, skipMark [';'] rest)

def name? (s : Text) : Option Text × Text :=
  match id? s with
  | some (name, rest) => (some name, rest)
  | none => (none, s)

/-- A group that is called a subgraph, or one of braces alone. -/
def group? (statement? : Text → Option (Statement × Text)) (s : Text) :
    Option (List Statement × Text) :=
  ((keyword? "subgraph".toList s).bind fun rest => braces? statement? (name? rest).2).or
    (braces? statement? s)

def terminal? (statement? : Text → Option (Statement × Text)) (s : Text) :
    Option (Terminal × Text) :=
  match group? statement? s with
  | some (statements, rest) => some (.group statements, rest)
  | none => nodeTerminal? s

def assignment? (s : Text) : Option (Statement × Text) :=
  match id? s with
  | none => none
  | some (key, rest) =>
    ((mark? ['='] rest).bind value?).map fun r => (.assignment key r.1, r.2)

def arrow? (s : Text) : Option Text := (mark? "--".toList s).or (mark? "->".toList s)

def defaults? (s : Text) : Option (Statement × Text) :=
  Subject.all.findSome? fun subject =>
    match keyword? subject.word s with
    | none => none
    | some rest =>
      match bracket? rest with
      | none => none
      | some _ =>
        let (attributes, rest) := brackets rest
        some (.defaults subject attributes, rest)

def alone (s : Text) : Terminal × Text → Statement × Text
  | (.group statements, rest) => (.group statements, rest)
  | (.node id _, rest) =>
    match defaults? s with
    | some r => r
    | none =>
      let (attributes, rest) := brackets rest
      (.node id attributes, skipMark [';'] rest)

/-- One statement; `depth` bounds how deep braces may nest. -/
def statement? : Nat → Text → Option (Statement × Text)
  | 0, _ => none
  | depth + 1, s =>
    (assignment? s).or <|
      match terminal? (statement? depth) s with
      | none => none
      | some (first, rest) =>
        match many (fun s => (arrow? s).bind (terminal? (statement? depth))) rest with
        | ([], _) => some (alone s (first, rest))
        | (others, rest) =>
          let (attributes, rest) := brackets rest
          some (.edges first others attributes, rest)

def graphKeyword? (s : Text) : Option (Text × Text) :=
  ["graph".toList, "digraph".toList].findSome? fun word => (keyword? word s).map (word, ·)

/-- Reads a graph. Every brace takes a character, so its length bounds the depth. -/
def drawing? (s : Text) : Option (Drawing × Text) :=
  match graphKeyword? ((keyword? "strict".toList s).getD s) with
  | none => none
  | some (keyword, rest) =>
    let (name, rest) := name? rest
    (braces? (statement? s.length) rest).map fun r => (⟨keyword, name, r.1⟩, r.2)

def drawings (s : Text) : List Drawing := (many drawing? s).1

end Flowchart.Digraph
