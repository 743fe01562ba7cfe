import Flowchart.Yaml.Document

/-!
# Front matter

A chart may begin with a YAML mapping between two lines of dashes. The body keeps as many line
feeds as the block had, so that line numbers stay as they were.
-/

namespace Flowchart.Chart

structure FrontMatter where
  document : Yaml.Document
  body : Text
  deriving Repr

def afterNewline? (s : Text) : Option Text :=
  match s with
  | '\r' :: '\n' :: rest => some rest
  | '\n' :: rest => some rest
  | _ => none

def afterClosing? (s : Text) : Option Text := do
  let line ← afterNewline? s
  let rest ← Text.after? "---".toList line
  match Text.skipGaps rest with
  | [] => some []
  | rest => afterNewline? rest

def splitClosing? : Text → Option (Text × Text)
  | [] => none
  | c :: s =>
    match afterClosing? (c :: s) with
    | some rest => some ([], rest)
    | none => (splitClosing? s).map fun r => (c :: r.1, r.2)

def splitBlock? (s : Text) : Option (Text × Text) := do
  let rest ← Text.after? "---".toList (Text.trimLeft s)
  let inside ← afterNewline? (Text.skipGaps rest)
  splitClosing? inside

namespace FrontMatter

def read (s : Text) : Except Yaml.Fault FrontMatter :=
  match splitBlock? s with
  | none => .ok ⟨{}, s⟩
  | some (inside, rest) => do
    let document ← Yaml.Document.load inside
    return ⟨document, List.replicate (Text.newlines s - Text.newlines rest) '\n' ++ rest⟩

def keys (front : FrontMatter) : Except Yaml.Fault (List Text) :=
  front.document.pairs.mapM fun pair => front.document.display pair.1

def text? (front : FrontMatter) (key : Text) : Except Yaml.Fault (Option Text) :=
  match front.document.find? key with
  | none => .ok none
  | some ref =>
    if front.document.value? ref = some .null then .ok none
    else
      (front.document.display ref).map fun text =>
        some (Text.trim text) |>.filter (!·.isEmpty)

end FrontMatter

end Flowchart.Chart
