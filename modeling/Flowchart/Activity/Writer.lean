import Flowchart.Activity.Outline

/-!
# Writing activity diagrams

Each line of an outline is one statement, indented by its depth.
-/

namespace Flowchart.Activity

def labelName (id : Text) : Text := "label_".toList ++ UniqueIds.sanitize id

def escaped (value : Json) : Except Misfit Text :=
  match value with
  | .str s => .ok (escape s)
  | other => .error (.notText other)

def parentheses (label : Json) : Except Misfit Text :=
  if label.isVoid then .ok []
  else (escaped label).map fun s => " (".toList ++ s ++ [')']

namespace Phrase

def text : Phrase → Except Misfit Text
  | start => .ok "start".toList
  | activity value => (escaped value).map fun s => ':' :: s ++ [';']
  | stop => .ok "stop".toList
  | ifThen condition tag => do
    return "if (".toList ++ (← escaped condition) ++ ") then".toList ++ (← parentheses tag)
  | elseIf condition tag => do
    return "elseif (".toList ++ (← escaped condition) ++ ") then".toList ++ (← parentheses tag)
  | otherwise tag => (parentheses tag).map ("else".toList ++ ·)
  | endIf => .ok "endif".toList
  | goto id => .ok ("goto ".toList ++ labelName id)
  | label id => .ok ("label ".toList ++ labelName id)

end Phrase

namespace Line

def text (line : Line) : Except Misfit Text :=
  line.phrase.text.map (Text.spaces (2 * line.depth) ++ ·)

end Line

def titleLines (flow : Flow) : Except Misfit (List Text) :=
  if flow.title.isVoid then .ok []
  else
    match flow.title with
    | .str s => .ok ["title ".toList ++ Text.replace '\n' [' '] s]
    | other => .error (.notText other)

def write (flow : Flow) : Except Misfit Text := do
  let title ← titleLines flow
  let body ←
    if flow.nodes.isEmpty then .ok []
    else do
      let graph ← flow.graph
      let lines ← (walkAll flow graph).outline.mapM Line.text
      pure (lines ++ [[]])
  return Text.join ['\n'] ("@startuml".toList :: title ++ [[]] ++ body ++ ["@enduml".toList])

end Flowchart.Activity
