import Flowchart.Command.Run

/-!
The command line: finds the input, prints what a run has to say and writes its file.
-/

namespace Flowchart.Command

partial def readAll (stream : IO.FS.Stream) (read : String) : IO String := do
  let line ← stream.getLine
  if line.isEmpty then return read else readAll stream (read ++ line)

def sourceAt (path : String) : IO Source := do
  try
    return .text (← IO.FS.readFile path).toList
  catch
    | .inappropriateType _ 21 _ => return .folder
    | _ => return .missing

def sourceOf : Option Text → IO Source
  | none => do return .text (← readAll (← IO.getStdin) "").toList
  | some path => sourceAt (String.ofList path)

def writeAt (path s : String) : IO (Option Obstacle) := do
  try
    IO.FS.writeFile path s
    return none
  catch
    | .inappropriateType _ 20 _ => return some .notFolder
    | .inappropriateType .. => return some .isFolder
    | _ => return some .absent

def settle (outcome : Outcome) : IO Outcome := do
  match outcome.file with
  | none => return outcome
  | some (path, s) =>
    match ← writeAt (String.ofList path) (String.ofList s) with
    | none => return outcome
    | some obstacle => return outcome.unwritten path obstacle

def outcomeOf (arguments : List Text) : IO Outcome := do
  match Request.read arguments with
  | .error fault => return .misuse fault
  | .ok request => return request.run (← sourceOf request.input)

def perform (arguments : List Text) : IO UInt32 := do
  let outcome ← settle (← outcomeOf arguments)
  for line in outcome.reported do
    IO.eprintln (String.ofList line)
  for line in outcome.printed do
    IO.println (String.ofList line)
  if let some interruption := outcome.interruption then
    IO.eprintln (String.ofList interruption.message)
  return outcome.status.toUInt32

end Flowchart.Command

def main (arguments : List String) : IO UInt32 :=
  Flowchart.Command.perform (arguments.map String.toList)
