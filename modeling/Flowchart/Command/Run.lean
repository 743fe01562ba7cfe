import Flowchart.Catalog.Remarks
import Flowchart.Catalog.Validation
import Flowchart.Command.Folder
import Flowchart.Command.Request
import Flowchart.Json.Display

/-!
# Running a command

A run reads one text, and prints lines or writes one file. A file is written only where all else has
succeeded.
-/

namespace Flowchart.Command

inductive Source where
  | missing
  | folder
  | text (s : Text)
  deriving DecidableEq, Repr

/-- Lines for the two outputs, and the file to be written with its path. A run that was interrupted
has no result. -/
structure Outcome where
  status : Nat := 0
  printed : List Text := []
  reported : List Text := []
  file : Option (Text × Text) := none
  interruption : Option Interruption := none
  deriving DecidableEq, Repr

def usage : List Text :=
  ["Usage: flowformats [--log-level LEVEL] ACTION [INPUT] [OPTIONS]".toList,
    "  detect".toList,
    "  parse [--from FORMAT] [--output FILE] [--sort-keys]".toList,
    "  convert --to FORMAT [--from FORMAT] [--direction DIRECTION] [--output FILE]".toList,
    "  validate [--format FORMAT]".toList,
    "  formats".toList]

def catalog : Catalog Binary64 := Catalog.standard defaultSettings

def styleSequence? (s : Text) : Option Nat := do
  let rest ← Text.after? ['\x1b', '['] s
  match rest.dropWhile fun c => c == ';' || c == '?' || Text.isAsciiDigit c with
  | c :: after => if c.isAlpha then some (s.length - after.length) else none
  | [] => none

/-- No output is taken for a terminal, so what is echoed loses its style sequences. Log lines and
files keep them. -/
def echoed (s : Text) : Text :=
  Text.substitute (fun s => (styleSequence? s).map (·, [])) 0 s

namespace UsageFault

def lines (fault : UsageFault) : List Text :=
  match fault.message? with
  | some message => [echoed ("Error: ".toList ++ message)]
  | none => usage

end UsageFault

namespace Outcome

def misuse (fault : UsageFault) : Outcome where
  status := 2
  reported := fault.lines

def failure (reported : List Text) : Outcome where
  status := 1
  reported := reported

def interrupted (reported : List Text) (interruption : Interruption) : Outcome where
  status := 1
  reported := reported
  interruption := some interruption

def result (reported : List Text) (output : Option Text) (s : Text) : Outcome :=
  match output.filter (!·.isEmpty) with
  | some path => { reported := reported, file := some (path, s) }
  | none => { reported := reported, printed := [echoed s] }

def unwritten (outcome : Outcome) (path : Text) (obstacle : Obstacle) : Outcome :=
  failure (outcome.reported ++
    [echoed ("error: cannot write '".toList ++ path ++ "': ".toList ++ obstacle.message ++
      ": ".toList ++ path.quoted)])

end Outcome

def errorLine (message : Text) : Text := echoed ("error: ".toList ++ message)

def warningLine (warning : Json) : Text := echoed ("warning: ".toList ++ warning.display)

def logged (level : Level) (remarks : List Remark) : List Text :=
  (remarks.filter fun remark => level.rank ≤ remark.level.rank).map Remark.line

def detectOutcome (log : List Text) (text : Text) : Outcome :=
  let detection := catalog.detect text
  let line (id : Text) := id ++ ' ' :: Binary64.toFixed 2 detection.confidence
  match detection with
  | .found id _ => { printed := [line id], reported := log }
  | .unknown reason =>
    { status := 1
      printed := [line unknownId]
      reported := log ++ [errorLine reason.message] }

def withFlow (log : List Text) (source : Option Text) (text : Text)
    (next : List Text → Flow → Outcome) : Outcome :=
  match catalog.parseIn source text with
  | .error misfit => .interrupted log (.misfit misfit)
  | .ok (.failed _ message) => .failure (log ++ ["parse error:".toList, echoed message])
  | .ok (.done _ flow warnings) => next (log ++ warnings.map warningLine) flow

def writeOutcome (level : Level) (target : Text) (options : Options) (output : Option Text)
    (log : List Text) (flow : Flow) : Outcome :=
  let written := catalog.write target options flow
  let log := log ++ logged level (Catalog.writeRemarks target written)
  match written with
  | .error fault => .failure (log ++ [errorLine fault.message])
  | .ok s => .result log output s

def validateOutcome (log : List Text) (format : Option Text) (text : Text) : Outcome :=
  match catalog.validate format text with
  | .error interruption => .interrupted log interruption
  | .ok validation =>
    let log := log ++ validation.warnings.map warningLine
    if validation.isValid then { printed := ["valid".toList], reported := log }
    else .failure (log ++ validation.errors.map errorLine)

def formatLine (format : Format Binary64) : Text :=
  Text.padRight 10 format.id ++ ' ' :: format.name ++
    (if format.write.isSome then " (parse+format)".toList else " (parse)".toList)

def directed (direction : Option Text) : Options :=
  match direction with
  | some direction => { direction := direction }
  | none => {}

namespace Job

def run (level : Level) (text : Text) (job : Job) : Outcome :=
  let ready := logged level (Catalog.registerRemarks catalog)
  let reading (format : Option Text) :=
    ready ++ logged level (Catalog.parseRemarks catalog format text)
  match job with
  | help => { printed := usage, reported := ready }
  | detect => detectOutcome (ready ++ logged level (Catalog.detectRemarks catalog text)) text
  | parse source sortKeys output =>
    withFlow (reading source) source text fun log flow =>
      .result log output (Record.write ⟨some (Text.spaces 2), sortKeys⟩ flow)
  | convert source target direction output =>
    withFlow (reading source) source text
      (writeOutcome level target (directed direction) output)
  | validate format =>
    validateOutcome (ready ++ logged level (Catalog.validateRemarks catalog format text))
      format text
  | formats => { printed := catalog.entries.map fun e => formatLine e.format, reported := ready }

end Job

def unifyBreaks : Text → Text
  | '\r' :: '\n' :: s => '\n' :: unifyBreaks s
  | '\r' :: s => '\n' :: unifyBreaks s
  | c :: s => c :: unifyBreaks s
  | [] => []

def missingInput (path : Text) : UsageFault :=
  .badInput ("File ".toList ++ path.quoted ++ " does not exist.".toList)

def folderInput (path : Text) : UsageFault :=
  .badInput ("File ".toList ++ path.quoted ++ " is a directory.".toList)

namespace Request

def run (request : Request) (source : Source) : Outcome :=
  let path := request.input.getD []
  match source with
  | .missing => .misuse (missingInput path)
  | .folder => .misuse (folderInput path)
  | .text s =>
    match request.job with
    | .error fault => .misuse fault
    | .ok job => job.run request.level (unifyBreaks s)

end Request

/-- Runs a command that finds its input through `source`, up to the writing of its file. -/
def run (source : Option Text → Source) (arguments : List Text) : Outcome :=
  match Request.read arguments with
  | .error fault => .misuse fault
  | .ok request => request.run (source request.input)

def Folder.source (folder : Folder) (incoming : Text) : Option Text → Source
  | none => .text incoming
  | some path =>
    match folder.find path with
    | .error _ => .missing
    | .ok .folder => .folder
    | .ok (.file s) => .text s

def runIn (folder : Folder) (incoming : Text) (arguments : List Text) : Outcome × Folder :=
  let outcome := run (folder.source incoming) arguments
  match outcome.file with
  | none => (outcome, folder)
  | some (path, s) =>
    match folder.target path with
    | .error obstacle => (outcome.unwritten path obstacle, folder)
    | .ok place => (outcome, folder.put place s)

end Flowchart.Command
