import Flowchart.Catalog.Detection

/-!
# Reading with a catalog

A text is read in the format that it was detected to have. Where that fails, the first other format
that makes a flow with nodes of it may take its place, with a warning.
-/

namespace Flowchart

inductive Reading where
  | done (format : Text) (flow : Flow) (warnings : List Json)
  | failed (format : Option Text) (message : Text)
  deriving DecidableEq, Repr

namespace Reading

def undetectedMessage : Text :=
  "Unable to detect format. Please ensure your syntax is valid for a supported format.".toList

def failureMessage (id : Text) (fault : ReadFault) : Text :=
  "Failed to parse ".toList ++ id ++ " format: ".toList ++ fault.message

def fallbackWarning (id detected : Text) : Text :=
  "Parsed as ".toList ++ id ++ " instead of detected ".toList ++ detected

def ofFlow (id : Text) (flow : Flow) (further : List Text) : Except Misfit Reading :=
  flow.warnings.map fun warnings => .done id flow (warnings ++ further.map .str)

end Reading

namespace Catalog

variable {κ : Type}

def read (catalog : Catalog κ) (id text : Text) : Except ReadFault Flow :=
  match catalog.format? id with
  | none => .error (.unregistered id)
  | some format => format.read text

def parseAs (catalog : Catalog κ) (id text : Text) : Except Misfit Reading :=
  match catalog.read id text with
  | .ok flow => Reading.ofFlow id flow []
  | .error fault => .ok (.failed (some id) (Reading.failureMessage id fault))

def usableFlow? (text : Text) (entry : Entry κ) : Option (Text × Flow) :=
  match entry.format.read text with
  | .ok flow => if flow.nodes.isEmpty then none else some (entry.id, flow)
  | .error _ => none

def fallback? (catalog : Catalog κ) (detected text : Text) : Option (Text × Flow) :=
  if catalog.settings.fallback then
    (catalog.entries.filter (·.id != detected)).findSome? (usableFlow? text)
  else none

def parseDetected (catalog : Catalog κ) (detected text : Text) : Except Misfit Reading :=
  match catalog.read detected text with
  | .ok flow => Reading.ofFlow detected flow []
  | .error fault =>
    match catalog.fallback? detected text with
    | some (id, flow) => Reading.ofFlow id flow [Reading.fallbackWarning id detected]
    | none => .ok (.failed (some detected) (Reading.failureMessage detected fault))

variable [LT κ] [DecidableLT κ]

def parse (catalog : Catalog κ) (text : Text) : Except Misfit Reading :=
  match (catalog.detect text).id? with
  | none => .ok (.failed none Reading.undetectedMessage)
  | some detected => catalog.parseDetected detected text

def parseIn (catalog : Catalog κ) (id : Option Text) (text : Text) : Except Misfit Reading :=
  match id with
  | none => catalog.parse text
  | some id => catalog.parseAs id text

end Catalog

end Flowchart
