import Flowchart.Catalog.Builtin
import Flowchart.Catalog.Reading
import Flowchart.Catalog.Writing

/-!
# Remarks of a catalog

What the operations of a catalog note on their way, in order.
-/

namespace Flowchart.Catalog

def remark (level : Level) (message : Text) : Remark := ⟨level, .catalog, message⟩

def registerRemarks (catalog : Catalog Binary64) : List Remark :=
  catalog.entries.map fun entry =>
    remark .debug ("registered format '".toList ++ entry.id ++ ['\''])

def detectRemarks (catalog : Catalog Binary64) (text : Text) : List Remark :=
  if (Text.trim text).isEmpty then []
  else
    (catalog.entries.flatMap fun entry => entry.format.scoreRemarks text) ++
      match catalog.detect text with
      | .found id score =>
        [remark .debug ("detected format '".toList ++ id ++ "' (".toList ++
          Binary64.toFixed 2 score ++ [')'])]
      | .unknown _ => []

def readRemarks (catalog : Catalog Binary64) (id text : Text) : List Remark :=
  match catalog.format? id with
  | some format => format.readRemarks text
  | none => []

/-- The formats that a fallback tries, up to the first one with a usable flow. -/
def fallbackRemarks (detected text : Text) : List (Entry Binary64) → List Remark
  | [] => []
  | entry :: entries =>
    entry.format.readRemarks text ++
      match entry.format.read text with
      | .error fault =>
        remark .debug ("fallback parser '".toList ++ entry.id ++ "' failed: ".toList ++
          fault.message) :: fallbackRemarks detected text entries
      | .ok flow =>
        if flow.nodes.isEmpty then fallbackRemarks detected text entries
        else [remark .info ("parsed as '".toList ++ entry.id ++ "' after '".toList ++ detected ++
          "' failed".toList)]

def parseDetectedRemarks (catalog : Catalog Binary64) (detected text : Text) : List Remark :=
  catalog.readRemarks detected text ++
    match catalog.read detected text with
    | .ok flow =>
      [remark .debug ("parsed ".toList ++ detected ++ " flow: ".toList ++
        Text.ofNat flow.nodes.length ++ " nodes, ".toList ++ Text.ofNat flow.outletCount ++
        " outlets".toList)]
    | .error fault =>
      remark .debug ("parser for '".toList ++ detected ++ "' failed: ".toList ++ fault.message) ::
        if catalog.settings.fallback then
          fallbackRemarks detected text (catalog.entries.filter (·.id != detected))
        else []

def parseRemarks (catalog : Catalog Binary64) (id : Option Text) (text : Text) : List Remark :=
  match id with
  | some id => catalog.readRemarks id text
  | none =>
    catalog.detectRemarks text ++
      match (catalog.detect text).id? with
      | some detected => catalog.parseDetectedRemarks detected text
      | none => []

def validateRemarks (catalog : Catalog Binary64) (id : Option Text) (text : Text) : List Remark :=
  match id with
  | some id => catalog.readRemarks id text
  | none =>
    catalog.detectRemarks text ++
      match (catalog.detect text).id? with
      | some detected => catalog.readRemarks detected text
      | none => []

def writeRemarks (id : Text) (r : Except FormatFault Text) : List Remark :=
  match r with
  | .error (.failed _ _) => [remark .debug ("formatter for '".toList ++ id ++ "' failed".toList)]
  | _ => []

end Flowchart.Catalog
