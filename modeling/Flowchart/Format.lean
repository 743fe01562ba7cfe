import Flowchart.Activity.Reader
import Flowchart.Activity.Writer
import Flowchart.Chart.Reader
import Flowchart.Chart.Writer
import Flowchart.Digraph.Reader
import Flowchart.Digraph.Writer
import Flowchart.Record.Reader
import Flowchart.Record.Writer

/-!
# Formats

A format scores how much a text looks like it, reads texts into flows, and may write flows. A fault
of a reader is a refusal where the text itself is at fault.
-/

namespace Flowchart

inductive ReadFault where
  | unregistered (id : Text)
  | digraph (fault : Digraph.Fault)
  | chart (fault : Chart.ReadFault)
  | activity (fault : Activity.Fault)
  | record (fault : Record.Fault)
  | overflow (message : Text)
  | custom (message : Text)
  deriving DecidableEq, Repr

inductive WriteFault where
  | chart (fault : Chart.WriteFault)
  | misfit (misfit : Misfit)
  | custom (message : Text)
  deriving DecidableEq, Repr

def unregisteredMessage (id : Text) : Text :=
  "Format '".toList ++ id ++ "' is not registered".toList

namespace ReadFault

def message : ReadFault → Text
  | unregistered id => unregisteredMessage id
  | digraph fault => fault.message
  | chart fault => fault.message
  | activity fault => fault.message
  | record fault => fault.message
  | overflow message => message
  | custom message => message

/-- Numbers that name no character, values that YAML cannot build, integers of too many digits and
recursion that went too deep are no refusals. -/
def isRefusal : ReadFault → Bool
  | unregistered _ => false
  | chart (.frontMatter fault) => fault = .malformed
  | chart (.line ⟨.badCode _, _⟩) => false
  | record (.syntaxFault ⟨.hugeInteger _, _⟩ _) => false
  | record (.missing _) => false
  | overflow _ => false
  | _ => true

end ReadFault

namespace WriteFault

def message : WriteFault → Text
  | chart fault => fault.message
  | misfit fault => fault.message
  | custom message => message

end WriteFault

/-- How flows are written. Each format takes what concerns it. -/
structure Options where
  direction : Text := "TD".toList
  labelLimit : Int := 50
  highlight : Option Chart.Highlight := none
  json : Json.Style := ⟨some (Text.spaces 2), false⟩
  deriving DecidableEq, Repr

namespace Options

def chart (options : Options) : Chart.Style where
  direction := options.direction
  limit := options.labelLimit
  highlight := options.highlight

end Options

/-- A format whose scores are of type `κ`. The score of a text is missing where finding it
fails. -/
structure Format (κ : Type) where
  id : Text
  name : Text
  description : Text := []
  /-- The id that the scores go by, where they go by one of their own. -/
  scoreId : Option Text
  score : Text → Option κ
  /-- The id that a text is found to have by its score: the format's own, unless the scores name
  another. -/
  foundId : Text → Text := fun _ => id
  read : Text → Except ReadFault Flow
  write : Option (Options → Flow → Except WriteFault Text) := none
  scoreRemarks : Text → List Remark := fun _ => []
  readRemarks : Text → List Remark := fun _ => []

end Flowchart
