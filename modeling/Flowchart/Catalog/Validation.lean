import Flowchart.Catalog.Detection
import Flowchart.Flow.Soundness

/-!
# Validation

A text is valid if it reads as a sound flow. What is merely odd about the flow is a warning.
-/

namespace Flowchart

structure Validation where
  errors : List Text := []
  warnings : List Json := []
  deriving DecidableEq, Repr

inductive Interruption where
  | fault (fault : ReadFault)
  | misfit (misfit : Misfit)
  deriving DecidableEq, Repr

namespace Interruption

def message : Interruption → Text
  | fault cause => cause.message
  | misfit cause => cause.message

end Interruption

namespace Validation

def isValid (validation : Validation) : Bool := validation.errors.isEmpty

def ofFlow (extra : Flow → List Text) (flow : Flow) : Except Misfit Validation := do
  let warnings ← flow.warnings
  let graph ← flow.graph
  return {
    errors := flow.violations.map Violation.message
    warnings := warnings ++
      (((graph.shapeWarnings flow.start).map Graph.ShapeWarning.message ++
        if flow.nodes.isEmpty then ["Flow has no nodes".toList] else []) ++ extra flow).map .str }

def ofText (read : Text → Except ReadFault Flow) (extra : Flow → List Text) (text : Text) :
    Except Interruption Validation :=
  match read text with
  | .ok flow => (ofFlow extra flow).mapError .misfit
  | .error fault =>
    if fault.isRefusal then .ok { errors := [fault.message] } else .error (.fault fault)

end Validation

namespace Catalog

variable {κ : Type}

def validateAs (catalog : Catalog κ) (id text : Text) : Except Interruption Validation :=
  match catalog.format? id with
  | none => .ok { errors := [unregisteredMessage id] }
  | some format => Validation.ofText format.read (fun _ => []) text

variable [LT κ] [DecidableLT κ]

def validate (catalog : Catalog κ) (id : Option Text) (text : Text) :
    Except Interruption Validation :=
  match id.or (catalog.detect text).id? with
  | none => .ok { errors := ["Unable to detect format for validation".toList] }
  | some id => catalog.validateAs id text

end Catalog

end Flowchart
