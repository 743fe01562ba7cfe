import Flowchart.Catalog.Builtin
import Flowchart.Catalog.Reading
import Flowchart.Catalog.Writing

/-!
# Conversion

From one notation into another, with the built-in formats.
-/

namespace Flowchart

inductive ConversionFault where
  | unread (format : Option Text) (message : Text)
  | unwritten (fault : FormatFault)
  | misfit (misfit : Misfit)
  deriving DecidableEq, Repr

namespace ConversionFault

def message : ConversionFault → Text
  | unread _ message => message
  | unwritten fault => fault.message
  | misfit fault => fault.message

end ConversionFault

def parseFlow (format : Option Text) (text : Text) : Except ConversionFault Flow :=
  match (Catalog.standard defaultSettings).parseIn format text with
  | .error misfit => .error (.misfit misfit)
  | .ok (.failed format message) => .error (.unread format message)
  | .ok (.done _ flow _) => .ok flow

def convert (source : Option Text) (target : Text) (options : Options) (text : Text) :
    Except ConversionFault Text := do
  let flow ← parseFlow source text
  ((Catalog.standard defaultSettings).write target options flow).mapError .unwritten

end Flowchart
