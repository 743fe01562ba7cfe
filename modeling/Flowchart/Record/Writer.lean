import Flowchart.Json.Writer
import Flowchart.Record.Reader

/-!
# Writing records

A record holds everything that a flow does. A flow without a title gets the default one.
-/

namespace Flowchart.Record

def toJson (flow : Flow) : Json :=
  .obj (Flow.toFields { flow with title := flow.title.orElse defaultTitle })

def write (style : Json.Style) (flow : Flow) : Text := Json.write style (toJson flow)

end Flowchart.Record
