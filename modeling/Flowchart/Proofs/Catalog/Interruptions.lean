import Flowchart.Proofs.Catalog.Dispatch
import Flowchart.Proofs.Catalog.Soundness

/-!
# Calls that end without a result

Readers of graph notations carry metadata and ids of their own making, so their flows can always be
reported. Two things are not caught: values of a record that are not of the kind that a report asks
for, and faults of a reader that are no refusals. Of these, a lack of stack is one.
-/

namespace Flowchart

/-! ## Flows that can be reported -/

def Node.Texted (node : Node) : Prop := ∀ outlet ∈ node.outlets, ∃ id, outlet.id = .str id

theorem Node.Texted.append {node : Node} (h : node.Texted) {outlet : Outlet} {id : Text}
    (hid : outlet.id = .str id) : Texted { node with outlets := node.outlets ++ [outlet] } :=
  List.forall_mem_append.2 ⟨h, List.forall_mem_singleton.2 ⟨id, hid⟩⟩

theorem Node.Texted.addOutlet {node : Node} (h : node.Texted) (target : Text)
    (label condition : Json) : (node.addOutlet target label condition).Texted :=
  h.append rfl

namespace Flow

end Flow

/-! ## Graph notations -/

namespace Validation

end Validation

namespace Stack

variable {stack : Stack} {text : Text} {cause : Interruption}

end Stack

/-! ## Catalogs -/

namespace Catalog

variable (stack : Stack) (settings : Settings Binary64)

/-- A list where an object of metadata should be. -/
example : (standard defaultSettings).parseAs "json".toList
    ("\x7b\"id\": \"f\", \"startNodeId\": \"a\", \"nodes\": [\x7b\"id\": \"a\"\x7d], " ++
      "\"metadata\": [1]\x7d").toList = .error (.notFields (.arr [.int 1])) := by
  decide +kernel

end Catalog

end Flowchart
