import Flowchart.Catalog

/-!
# Writing with a catalog

A flow is written in a registered format that can write.
-/

namespace Flowchart

inductive FormatFault where
  | unregistered (id : Text)
  | readOnly (id : Text)
  | failed (id : Text) (fault : WriteFault)
  deriving DecidableEq, Repr

namespace FormatFault

def message : FormatFault → Text
  | unregistered id => unregisteredMessage id
  | readOnly id => "Format '".toList ++ id ++ "' does not support formatting/export".toList
  | failed id fault => "Failed to format to ".toList ++ id ++ ": ".toList ++ fault.message

end FormatFault

namespace Catalog

variable {κ : Type}

def write (catalog : Catalog κ) (id : Text) (options : Options) (flow : Flow) :
    Except FormatFault Text :=
  match catalog.format? id with
  | none => .error (.unregistered id)
  | some format =>
    match format.write with
    | none => .error (.readOnly id)
    | some write => (write options flow).mapError (.failed id)

end Catalog

end Flowchart
