import Flowchart.Chart.Decode
import Flowchart.Text.Upper

/-!
# Sheets

What a chart says: the direction it runs in, the nodes it mentions and the links between them. A
node is mentioned as often as one likes; the first mention with a text gives it text and shape.
-/

namespace Flowchart.Chart

inductive Direction where
  | lr
  | rl
  | td
  | bt
  deriving DecidableEq, Repr

inductive Shape where
  | stadium
  | circle
  | subroutine
  | cylindrical
  | rhombus
  | rectangle
  | rounded
  | diamond
  | cloud
  | hexagon
  deriving DecidableEq, Repr

inductive EdgeStyle where
  | arrow
  | line
  | dotted
  | thick
  deriving DecidableEq, Repr

structure Mention where
  id : Text
  text : Option Text := none
  shape : Shape := .rectangle
  deriving DecidableEq, Repr

structure Link where
  source : Text
  target : Text
  label : Option Text := none
  style : EdgeStyle := .arrow
  deriving DecidableEq, Repr

structure Sheet where
  direction : Direction := .td
  mentions : List Mention := []
  links : List Link := []
  deriving DecidableEq, Repr

structure UnknownDirection where
  word : Text
  deriving DecidableEq, Repr

namespace UnknownDirection

def message (fault : UnknownDirection) : Text :=
  "Unknown direction '".toList ++ fault.word ++ "'; use LR, RL, TD, or BT".toList

end UnknownDirection

namespace Direction

def name : Direction → Text
  | lr => "LR".toList
  | rl => "RL".toList
  | td => "TD".toList
  | bt => "BT".toList

/-- Case does not matter, and `TB` is another word for `TD`. -/
def ofWord? (word : Text) : Option Direction :=
  let upper := Text.upper word
  if upper = "TB".toList then some td
  else [lr, rl, td, bt].find? (·.name = upper)

def read (word : Text) : Except UnknownDirection Direction :=
  match ofWord? word with
  | some direction => .ok direction
  | none => .error ⟨word⟩

end Direction

namespace Shape

/-- Every shape, the longer openers before the shorter ones that they begin with. -/
def all : List Shape :=
  [stadium, circle, subroutine, cylindrical, rhombus, rectangle, rounded, diamond, cloud, hexagon]

def opener : Shape → Text
  | stadium => ['(', '[']
  | circle => ['(', '(']
  | subroutine => ['[', '[']
  | cylindrical => ['[', '(']
  | rhombus => ['\x7b', '\x7b']
  | rectangle => ['[']
  | rounded => ['(']
  | diamond => ['\x7b']
  | cloud => [')']
  | hexagon => ['>']

def closer : Shape → Text
  | stadium => [']', ')']
  | circle => [')', ')']
  | subroutine => [']', ']']
  | cylindrical => [')', ']']
  | rhombus => ['\x7d', '\x7d']
  | rectangle => [']']
  | rounded => [')']
  | diamond => ['\x7d']
  | cloud => ['(']
  | hexagon => ['<']

def name : Shape → Text
  | stadium => "stadium".toList
  | circle => "circle".toList
  | subroutine => "subroutine".toList
  | cylindrical => "cylindrical".toList
  | rhombus => "rhombus".toList
  | rectangle => "rectangle".toList
  | rounded => "rounded".toList
  | diamond => "diamond".toList
  | cloud => "cloud".toList
  | hexagon => "hexagon".toList

end Shape

namespace EdgeStyle

def name : EdgeStyle → Text
  | arrow => "arrow".toList
  | line => "line".toList
  | dotted => "dotted".toList
  | thick => "thick".toList

def all : List EdgeStyle := [arrow, line, dotted, thick]

end EdgeStyle

/-- Adds a mention. Text that is there already stays. -/
def addMention (mentions : List Mention) (mention : Mention) : List Mention :=
  match mentions with
  | [] => [mention]
  | known :: rest =>
    if known.id = mention.id then
      (if known.text.isNone && mention.text.isSome then mention else known) :: rest
    else known :: addMention rest mention

def addMentions (mentions new : List Mention) : List Mention := new.foldl addMention mentions

end Flowchart.Chart
