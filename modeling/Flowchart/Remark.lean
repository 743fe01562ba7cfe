import Flowchart.Text

/-!
# Remarks

What an operation notes on its way besides its result, with a level of weight and the part of the
program that it comes from.
-/

namespace Flowchart

inductive Level where
  | debug
  | info
  | warning
  | error
  deriving DecidableEq, Repr

inductive Channel where
  | catalog
  | detection
  | activityReader
  | activityMachine
  | chartReader
  | digraphReader
  deriving DecidableEq, Repr

structure Remark where
  level : Level
  channel : Channel
  message : Text
  deriving DecidableEq, Repr

namespace Level

def rank : Level → Nat
  | debug => 0
  | info => 1
  | warning => 2
  | error => 3

def name : Level → Text
  | debug => "DEBUG".toList
  | info => "INFO".toList
  | warning => "WARNING".toList
  | error => "ERROR".toList

end Level

namespace Channel

def name : Channel → Text
  | catalog => "flowformats.registry".toList
  | detection => "flowformats.formats.base".toList
  | activityReader => "flowformats.formats.plantuml.parser".toList
  | activityMachine => "flowformats.formats.plantuml.state".toList
  | chartReader => "flowformats.formats.mermaid.parser".toList
  | digraphReader => "flowformats.formats.dot.parser".toList

end Channel

namespace Remark

def line (remark : Remark) : Text :=
  remark.level.name ++ ' ' :: remark.channel.name ++ ": ".toList ++ remark.message

end Remark

end Flowchart
