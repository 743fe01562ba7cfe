import Flowchart.Activity.Evidence
import Flowchart.Catalog
import Flowchart.Chart.Evidence
import Flowchart.Digraph.Evidence
import Flowchart.Record.Evidence

/-!
# Built-in formats

Digraphs, charts, activity diagrams and records, in the order in which they are registered.

Some of their functions recurse as deep as a text nests. The interpreter has a limit on that, but
who calls has used a part of it already, so the texts that go beyond it are a parameter: a `Stack`.
-/

namespace Flowchart

def scoreOf (evidence : Text → Evidence) (text : Text) : Binary64 :=
  Binary64.clamp (evidence text).score

def scoreRemark (id : Text) (score : Binary64) : Remark :=
  ⟨.debug, .detection,
    "detector ".toList ++ id ++ " scored ".toList ++ Binary64.toFixed 2 score⟩

def Format.ofEvidence (id name description : Text) (evidence : Text → Evidence)
    (read : Text → Except ReadFault Flow)
    (write : Options → Flow → Except WriteFault Text) (readRemarks : Text → List Remark) :
    Format Binary64 where
  id := id
  name := name
  description := description
  scoreId := some id
  score := fun text => some (scoreOf evidence text)
  read := read
  write := some write
  scoreRemarks := fun text => [scoreRemark id (scoreOf evidence text)]
  readRemarks := readRemarks

namespace Format

def digraph : Format Binary64 :=
  ofEvidence "dot".toList "Graphviz DOT".toList "Graphviz digraph source".toList Digraph.evidence
    (fun text => (Digraph.read text).mapError .digraph)
    (fun options flow => (Digraph.write options.direction flow).mapError .misfit)
    Digraph.remarks

def chart : Format Binary64 :=
  ofEvidence "mermaid".toList "Mermaid Flowchart".toList
    "Mermaid flowchart/graph syntax with optional YAML front matter".toList Chart.evidence
    (fun text => (Chart.read text).mapError .chart)
    (fun options flow => (Chart.write options.chart flow).mapError .chart)
    Chart.remarks

def activity : Format Binary64 :=
  ofEvidence "plantuml".toList "PlantUML Activity Diagram".toList
    "PlantUML activity diagrams (new syntax) with if/elseif/else and goto/label".toList
    Activity.evidence
    (fun text => (Activity.read text).mapError .activity)
    (fun _ flow => (Activity.write flow).mapError .misfit)
    Activity.remarks

def record : Format Binary64 :=
  ofEvidence "json".toList "Flow JSON".toList "Native JSON form of a flow definition".toList
    Record.evidence
    (fun text => (Record.read text).mapError .record)
    (fun options flow => .ok (Record.write options.json flow))
    (fun _ => [])

def builtin : List (Format Binary64) := [digraph, chart, activity, record]

end Format

/-- The texts for which there is not enough stack to find their score as a record, to read them as
digraphs, and to read them as charts or records, with what is said then. -/
structure Stack where
  unscored : Text → Bool := fun _ => false
  digraph : Text → Bool := fun _ => false
  chart? : Text → Option Text := fun _ => none
  record? : Text → Option Text := fun _ => none

namespace Stack

def attempt (overflow? : Option ReadFault) (reading : Except ReadFault Flow) :
    Except ReadFault Flow :=
  match overflow? with
  | some fault => .error fault
  | none => reading

variable (stack : Stack)

/-- The reader of digraphs refuses whatever its grammar fails on. -/
def digraphFormat : Format Binary64 :=
  { Format.digraph with
    read := fun text =>
      attempt (if stack.digraph text then some (.digraph .malformed) else none)
        (Format.digraph.read text) }

def chartFormat : Format Binary64 :=
  { Format.chart with
    read := fun text => attempt ((stack.chart? text).map .overflow) (Format.chart.read text) }

def recordFormat : Format Binary64 :=
  { Format.record with
    score := fun text => if stack.unscored text then none else Format.record.score text
    read := fun text => attempt ((stack.record? text).map .overflow) (Format.record.read text) }

def formats : List (Format Binary64) :=
  [stack.digraphFormat, stack.chartFormat, Format.activity, stack.recordFormat]

end Stack

def defaultSettings : Settings Binary64 := ⟨Binary64.hundredths 30, true⟩

def builtinSource : Text := "flowformats".toList

namespace Catalog

def standard (settings : Settings Binary64) : Catalog Binary64 where
  settings := settings
  entries := Format.builtin.map fun format => ⟨format, some builtinSource⟩

def standardOn (stack : Stack) (settings : Settings Binary64) : Catalog Binary64 where
  settings := settings
  entries := stack.formats.map fun format => ⟨format, some builtinSource⟩

/-- As long as there is enough stack it makes no difference. -/
theorem standardOn_roomy (settings : Settings Binary64) :
    standardOn {} settings = standard settings := rfl

end Catalog

end Flowchart
