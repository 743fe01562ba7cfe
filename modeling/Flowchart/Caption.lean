import Flowchart.Flow
import Flowchart.Text.Upper

/-!
# Captions

What a node shows: a title of one line, and the full text of all lines.
-/

namespace Flowchart

structure Caption where
  title : Text
  content : Text
  deriving DecidableEq, Repr

/-- The length of a tag such as `<br>` or `<BR />` at the very start. -/
def breakTag? (s : Text) : Option Nat :=
  match s with
  | '<' :: b :: r :: rest =>
    if (b == 'b' || b == 'B') && (r == 'r' || r == 'R') then
      let inner := Text.trimLeft rest
      let inner := Text.trimLeft ((Text.after? ['/'] inner).getD inner)
      (Text.after? ['>'] inner).map fun after => s.length - after.length
    else none
  | _ => none

def replaceBreakTags (s : Text) : Text :=
  Text.substitute (fun s => (breakTag? s).map (·, ['\n'])) 0 s

namespace Caption

def ofLines (lines : List Text) : Caption := ⟨lines.headD [], Text.join ['\n'] lines⟩

/-- Splits at line feeds and break tags; blank lines do not count. -/
def ofText (s : Text) : Caption :=
  ofLines (((replaceBreakTags s).split '\n').map Text.trim |>.filter (!·.isEmpty))

/-- A readable title for a node without one: `userName_ok` becomes `User Name ok`. -/
def titleOfId (id : Text) : Text :=
  let spaced := id.flatMap fun c =>
    if 'A' ≤ c ∧ c ≤ 'Z' then [' ', c] else if c == '_' then [' '] else [c]
  match spaced with
  | [] => []
  | c :: rest => Text.trim (Text.upperChar c ++ rest)

def ofId (id : Text) : Caption := ⟨titleOfId id, titleOfId id⟩

end Caption

end Flowchart
