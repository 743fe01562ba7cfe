import Flowchart.Text

/-!
# Escapes in activity text

A backslash guards line feeds, semicolons, colons and itself.
-/

namespace Flowchart.Activity

def escapeChar (c : Char) : Text :=
  if c == '\\' then ['\\', '\\']
  else if c == '\n' then ['\\', 'n']
  else if c == ';' then ['\\', ';']
  else if c == ':' then ['\\', ':']
  else [c]

def escape (s : Text) : Text := s.flatMap escapeChar

/-- A backslash before any other character stands for itself. -/
def unescape : Text → Text
  | '\\' :: 'n' :: s => '\n' :: unescape s
  | '\\' :: 'N' :: s => '\n' :: unescape s
  | '\\' :: ';' :: s => ';' :: unescape s
  | '\\' :: ':' :: s => ':' :: unescape s
  | '\\' :: '\\' :: s => '\\' :: unescape s
  | c :: s => c :: unescape s
  | [] => []

end Flowchart.Activity
