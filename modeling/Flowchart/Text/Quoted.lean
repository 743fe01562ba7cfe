import Flowchart.Text.Numeral
import Flowchart.Text.Printable

/-!
# Quoted text

A text between quotes with everything that would not show escaped. The quotes are single unless
the text holds a single quote and no double one.
-/

namespace Flowchart.Text

def quoteFor (s : Text) : Char :=
  if s.contains '\'' && !s.contains '"' then '"' else '\''

def escapeInQuotes (quote c : Char) : Text :=
  if c == quote || c == '\\' then ['\\', c]
  else if c == '\t' then "\\t".toList
  else if c == '\n' then "\\n".toList
  else if c == '\r' then "\\r".toList
  else if isPrintable c then [c]
  else if c.toNat ≤ 0xff then "\\x".toList ++ hexadecimal 2 c.toNat
  else if c.toNat ≤ 0xffff then "\\u".toList ++ hexadecimal 4 c.toNat
  else "\\U".toList ++ hexadecimal 8 c.toNat

def quoted (s : Text) : Text :=
  let quote := quoteFor s
  quote :: s.flatMap (escapeInQuotes quote) ++ [quote]

end Flowchart.Text
