import Flowchart.Json

/-!
# Writing JSON

A value on one line, or spread over lines with a unit of indentation. Text is written as it is but
for quotes, backslashes and control characters.
-/

namespace Flowchart.Json

structure Style where
  indent : Option Text
  sortKeys : Bool
  deriving DecidableEq, Repr

def escapeChar (c : Char) : Text :=
  if c == '"' then "\\\"".toList
  else if c == '\\' then "\\\\".toList
  else if c == '\n' then "\\n".toList
  else if c == '\r' then "\\r".toList
  else if c == '\t' then "\\t".toList
  else if c == '\x08' then "\\b".toList
  else if c == '\x0c' then "\\f".toList
  else if c.toNat < 0x20 then "\\u".toList ++ Text.hexadecimal 4 c.toNat
  else [c]

def writeString (s : Text) : Text := '"' :: s.flatMap escapeChar ++ ['"']

def numberLayout : Binary64.Layout :=
  { Binary64.plainLayout with nan := "NaN".toList, infinity := "Infinity".toList }

def newline (unit : Text) (depth : Nat) : Text := '\n' :: (List.replicate depth unit).flatten

def enclose (style : Style) (depth : Nat) (opening closing : Char) (parts : List Text) : Text :=
  if parts.isEmpty then [opening, closing]
  else
    match style.indent with
    | none => opening :: Text.join ", ".toList parts ++ [closing]
    | some unit =>
      opening :: newline unit (depth + 1) ++
        Text.join (',' :: newline unit (depth + 1)) parts ++ newline unit depth ++ [closing]

def sortFields (fields : List (Text × Text)) : List (Text × Text) :=
  fields.mergeSort fun a b => Text.notAfter a.1 b.1

mutual

def writeAt (style : Style) (depth : Nat) : Json → Text
  | .null => "null".toList
  | .bool b => if b then "true".toList else "false".toList
  | .int n => Text.ofInt n
  | .float x => Binary64.toText numberLayout x
  | .str s => writeString s
  | .arr items => enclose style depth '[' ']' (writeItems style (depth + 1) items)
  | .obj fields =>
    let written := writeFields style (depth + 1) fields
    let ordered := if style.sortKeys then sortFields written else written
    enclose style depth '{' '}'
      (ordered.map fun field => writeString field.1 ++ ": ".toList ++ field.2)

def writeItems (style : Style) (depth : Nat) : List Json → List Text
  | [] => []
  | item :: items => writeAt style depth item :: writeItems style depth items

def writeFields (style : Style) (depth : Nat) : Fields → List (Text × Text)
  | [] => []
  | (key, value) :: fields => (key, writeAt style depth value) :: writeFields style depth fields

end

def write (style : Style) (value : Json) : Text := writeAt style 0 value

def compact : Style := ⟨none, false⟩

end Flowchart.Json
