import Flowchart.Json
import Flowchart.Text.Quoted

/-!
# Showing a value inside a sentence

A text stands for itself; inside lists and objects it is quoted.
-/

namespace Flowchart.Json

def kind : Json → Text
  | .null => "NoneType".toList
  | .bool _ => "bool".toList
  | .int _ => "int".toList
  | .float _ => "float".toList
  | .str _ => "str".toList
  | .arr _ => "list".toList
  | .obj _ => "dict".toList

mutual

def nested : Json → Text
  | .null => "None".toList
  | .bool b => if b then "True".toList else "False".toList
  | .int n => Text.ofInt n
  | .float x => x.toText Binary64.plainLayout
  | .str s => s.quoted
  | .arr items => '[' :: Text.join ", ".toList (nestedItems items) ++ [']']
  | .obj fields => '{' :: Text.join ", ".toList (nestedFields fields) ++ ['}']

def nestedItems : List Json → List Text
  | [] => []
  | item :: items => nested item :: nestedItems items

def nestedFields : Fields → List Text
  | [] => []
  | (key, value) :: fields =>
    (Text.quoted key ++ ": ".toList ++ nested value) :: nestedFields fields

end

def display : Json → Text
  | .str s => s
  | value => nested value

end Flowchart.Json
