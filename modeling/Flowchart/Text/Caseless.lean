import Flowchart.Text
import Flowchart.Text.Digit

/-!
# Words in any case

A small letter stands for itself, its capital and the few signs that share its lower case.
-/

namespace Flowchart.Text

def isCaseOf (letter c : Char) : Bool :=
  c.toLower == letter ||
    (letter == 'i' && (c == '\u0130' || c == '\u0131')) ||
    (letter == 's' && c == '\u017f') || (letter == 'k' && c == '\u212a')

def afterCaseless? : Text → Text → Option Text
  | [], s => some s
  | _ :: _, [] => none
  | letter :: word, c :: s => if isCaseOf letter c then afterCaseless? word s else none

/-- Whether a word stands somewhere with no word character on either side. `inWord` tells whether
one stands before the text. -/
def hasWord (word : Text) : Bool → Text → Bool
  | _, [] => false
  | inWord, c :: s =>
    (!inWord && ((afterCaseless? word (c :: s)).any fun rest => !rest.head?.any isWord)) ||
      hasWord word (isWord c) s

end Flowchart.Text
