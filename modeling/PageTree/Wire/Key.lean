import PageTree.Text.Blank
import PageTree.Text.Case
import PageTree.Text.Digit
import PageTree.Value.Basic

/-!
# Wire names

Keys are stored with their words separated by underscores and sent in camel case.  `Wire.recase`
turns one into the other: every word gets its first character in upper case, the rest of a word
stays, and then the whole name gets its first character in lower case.  Names that are numbers, and
names without a word, stay as they are.
-/

namespace PageTree.Wire

/-- The character between the words of a stored name. -/
def separator : Char := '_'

/-- The words of a name in camel case. -/
def joinWords (cs : List Char) : List Char :=
  Text.uncapitalize ((Text.splitWhere (· == separator) cs).flatMap Text.capitalize)

/-- A stored name as it is sent. -/
def recase (s : String) : String :=
  let cs := s.toList
  if cs.all Text.isDigit then s
  else
    match joinWords cs with
    | [] => s
    | name => String.ofList name

/-- A key as it is sent: only texts are recased. -/
def recaseKey : Key → Key
  | .str s => .str (recase s)
  | k => k

/-- A value recased as a key: only texts are. -/
def recaseValue : Value → Value
  | .str s => .str (recase s)
  | v => v

end PageTree.Wire
