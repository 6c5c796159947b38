import PageTree.Fault

/-!
# Libraries of markup

Markup is read by a library, and what the program does with the elements that are found is said for
any library.  The definitions on tokens and parts of markup make one that runs.
-/

namespace PageTree

namespace Markup

/-- The value of an attribute: a text, or a list of words. -/
inductive Attribute where
  | text (s : String)
  | words (ws : List String)
  deriving DecidableEq, Repr

/-- The value of an attribute as one text; words are separated by single spaces. -/
def Attribute.value : Attribute → String
  | text s => s
  | words ws => String.intercalate " " ws

/-- An element by itself: its name, its attributes and its text. -/
structure Element where
  name : String
  attributes : List (String × Attribute)
  text : String
  deriving DecidableEq, Repr

end Markup

/-- A library that reads markup. -/
class MarkupLibrary where
  /-- All elements of a markup text in the order in which they open, or why there are none.  Nothing
  is said of a markup text whose elements hold code points that are no characters. -/
  elementsOf : String → Option (Except Fault (List Markup.Element))
  /-- Whether a value that is given as a name selects an element. -/
  selects : Value → Markup.Element → Bool

end PageTree
