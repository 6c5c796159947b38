/-!
# Blank characters

The characters that count as white space around words and numerals, and the operations that cut a
text at them.  `trim` removes them at both ends and `words` splits a text at their runs.
-/

namespace PageTree.Text

/-- White space: the separators of Unicode and the control characters that end lines, fields and
records. -/
def isBlank (c : Char) : Bool :=
  let n := c.toNat
  (9 ≤ n && n ≤ 13) || (28 ≤ n && n ≤ 32) || n == 0x85 || n == 0xa0 || n == 0x1680 ||
    (0x2000 ≤ n && n ≤ 0x200a) || n == 0x2028 || n == 0x2029 || n == 0x202f || n == 0x205f ||
    n == 0x3000

/-- A text without the leading characters that satisfy `p`. -/
def dropLeading (p : Char → Bool) (cs : List Char) : List Char :=
  cs.dropWhile p

/-- A text without the trailing characters that satisfy `p`. -/
def dropTrailing (p : Char → Bool) (cs : List Char) : List Char :=
  (cs.reverse.dropWhile p).reverse

/-- A text without the characters at both ends that satisfy `p`. -/
def trimWhere (p : Char → Bool) (cs : List Char) : List Char :=
  dropTrailing p (dropLeading p cs)

/-- A text without the white space at both ends. -/
def trim (s : String) : String :=
  String.ofList (trimWhere isBlank s.toList)

/-- Adds a character to the first of a list of words. -/
def consWord (c : Char) : List (List Char) → List (List Char)
  | [] => [[c]]
  | w :: ws => (c :: w) :: ws

/-- The pieces of a text between the characters that satisfy `p`; a text without any is one
piece. -/
def splitWhere (p : Char → Bool) : List Char → List (List Char)
  | [] => [[]]
  | c :: cs => if p c then [] :: splitWhere p cs else consWord c (splitWhere p cs)

/-- The words of a text: its maximal runs of characters that are not blank. -/
def words (s : String) : List String :=
  ((splitWhere isBlank s.toList).filter (fun w => !w.isEmpty)).map String.ofList

/-- The pieces of a text between the occurrences of one character. -/
def splitAt (sep : Char) (s : String) : List String :=
  (splitWhere (· == sep) s.toList).map String.ofList

/-- The text before and after the first occurrence of a character, if it occurs. -/
def cut? (sep : Char) : List Char → Option (List Char × List Char)
  | [] => none
  | c :: cs => if c = sep then some ([], cs) else (cut? sep cs).map fun (a, b) => (c :: a, b)

/-- Whether the text `pre` stands at the start of a text. -/
def startsWith (pre cs : List Char) : Bool :=
  pre.isPrefixOf cs

/-- Whether a text occurs somewhere in another. -/
def occursIn (part : List Char) : List Char → Bool
  | [] => part.isEmpty
  | c :: cs => part.isPrefixOf (c :: cs) || occursIn part cs

end PageTree.Text
