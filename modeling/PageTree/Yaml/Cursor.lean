/-!
# Reading positions

A `Cursor` is a place in a text: what is left to read, with line and column.  Lines end at a line
feed, a carriage return or one of the line separators of Unicode.
-/

namespace PageTree.Yaml

/-- A place in a text. -/
structure Cursor where
  rest : List Char
  line : Nat
  column : Nat
  index : Nat

/-- Whether a character ends a line. -/
def isBreak (c : Char) : Bool :=
  c == '\n' || c == '\r' || c.toNat == 0x85 || c.toNat == 0x2028 || c.toNat == 0x2029

/-- Whether a text is at its end, at a space, a tab or the end of a line. -/
def atGap : List Char → Bool
  | [] => true
  | c :: _ => c == ' ' || c == '\t' || isBreak c

/-- Whether a text is at its end or at the end of a line. -/
def atLineEnd : List Char → Bool
  | [] => true
  | c :: _ => isBreak c

/-- Whether a marker of the start or end of a document stands at the start of a text. -/
def atMarker (cs : List Char) : Bool :=
  (['-', '-', '-'].isPrefixOf cs || ['.', '.', '.'].isPrefixOf cs) && atGap (cs.drop 3)

namespace Cursor

/-- The start of a text. -/
def start (cs : List Char) : Cursor where
  rest := cs
  line := 0
  column := 0
  index := 0

/-- The next character, if there is one. -/
def peek (c : Cursor) : Option Char :=
  c.rest.head?

/-- The place `n` characters further on the same line. -/
def advance (c : Cursor) (n : Nat) : Cursor :=
  { c with rest := c.rest.drop n, column := c.column + n, index := c.index + n }

/-- The place after all characters from here on that satisfy `p`, none of which ends a line. -/
def skipWhile (c : Cursor) (p : Char → Bool) : Cursor :=
  c.advance (c.rest.takeWhile p).length

/-- The characters from here on that satisfy `p`. -/
def span (c : Cursor) (p : Char → Bool) : List Char :=
  c.rest.takeWhile p

/-- Goes past the end of a line, if one is here, with the character that stands for it in a
scalar. -/
def takeBreak (c : Cursor) : List Char × Cursor :=
  match c.rest with
  | '\r' :: '\n' :: rest => (['\n'], ⟨rest, c.line + 1, 0, c.index + 2⟩)
  | ch :: rest =>
    if isBreak ch then
      ([if ch.toNat = 0x2028 || ch.toNat = 0x2029 then ch else '\n'],
        ⟨rest, c.line + 1, 0, c.index + 1⟩)
    else ([], c)
  | [] => ([], c)

end Cursor

end PageTree.Yaml
