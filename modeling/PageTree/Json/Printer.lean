import PageTree.Json.Basic
import PageTree.Text.Digit

/-!
# Writing JSON

`Json.render` writes a document as text.  A `Json.Style` fixes the separators, the indentation and
whether characters outside ASCII are escaped.
-/

namespace PageTree.Json

/-- How a document is laid out. -/
structure Style where
  /-- What stands between two items. -/
  itemSeparator : String
  /-- What stands between the name and the value of a member. -/
  keySeparator : String
  /-- The text by which each level is indented; nothing for one line. -/
  indent : Option String
  /-- Whether characters outside ASCII are escaped. -/
  asciiOnly : Bool

/-- Everything in one line, a space after each separator. -/
def Style.oneLine : Style where
  itemSeparator := ", "
  keySeparator := ": "
  indent := none
  asciiOnly := false

/-- One item a line, indented by the given number of spaces. -/
def Style.indented (spaces : Nat) : Style where
  itemSeparator := ","
  keySeparator := ": "
  indent := some (String.ofList (List.replicate spaces ' '))
  asciiOnly := false

/-- A code unit as an escape. -/
def unitEscape (n : Nat) : List Char :=
  '\\' :: 'u' :: Text.hexText 4 n

/-- A character outside ASCII as escapes of its code units. -/
def escapeWide (n : Nat) : List Char :=
  if n < 0x10000 then unitEscape n
  else unitEscape (0xd800 + (n - 0x10000) / 1024) ++ unitEscape (0xdc00 + (n - 0x10000) % 1024)

/-- A character inside a string. -/
def stringChar (asciiOnly : Bool) (c : Char) : List Char :=
  if c = '"' || c = '\\' then ['\\', c]
  else if c = '\n' then ['\\', 'n']
  else if c = '\r' then ['\\', 'r']
  else if c = '\t' then ['\\', 't']
  else if c.toNat = 8 then ['\\', 'b']
  else if c.toNat = 12 then ['\\', 'f']
  else if c.toNat < 32 then unitEscape c.toNat
  else if asciiOnly && 126 < c.toNat then escapeWide c.toNat
  else [c]

/-- A string between quotation marks. -/
def stringText (asciiOnly : Bool) (s : String) : String :=
  String.ofList ('"' :: s.toList.flatMap (stringChar asciiOnly) ++ ['"'])

/-- Texts joined by a separator. -/
def intersperse (sep : String) : List String → String
  | [] => ""
  | [s] => s
  | s :: rest => s ++ sep ++ intersperse sep rest

/-- A line break with the indentation of a level; nothing when all is in one line. -/
def Style.lineBreak (style : Style) (level : Nat) : String :=
  match style.indent with
  | none => ""
  | some unit => "\n" ++ String.join (List.replicate level unit)

/-- Written items between two brackets. -/
def Style.enclose (style : Style) (level : Nat) (opening closing : String)
    (items : List String) : String :=
  if items.isEmpty then opening ++ closing
  else
    opening ++ style.lineBreak (level + 1) ++
      intersperse (style.itemSeparator ++ style.lineBreak (level + 1)) items ++
      style.lineBreak level ++ closing

mutual

/-- A document at the given level of indentation. -/
def renderAt (style : Style) (level : Nat) : Json → String
  | null => "null"
  | bool b => if b then "true" else "false"
  | int i => toString i
  | float x => floatText x
  | str s => stringText style.asciiOnly s
  | array items => style.enclose level "[" "]" (renderItems style (level + 1) items)
  | object members =>
    style.enclose level "\x7b" "\x7d" (renderMembers style (level + 1) members)

/-- The items of an array. -/
def renderItems (style : Style) (level : Nat) : List Json → List String
  | [] => []
  | j :: js => renderAt style level j :: renderItems style level js

/-- The members of an object. -/
def renderMembers (style : Style) (level : Nat) : List (String × Json) → List String
  | [] => []
  | (k, j) :: rest =>
    (stringText style.asciiOnly k ++ style.keySeparator ++ renderAt style level j) ::
      renderMembers style level rest

end

/-- A document as text. -/
def render (style : Style) (j : Json) : String :=
  renderAt style 0 j

end PageTree.Json
