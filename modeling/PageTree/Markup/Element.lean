import PageTree.Markup.Library
import PageTree.Markup.Token

/-!
# Elements of markup

The elements that tokens make, as a tree.  Open elements stand on a stack.  A closing tag closes
everything up to the nearest open element of its name, and nothing if there is none; void elements
close at once; what is open at the end is closed there.

`Part.textOf` is the text of an element: what its descendants hold, apart from the scripts, style
sheets, templates and ruby annotations in it, which only count as text of themselves.
-/

namespace PageTree.Markup

/-- What kind of text an element holds. -/
inductive TextKind where
  | plain
  | literal
  | script
  | style
  | template
  | reading
  | parenthesis
  deriving DecidableEq, Repr

/-- A part of an element: a text, or an element with its attributes and parts. -/
inductive Part where
  | text (kind : TextKind) (cs : List Char)
  | element (name : String) (attributes : List (String × String)) (parts : List Part)

/-- The kind of text that an element of a name makes of plain text, if it is not the usual one. -/
def ownKind? (name : String) : Option TextKind :=
  match name with
  | "script" => some .script
  | "style" => some .style
  | "template" => some .template
  | "rt" => some .reading
  | "rp" => some .parenthesis
  | _ => none

/-- The elements that have no content. -/
def voidElements : List String :=
  ["area", "base", "basefont", "bgsound", "br", "col", "command", "embed", "frame", "hr", "image",
    "img", "input", "isindex", "keygen", "link", "menuitem", "meta", "nextid", "param", "source",
    "spacer", "track", "wbr"]

/-- The elements in which white space counts. -/
def spacedElements : List String := ["pre", "textarea"]

/-- An element that is still open, its parts in reverse. -/
structure OpenElement where
  name : String
  attributes : List (String × String)
  parts : List Part

/-- The elements that are being built. -/
structure Assembly where
  /-- The open elements, innermost first. -/
  inner : List OpenElement
  /-- The parts of the whole, in reverse. -/
  outer : List Part
  /-- The text that has been read since the last tag. -/
  pending : List Char
  /-- The names of void elements that closed at once and whose closing tags are still to be passed
  over. -/
  passed : List String

namespace Assembly

/-- Nothing has been read. -/
def empty : Assembly where
  inner := []
  outer := []
  pending := []
  passed := []

/-- Adds a part to the innermost element. -/
def add (a : Assembly) (p : Part) : Assembly :=
  match a.inner with
  | [] => { a with outer := p :: a.outer }
  | e :: es => { a with inner := { e with parts := p :: e.parts } :: es }

/-- The kind of plain text at the place that is reached. -/
def plainKind (a : Assembly) : TextKind :=
  (a.inner.findSome? fun e => ownKind? e.name).getD .plain

/-- Whether a character counts as space between words. -/
def isSpacing (c : Char) : Bool :=
  c = ' ' || c = '\n' || c = '\t' || c = '\r' || c.toNat = 12

/-- A text as it is stored: one of spaces alone is shortened to one character where white space does
not count. -/
def condense (a : Assembly) (cs : List Char) : List Char :=
  if a.inner.any fun e => spacedElements.contains e.name then cs
  else if cs.all isSpacing then if cs.contains '\n' then ['\n'] else [' ']
  else cs

/-- Stores the text that has been read. -/
def flush (a : Assembly) : Assembly :=
  if a.pending.isEmpty then a
  else { a.add (.text a.plainKind (a.condense a.pending)) with pending := [] }

/-- Closes the innermost element. -/
def closeOne (a : Assembly) : Assembly :=
  match a.inner with
  | [] => a
  | e :: es => { a with inner := es }.add (.element e.name e.attributes e.parts.reverse)

/-- Closes a number of elements. -/
def closeMany : Nat → Assembly → Assembly
  | 0, a => a
  | n + 1, a => closeMany n a.closeOne

/-- Closes everything up to the nearest open element of a name. -/
def close (a : Assembly) (name : String) : Assembly :=
  let a := a.flush
  match a.inner.findIdx? (·.name == name) with
  | some i => closeMany (i + 1) a
  | none => a

/-- Closes an element unless its closing tag is to be passed over. -/
def closeTag (a : Assembly) (name : String) : Assembly :=
  if a.passed.contains name then { a with passed := a.passed.erase name } else a.close name

/-- An attribute set among others: a repeated one keeps its place and gets the last value. -/
def setAttribute (attributes : List (String × String)) (name value : String) :
    List (String × String) :=
  match attributes with
  | [] => [(name, value)]
  | (n, v) :: rest =>
    if n = name then (n, value) :: rest else (n, v) :: setAttribute rest name value

/-- Opens an element. -/
def openTag (a : Assembly) (name : String) (attributes : List (String × String)) : Assembly :=
  let a := a.flush
  let attributes := attributes.foldl (fun acc (k, v) => setAttribute acc k v) []
  { a with inner := ⟨name, attributes, []⟩ :: a.inner }

/-- Adds a token. -/
def step (a : Assembly) : Token → Assembly
  | .text cs => { a with pending := a.pending ++ cs }
  | .opening name attributes closed =>
    let a := a.openTag name attributes
    if closed then a.closeTag name
    else if voidElements.contains name then
      { a.close name with passed := a.passed ++ [name] }
    else a
  | .closing name => a.closeTag name
  | .literal cs =>
    let a := a.flush
    a.add (.text .literal (a.condense cs))
  | .aside => a.flush

/-- The parts of the whole once everything is closed. -/
def finish (a : Assembly) : List Part :=
  let a := a.flush
  (closeMany a.inner.length a).outer.reverse

end Assembly

namespace Part

/-- The parts that tokens make. -/
def ofTokens (ts : List Token) : List Part :=
  (ts.foldl Assembly.step Assembly.empty).finish

mutual

/-- The text of the given kinds in a part. -/
def textOf (kinds : List TextKind) : Part → List Char
  | .text kind cs => if kinds.contains kind then cs else []
  | .element _ _ parts => textOfAll kinds parts

/-- The text of the given kinds in parts. -/
def textOfAll (kinds : List TextKind) : List Part → List Char
  | [] => []
  | p :: ps => p.textOf kinds ++ textOfAll kinds ps

end

/-- The kinds of text that count as text of an element. -/
def kindsOf (name : String) : List TextKind :=
  match ownKind? name with
  | some kind => [kind]
  | none => [.plain, .literal]

/-- The attributes that hold a list of words on every element. -/
def wordAttributes : List String := ["class", "accesskey", "dropzone"]

/-- The attributes that hold a list of words on one element only, by the name of the element. -/
def wordAttributesOf : String → List String
  | "a" => ["rel", "rev"]
  | "link" => ["rel", "rev"]
  | "td" => ["headers"]
  | "th" => ["headers"]
  | "form" => ["accept-charset"]
  | "object" => ["archive"]
  | "area" => ["rel"]
  | "icon" => ["sizes"]
  | "iframe" => ["sandbox"]
  | "output" => ["for"]
  | _ => []

/-- Whether an attribute of an element holds a list of words. -/
def holdsWords (element name : String) : Bool :=
  wordAttributes.contains name || (wordAttributesOf element).contains name

/-- The value of an attribute of an element. -/
def attributeOf (element name value : String) : Attribute :=
  if holdsWords element name then .words (Text.words value) else .text value

mutual

/-- All elements in a part in the order in which they open. -/
def elements : Part → List Element
  | .text _ _ => []
  | .element name attributes parts =>
    { name
      attributes := attributes.map fun (k, v) => (k, attributeOf name k v)
      text := String.ofList (textOfAll (kindsOf name) parts) } :: elementsOfAll parts

/-- All elements in parts in the order in which they open. -/
def elementsOfAll : List Part → List Element
  | [] => []
  | p :: ps => p.elements ++ elementsOfAll ps

end

end Part

/-- All elements of a markup text in the order in which they open. -/
def elementsOf (markup : String) : Except MarkupFault (List Element) := do
  let ts ← tokens markup
  return Part.elementsOfAll (Part.ofTokens ts)

/-- Whether a value that is given as a name selects an element: a text selects its name, a list what
any of its items selects, and nothing or a truth value selects everything. -/
def selects : Value → Element → Bool
  | .str s, e => e.name == s
  | .null, _ => true
  | .bool _, _ => true
  | .list vs, e => vs.any fun
    | .str s => e.name == s
    | _ => false
  | .tuple vs, e => vs.any fun
    | .str s => e.name == s
    | _ => false
  | _, _ => false

/-- Whether a number follows that is too long, or that is a code point and no character. -/
def isStrayNumber (cs : List Char) : Bool :=
  let decimal := cs.takeWhile Char.isDigit
  let n := match number? cs with
    | some (n, _) => n
    | none => 0
  Numeral.maxDigits < decimal.length || (0xd800 ≤ n && n < 0xe000)

/-- Whether there is a reference by a number that is too long, or that is a code point and no
character. -/
def hasStrayReference : List Char → Bool
  | [] => false
  | c :: cs =>
    (c == '&' && cs.head? == some '#' && isStrayNumber (cs.drop 1)) || hasStrayReference cs

end PageTree.Markup
