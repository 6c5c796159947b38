import PageTree.Fault
import PageTree.Markup.EntityTable
import PageTree.Number.Numeral

/-!
# Character references

In markup a character can be given by its number, as in `&#233;`, or by a name, as in `&eacute;`.
`Markup.unescape` replaces the references in a text by what they stand for, and `Markup.escape`
replaces the characters that have a meaning in markup by references.  Decimal numbers with more
digits than are read make `Markup.unescape?` fail.

Some names also count without their semicolon, and then the longest name that fits is taken.
-/

namespace PageTree.Markup

/-- A named character. -/
structure Entity where
  name : List Char
  /-- Whether the name counts without a semicolon. -/
  isBare : Bool
  text : List Char

/-- The characters whose names escaping writes. -/
def coreEntities : List Entity :=
  [⟨['a', 'm', 'p'], true, ['&']⟩, ⟨['l', 't'], true, ['<']⟩, ⟨['g', 't'], true, ['>']⟩,
    ⟨['q', 'u', 'o', 't'], true, ['"']⟩]

/-- The number that hexadecimal digits denote. -/
def hexNumber (cs : List Char) : Nat :=
  Text.ofDigits 16 (cs.filterMap Text.hexValue?)

/-- Reads an entry of the table. -/
def readEntity (cs : List Char) : Option Entity := do
  let (name, codes) ← Text.cut? ':' cs
  let text := (Text.splitWhere (· == '+') codes).map fun c => Char.ofNat (hexNumber c)
  if name.getLast? = some '!' then some ⟨name.dropLast, true, text⟩ else some ⟨name, false, text⟩

/-- All named characters. -/
def entities : List Entity :=
  coreEntities ++ namedCharacterLines.flatMap fun line =>
    (Text.splitWhere (· == ' ') line.toList).filterMap readEntity

/-- The characters of a name, whether or not it counts without a semicolon. -/
def entity? (name : List Char) : Option (List Char) :=
  (entities.find? (·.name == name)).map (·.text)

/-- The characters of a name that is written without a semicolon. -/
def bareEntity? (name : List Char) : Option (List Char) :=
  (entities.find? fun e => e.isBare && e.name == name).map (·.text)

/-- The characters that stand at 128 to 159 in an old encoding of texts, where there are any. -/
def oldCharacters : List (Option Nat) :=
  [some 0x20ac, none, some 0x201a, some 0x0192, some 0x201e, some 0x2026, some 0x2020,
    some 0x2021, some 0x02c6, some 0x2030, some 0x0160, some 0x2039, some 0x0152, none,
    some 0x017d, none, none, some 0x2018, some 0x2019, some 0x201c, some 0x201d, some 0x2022,
    some 0x2013, some 0x2014, some 0x02dc, some 0x2122, some 0x0161, some 0x203a, some 0x0153,
    none, some 0x017e, some 0x0178]

/-- The character that a number from 128 to 159 stands for in the old encoding. -/
def oldCharacter? (n : Nat) : Option Char :=
  if 128 ≤ n && n < 160 then (oldCharacters[n - 128]?.getD none).map Char.ofNat else none

/-- The character in the place of one that cannot be given. -/
def replacement : Char := Char.ofNat 0xfffd

/-- Whether a number is no character that a text may hold. -/
def isForbidden (n : Nat) : Bool :=
  (1 ≤ n && n ≤ 8) || n == 11 || (14 ≤ n && n ≤ 31) || (127 ≤ n && n ≤ 159) ||
    (0xfdd0 ≤ n && n ≤ 0xfdef) || (0xfffe ≤ n && (n % 0x10000 == 0xfffe || n % 0x10000 == 0xffff))

/-- What a number stands for. -/
def numbered (n : Nat) : List Char :=
  if n = 0 then [replacement]
  else if n = 13 then ['\r']
  else if 128 ≤ n && n < 160 then [(oldCharacter? n).getD (Char.ofNat n)]
  else if (0xd800 ≤ n && n < 0xe000) || 0x10ffff < n then [replacement]
  else if isForbidden n then []
  else [Char.ofNat n]

/-- How many characters a semicolon at the start of a text takes. -/
def semicolon (cs : List Char) : Nat :=
  if cs.head? = some ';' then 1 else 0

/-- The number that a reference gives, with the count of its characters after the two marks. -/
def number? (cs : List Char) : Option (Nat × Nat) :=
  let decimal := cs.takeWhile Char.isDigit
  if decimal.isEmpty then
    match cs with
    | x :: rest =>
      let digits := rest.takeWhile fun c => (Text.hexValue? c).isSome
      if (x = 'x' || x = 'X') && !digits.isEmpty then
        some (hexNumber digits, digits.length + 1 + semicolon (rest.drop digits.length))
      else none
    | [] => none
  else
    some (Text.ofDigits 10 (decimal.map fun c => c.toNat - 48),
      decimal.length + semicolon (cs.drop decimal.length))

/-- Whether a character can stand in the name of a reference. -/
def isNameChar (c : Char) : Bool :=
  !(['\t', '\n', Char.ofNat 12, ' ', '<', '&', '#', ';'].contains c)

/-- The most characters in the name of a reference. -/
def nameLimit : Nat := 32

/-- The longest start of a text, of at most the given length, that is a name without a semicolon;
what it stands for and its length. -/
def longestBare? (cs : List Char) : Nat → Option (List Char × Nat)
  | 0 => none
  | n + 1 =>
    match bareEntity? (cs.take (n + 1)) with
    | some text => some (text, n + 1)
    | none => longestBare? cs n

/-- What a reference by name stands for, with the count of its characters after the mark. -/
def named? (cs : List Char) : Option (List Char × Nat) :=
  let name := (cs.take nameLimit).takeWhile isNameChar
  let closed := semicolon (cs.drop name.length) == 1
  if name.isEmpty then none
  else
    match if closed then entity? name else bareEntity? name with
    | some text => some (text, name.length + if closed then 1 else 0)
    | none => longestBare? name name.length

/-- What the reference at the start of a text stands for, given the text after its mark, with the
count of its characters there. -/
def reference? (cs : List Char) : Option (List Char × Nat) :=
  match cs with
  | '#' :: rest => (number? rest).map fun (n, count) => (numbered n, count + 1)
  | _ => named? cs

/-- Replaces references, after passing over the given number of characters. -/
def unescapeAfter : Nat → List Char → List Char
  | _, [] => []
  | n + 1, _ :: cs => unescapeAfter n cs
  | 0, c :: cs =>
    if c = '&' then
      match reference? cs with
      | some (text, n) => text ++ unescapeAfter n cs
      | none => '&' :: unescapeAfter 0 cs
    else c :: unescapeAfter 0 cs

/-- A text with its references replaced by what they stand for. -/
def unescape (s : String) : String :=
  String.ofList (unescapeAfter 0 s.toList)

/-- The number of digits of the first reference by a decimal number with more digits than are
read. -/
def longReference? : List Char → Option Nat
  | [] => none
  | c :: cs =>
    let digits := ((cs.drop 1).takeWhile Char.isDigit).length
    if c = '&' ∧ cs.head? = some '#' ∧ Numeral.maxDigits < digits then some digits
    else longReference? cs

/-- A text with its references replaced by what they stand for, if all their numbers are read. -/
def unescape? (s : String) : Except Fault String :=
  match longReference? s.toList with
  | some digits => .error (.longInteger digits)
  | none => .ok (unescape s)

/-- A character in markup: those with a meaning there as references. -/
def escapeChar (c : Char) : List Char :=
  if c = '&' then ['&', 'a', 'm', 'p', ';']
  else if c = '<' then ['&', 'l', 't', ';']
  else if c = '>' then ['&', 'g', 't', ';']
  else if c = '"' then ['&', 'q', 'u', 'o', 't', ';']
  else if c = '\'' then ['&', '#', 'x', '2', '7', ';']
  else [c]

/-- A text in markup. -/
def escape (s : String) : String :=
  String.ofList (s.toList.flatMap escapeChar)

end PageTree.Markup
