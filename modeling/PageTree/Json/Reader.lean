import PageTree.Json.Basic
import PageTree.Number.Numeral

/-!
# Reading JSON

`Json.read` reads a text as one JSON document.  Besides the standard it accepts `NaN` and the
infinities.  A text that is none is refused with the position of the first character that does not
fit.
-/

namespace PageTree

namespace Json

/-- What does not fit at some place of a text. -/
inductive Misfit where
  | expectedValue
  | expectedName
  | expectedColon
  | expectedComma
  | unterminated
  | control
  | badEscape
  | badUnicode
  | extra
  | byteOrderMark
  | longInteger (digits : Nat)
  deriving DecidableEq, Repr

/-- The text of a misfit. -/
def Misfit.message : Misfit → String
  | expectedValue => "Expecting value"
  | expectedName => "Expecting property name enclosed in double quotes"
  | expectedColon => "Expecting ':' delimiter"
  | expectedComma => "Expecting ',' delimiter"
  | unterminated => "Unterminated string starting at"
  | control => "Invalid control character at"
  | badEscape => "Invalid \\escape"
  | badUnicode => "Invalid \\uXXXX escape"
  | extra => "Extra data"
  | byteOrderMark => "Unexpected UTF-8 BOM (decode using utf-8-sig)"
  | longInteger digits =>
    "Exceeds the limit (4300 digits) for integer string conversion: value has " ++
      toString digits ++ " digits; use sys.set_int_max_str_digits() to increase the limit"

/-- A step of the reader on the rest of a text: what it read with what is left, or a misfit with
the rest at which it was found. -/
abbrev Step (α : Type) := Except (Misfit × List Char) (α × List Char)

/-- A text without the white space in front. -/
def skipSpace : List Char → List Char
  | [] => []
  | c :: cs => if c = ' ' || c = '\t' || c = '\n' || c = '\r' then skipSpace cs else c :: cs

/-- The number that four hexadecimal digits denote, with what follows them. -/
def fourHex? : List Char → Option (Nat × List Char)
  | a :: b :: c :: d :: rest => do
    let w ← Text.hexValue? a
    let x ← Text.hexValue? b
    let y ← Text.hexValue? c
    let z ← Text.hexValue? d
    some (w * 4096 + x * 256 + y * 16 + z, rest)
  | _ => none

/-- The character of a code unit; half of a surrogate pair becomes the replacement character. -/
def unitChar (n : Nat) : Char :=
  if 0xd800 ≤ n && n < 0xe000 then Char.ofNat 0xfffd else Char.ofNat n

/-- The character that a one-letter escape stands for. -/
def escapeChar? : Char → Option Char
  | '"' => some '"'
  | '\\' => some '\\'
  | '/' => some '/'
  | 'b' => some (Char.ofNat 8)
  | 'f' => some (Char.ofNat 12)
  | 'n' => some '\n'
  | 'r' => some '\r'
  | 't' => some '\t'
  | _ => none

/-- The value of a second half of a surrogate pair that follows the first half `high`. -/
def joinPair? (high : Nat) : List Char → Option (Option Char × List Char)
  | '\\' :: 'u' :: rest =>
    if rest.length ≤ 4 then some (none, [])
    else
      match fourHex? rest with
      | none => none
      | some (low, after) =>
        if 0xdc00 ≤ low && low < 0xe000 then
          some (some (Char.ofNat (0x10000 + (high - 0xd800) * 1024 + (low - 0xdc00))), after)
        else some (none, [])
  | _ => some (none, [])

/-- The character of a `\u` escape, given the text after the two marks, and what follows it.  The
last argument is the text at the escape, where a misfit is reported. -/
def unicodeEscape (cs whole : List Char) : Step Char :=
  if cs.length ≤ 4 then .error (.badUnicode, whole.drop 1)
  else
    match fourHex? cs with
    | none => .error (.badUnicode, whole.drop 1)
    | some (n, rest) =>
      if 0xd800 ≤ n && n < 0xdc00 then
        -- the first half of a pair is a unit of its own unless the second follows
        match joinPair? n rest with
        | none => .error (.badUnicode, rest.drop 1)
        | some (some c, after) => .ok (c, after)
        | some (none, _) => .ok (unitChar n, rest)
      else .ok (unitChar n, rest)

/-- Reads the rest of a string after its opening quotation mark, where `start` is the text from that
mark on. -/
def readString (start : List Char) : Nat → List Char → List Char → Step String
  | 0, _, _ => .error (.unterminated, start)
  | _ + 1, _, [] => .error (.unterminated, start)
  | fuel + 1, acc, c :: cs =>
    if c = '"' then .ok (String.ofList acc.reverse, cs)
    else if c = '\\' then
      match cs with
      | [] => .error (.unterminated, start)
      | 'u' :: rest =>
        match unicodeEscape rest (c :: cs) with
        | .error e => .error e
        | .ok (d, after) => readString start fuel (d :: acc) after
      | e :: rest =>
        match escapeChar? e with
        | none => .error (.badEscape, c :: cs)
        | some d => readString start fuel (d :: acc) rest
    else if c.toNat < 0x20 then .error (.control, c :: cs)
    else readString start fuel (c :: acc) cs

/-- The ASCII digits at the start of a text, and the rest. -/
def spanDigits (cs : List Char) : List Char × List Char :=
  (cs.takeWhile Char.isDigit, cs.dropWhile Char.isDigit)

/-- The number that a text of ASCII digits denotes. -/
def digitsNat (cs : List Char) : Nat :=
  Text.ofDigits 10 (cs.map fun c => c.toNat - 48)

/-- The fraction of a number: its digits, if a point and a digit stand there. -/
def spanFraction (cs : List Char) : List Char × List Char :=
  match cs with
  | '.' :: rest => if (spanDigits rest).1.isEmpty then ([], cs) else spanDigits rest
  | _ => ([], cs)

/-- The exponent of a number, if there is one. -/
def spanExponent (cs : List Char) : Option Int × List Char :=
  match cs with
  | c :: rest =>
    if c = 'e' || c = 'E' then
      let (negative, rest) := Numeral.takeSign rest
      let (ds, after) := spanDigits rest
      if ds.isEmpty then (none, cs)
      else (some (if negative then -(digitsNat ds : Int) else digitsNat ds), after)
    else (none, cs)
  | [] => (none, cs)

/-- Reads a number without its sign. -/
def readMagnitude (negative : Bool) (start cs : List Char) : Step Json :=
  let (whole, rest) := match cs with
    | '0' :: rest => (['0'], rest)
    | _ => spanDigits cs
  if whole.isEmpty then .error (.expectedValue, start)
  else
    let (fraction, rest) := spanFraction rest
    let (exponent, rest) := spanExponent rest
    if fraction.isEmpty && exponent.isNone then
      if Numeral.maxDigits < whole.length then .error (.longInteger whole.length, start)
      else
        let n : Int := digitsNat whole
        .ok (.int (if negative then -n else n), rest)
    else
      let x := Numeral.decimalFloat (digitsNat (whole ++ fraction))
        (exponent.getD 0 - fraction.length)
      .ok (.float (if negative then -x else x), rest)

/-- What follows a word at the start of a text. -/
def afterWord? (word cs : List Char) : Option (List Char) :=
  if word.isPrefixOf cs then some (cs.drop word.length) else none

/-- The words that are documents by themselves. -/
def wordDocuments : List (List Char × Json) :=
  [("null".toList, .null), ("true".toList, .bool true), ("false".toList, .bool false),
    ("NaN".toList, .float (0.0 / 0.0)), ("Infinity".toList, .float (1.0 / 0.0)),
    ("-Infinity".toList, .float (-1.0 / 0.0))]

/-- Reads a word, if one of the list stands at the start of a text. -/
def readWord? (cs : List Char) : Option (Json × List Char) :=
  wordDocuments.findSome? fun (w, j) => (afterWord? w cs).map fun rest => (j, rest)

/-- Reads a number or one of the words. -/
def readPlain (cs : List Char) : Step Json :=
  match readWord? cs with
  | some r => .ok r
  | none =>
    match cs with
    | '-' :: rest => readMagnitude true cs rest
    | _ => readMagnitude false cs cs

mutual

/-- Reads a document. -/
def readValue : Nat → List Char → Step Json
  | 0, cs => .error (.expectedValue, cs)
  | fuel + 1, cs =>
    match cs with
    | '"' :: rest =>
      match readString cs (rest.length + 1) [] rest with
      | .error e => .error e
      | .ok (s, after) => .ok (.str s, after)
    | '[' :: rest =>
      match skipSpace rest with
      | ']' :: after => .ok (.array [], after)
      | inner => readItems fuel [] inner
    | '\x7b' :: rest =>
      match skipSpace rest with
      | '\x7d' :: after => .ok (.object [], after)
      | inner => readMembers fuel [] inner
    | _ => readPlain cs

/-- Reads the items of an array from the first one on. -/
def readItems : Nat → List Json → List Char → Step Json
  | 0, _, cs => .error (.expectedValue, cs)
  | fuel + 1, acc, cs =>
    match readValue fuel cs with
    | .error e => .error e
    | .ok (j, rest) =>
      match skipSpace rest with
      | ']' :: after => .ok (.array (j :: acc).reverse, after)
      | ',' :: after => readItems fuel (j :: acc) (skipSpace after)
      | other => .error (.expectedComma, other)

/-- Reads the members of an object from the first one on. -/
def readMembers : Nat → List (String × Json) → List Char → Step Json
  | 0, _, cs => .error (.expectedName, cs)
  | fuel + 1, acc, cs =>
    match cs with
    | '"' :: rest =>
      match readString cs (rest.length + 1) [] rest with
      | .error e => .error e
      | .ok (name, after) =>
        match skipSpace after with
        | ':' :: tail =>
          match readValue fuel (skipSpace tail) with
          | .error e => .error e
          | .ok (j, rest) =>
            match skipSpace rest with
            | '\x7d' :: after => .ok (.object ((name, j) :: acc).reverse, after)
            | ',' :: after => readMembers fuel ((name, j) :: acc) (skipSpace after)
            | other => .error (.expectedComma, other)
        | other => .error (.expectedColon, other)
    | _ => .error (.expectedName, cs)

end

end Json

/-- Why a text is no JSON document: what does not fit, and how many characters stand before it. -/
structure JsonFault where
  misfit : Json.Misfit
  position : Nat
  line : Nat
  column : Nat

namespace JsonFault

/-- A misfit found at the given rest of a text. -/
def ofRest (text : List Char) (misfit : Json.Misfit) (rest : List Char) : JsonFault :=
  let before := text.take (text.length - rest.length)
  { misfit
    position := before.length
    line := before.count '\n' + 1
    column := (before.reverse.takeWhile (· != '\n')).length + 1 }

/-- The text of a fault with its place. -/
def message (f : JsonFault) : String :=
  match f.misfit with
  | .longInteger _ => f.misfit.message
  | _ =>
    f.misfit.message ++ ": line " ++ toString f.line ++ " column " ++ toString f.column ++
      " (char " ++ toString f.position ++ ")"

end JsonFault

/-- Reads a text as one JSON document. -/
def Json.read (text : String) : Except JsonFault Json :=
  let cs := text.toList
  if cs.head? = some (Char.ofNat 0xfeff) then .error (.ofRest cs .byteOrderMark cs)
  else
    match Json.readValue (2 * cs.length + 2) (Json.skipSpace cs) with
    | .error (m, rest) => .error (.ofRest cs m rest)
    | .ok (j, rest) =>
      match Json.skipSpace rest with
      | [] => .ok j
      | other => .error (.ofRest cs .extra other)

end PageTree
