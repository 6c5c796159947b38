import PageTree.Markup.Entity
import PageTree.Text.Case
import PageTree.Text.Quoted

/-!
# Tokens of markup

A markup text is cut into tags, texts and asides.  The reading is tolerant: what cannot be read as
a tag counts as text.  A text is read twice.  The first pass stops at anything that might still be
incomplete, and the second one takes what is left as it stands.  Scripts and style sheets hold plain
characters up to the tag that closes them.

Only a marked section without a proper keyword makes a text no markup at all.
-/

namespace PageTree

/-- Why a text is no markup. -/
inductive MarkupFault where
  /-- A marked section does not start with a name. -/
  | noKeyword (place : List Char)
  /-- The keyword of a marked section is not known. -/
  | unknownKeyword (keyword : List Char)
  deriving DecidableEq, Repr

/-- The text of a markup fault. -/
def MarkupFault.message : MarkupFault → String
  | noKeyword place => "expected name token at " ++ Text.quote (String.ofList place)
  | unknownKeyword keyword =>
    "unknown status keyword " ++ Text.quote (String.ofList keyword) ++ " in marked section"

namespace Markup

/-- A piece of markup. -/
inductive Token where
  | text (cs : List Char)
  /-- A tag that opens an element; with `closed` it ends in a slash. -/
  | opening (name : String) (attributes : List (String × String)) (closed : Bool)
  | closing (name : String)
  /-- The content of a section of plain characters. -/
  | literal (cs : List Char)
  /-- A comment, a declaration or an instruction. -/
  | aside
  deriving DecidableEq, Repr

/-- How reading goes on at a place. -/
inductive Step where
  /-- Reading goes on with the rest, inside the given element of plain characters, if any. -/
  | go (ts : List Token) (raw : Option (List Char)) (rest : List Char)
  /-- The pass stops before the rest. -/
  | halt (ts : List Token) (rest : List Char)
  | reject (e : MarkupFault)

/-- Whether a character may stand in the name of a tag after its first letter. -/
def isTagNameChar (c : Char) : Bool :=
  !(['\t', '\n', '\r', Char.ofNat 12, ' ', '/', '>', Char.ofNat 0].contains c)

/-- A text without the blanks, and the slashes that do not end a tag, in front. -/
def skipGap : List Char → List Char
  | [] => []
  | '/' :: '>' :: rest => '/' :: '>' :: rest
  | c :: rest => if Text.isBlank c || c = '/' then skipGap rest else c :: rest

/-- Whether a character may stand in an attribute's value without quotation marks. -/
def isBareChar (c : Char) : Bool :=
  !(c = '>' || Text.isBlank c)

/-- The value that follows the name of an attribute, whether it is a complete piece after which
another attribute may follow at once, and the rest. -/
def valueAfter? (cs : List Char) : Option (List Char × Bool × List Char) :=
  let marks := cs.dropWhile Text.isBlank
  let count := (marks.takeWhile (· == '=')).length
  if count = 0 then none
  else
    let after := marks.drop count
    let value := after.dropWhile Text.isBlank
    match value with
    | q :: inner =>
      if q = '\'' || q = '"' then
        match Text.cut? q inner with
        | some (text, rest) => some (text, true, rest)
        | none =>
          -- nothing closes the quotation mark: no value, or one from the last equals sign on
          if value.length < after.length then some ([], true, value)
          else if 1 < count then
            some ('=' :: value.takeWhile isBareChar, false, value.dropWhile isBareChar)
          else none
      else some (value.takeWhile isBareChar, false, value.dropWhile isBareChar)
    | [] => some ([], false, [])

/-- Whether a character may stand in the name of an attribute after its first one. -/
def isAttributeChar (c : Char) : Bool :=
  !(Text.isBlank c || c = '/' || c = '=' || c = '>')

/-- Reads attributes; the flag says whether one may follow without a gap. -/
def readAttributes : Nat → Bool → List Char → List (String × String) × List Char
  | 0, _, cs => ([], cs)
  | fuel + 1, ready, cs =>
    let rest := skipGap cs
    let ready := ready || rest.length < cs.length
    match rest with
    | c :: tail =>
      if ready && !(Text.isBlank c || c = '/' || c = '>') then
        let name := c :: tail.takeWhile isAttributeChar
        let after := tail.dropWhile isAttributeChar
        let key := Text.lower (String.ofList name)
        match valueAfter? after with
        | some (value, next, rest) =>
          let (attributes, rest) := readAttributes fuel next rest
          ((key, unescape (String.ofList value)) :: attributes, rest)
        | none =>
          let next := name.getLast? = some '\'' || name.getLast? = some '"'
          let (attributes, rest) := readAttributes fuel next after
          ((key, "") :: attributes, rest)
      else ([], rest)
    | [] => ([], [])

/-- What to do with something incomplete: wait for the second pass, and then take it as text up to
the next angle bracket. -/
def incomplete (final : Bool) (cs : List Char) : Step :=
  if final then
    match Text.cut? '>' (cs.drop 1) with
    | some (before, rest) => .go [.text (cs.take 1 ++ before ++ ['>'])] none rest
    | none =>
      match Text.cut? '<' (cs.drop 1) with
      | some (before, rest) => .go [.text (cs.take 1 ++ before)] none ('<' :: rest)
      | none => .go [.text (cs.take 1)] none (cs.drop 1)
  else .halt [] cs

/-- The elements that hold plain characters. -/
def rawElements : List String := ["script", "style"]

/-- Reads a tag that opens an element; the text starts at its angle bracket. -/
def openingStep (final : Bool) (cs : List Char) : Step :=
  let named := cs.drop 1
  let name := named.takeWhile isTagNameChar
  let ready := name.getLast? = some '\'' || name.getLast? = some '"'
  let (attributes, rest) :=
    readAttributes (cs.length + 1) ready (named.dropWhile isTagNameChar)
  let element := Text.lower (String.ofList name)
  match rest with
  | '>' :: after =>
    let raw := if rawElements.contains element then some element.toList else none
    .go [.opening element attributes false] raw after
  | '/' :: '>' :: after => .go [.opening element attributes true] none after
  | [] => incomplete final cs
  | c :: _ =>
    if c.isAlpha || c = '=' || c = '/' then incomplete final cs
    else .go [.text (cs.take (cs.length - rest.length))] none rest

/-- Whether a character may stand in the name of a closing tag that is read strictly. -/
def isClosingChar (c : Char) : Bool :=
  c.isAlphanum || c = '-' || c = '.' || c = ':' || c = '_'

/-- The name of a closing tag and what follows the tag, given the text after its slash, if nothing
but blanks stands around the name. -/
def strictClosing? (cs : List Char) : Option (List Char × List Char) :=
  match cs.dropWhile Text.isBlank with
  | c :: tail =>
    if c.isAlpha then
      match (tail.dropWhile isClosingChar).dropWhile Text.isBlank with
      | '>' :: rest => some (c :: tail.takeWhile isClosingChar, rest)
      | _ => none
    else none
  | [] => none

/-- Reads a closing tag; the text starts at its angle bracket. -/
def closingStep (final : Bool) (cs : List Char) : Step :=
  let named := cs.drop 2
  if named.contains '>' then
    match strictClosing? named with
    | some (name, rest) => .go [.closing (Text.lower (String.ofList name))] none rest
    | none =>
      let after := (named.dropWhile (· != '>')).drop 1
      match named with
      | '>' :: rest => .go [] none rest
      | c :: _ =>
        if c.isAlpha then
          .go [.closing (Text.lower (String.ofList (named.takeWhile isTagNameChar)))] none after
        else .go [.aside] none after
      | [] => .go [] none []
  else incomplete final cs

/-- The text before and after the first place at which `p` reads something. -/
def find? (p : List Char → Option (List Char)) : List Char → Option (List Char × List Char)
  | [] => none
  | c :: cs =>
    match p (c :: cs) with
    | some rest => some ([], rest)
    | none => (find? p cs).map fun (before, rest) => (c :: before, rest)

/-- Reads characters with blanks between and after them, and then an angle bracket. -/
def endMark? (marks : List Char) (cs : List Char) : Option (List Char) :=
  match marks with
  | [] =>
    match cs.dropWhile Text.isBlank with
    | '>' :: rest => some rest
    | _ => none
  | m :: ms =>
    match cs.dropWhile Text.isBlank with
    | c :: rest => if c = m then endMark? ms rest else none
    | [] => none

/-- Reads the end of a comment: two dashes, blanks and an angle bracket. -/
def commentEnd? : List Char → Option (List Char)
  | '-' :: '-' :: rest => endMark? [] rest
  | _ => none

/-- Reads the end of a marked section with the given number of brackets. -/
def sectionEnd? (brackets : Nat) : List Char → Option (List Char)
  | ']' :: rest => endMark? (List.replicate (brackets - 1) ']') rest
  | _ => none

/-- An aside up to the end that `p` reads. -/
def asideStep (final : Bool) (cs : List Char) (start : Nat)
    (p : List Char → Option (List Char)) : Step :=
  match find? p (cs.drop start) with
  | some (_, rest) => .go [.aside] none rest
  | none => incomplete final cs

/-- Reads an angle bracket. -/
def bracket? : List Char → Option (List Char)
  | '>' :: rest => some rest
  | _ => none

/-- Whether a character may stand in a keyword after its first letter. -/
def isKeywordChar (c : Char) : Bool :=
  c.isAlphanum || c = '-' || c = '_' || c = '.'

/-- The token of a marked section with the given content. -/
def sectionToken (content : List Char) : Token :=
  if (content.take 6).map Char.toUpper = ['C', 'D', 'A', 'T', 'A', '['] then
    .literal (content.drop 6)
  else .aside

/-- Reads a marked section; the text starts at its angle bracket. -/
def sectionStep (final : Bool) (cs : List Char) : Step :=
  let body := cs.drop 3
  match body with
  | [] => incomplete final cs
  | c :: tail =>
    if c.isAlpha then
      let word := c :: tail.takeWhile isKeywordChar
      let after := tail.dropWhile isKeywordChar
      let blanks := after.takeWhile Text.isBlank
      if (after.dropWhile Text.isBlank).isEmpty then incomplete final cs
      else
        let keyword := Text.lower (String.ofList word)
        -- how many brackets close the section
        let brackets :=
          if ["temp", "cdata", "ignore", "include", "rcdata"].contains keyword then 2
          else if ["if", "else", "endif"].contains keyword then 1
          else 0
        if brackets = 0 then .reject (.unknownKeyword (word ++ blanks))
        else
          match find? (sectionEnd? brackets) body with
          | some (content, rest) => .go [sectionToken content] none rest
          | none => incomplete final cs
    else .reject (.noKeyword (cs.take 20))

/-- Reads what starts with an angle bracket and an exclamation mark. -/
def declarationStep (final : Bool) (cs : List Char) : Step :=
  match cs.drop 2 with
  | '-' :: '-' :: _ => asideStep final cs 4 commentEnd?
  | '[' :: _ => sectionStep final cs
  | rest =>
    let start := if (rest.take 7).map Char.toLower = "doctype".toList then 9 else 2
    asideStep final cs start bracket?

/-- Reads what starts with an angle bracket. -/
def bracketStep (final : Bool) (cs : List Char) : Step :=
  match cs.drop 1 with
  | [] => .halt [] cs
  | '/' :: _ => closingStep final cs
  | '?' :: _ => asideStep final cs 2 bracket?
  | '!' :: _ => declarationStep final cs
  | c :: rest =>
    if c.isAlpha then openingStep final cs else .go [.text ['<']] none (c :: rest)

/-- What a number stands for in a text: numbers below 256 are read in the old encoding. -/
def looseNumbered (n : Nat) : Char :=
  match oldCharacter? n with
  | some c => c
  | none => if (0xd800 ≤ n && n < 0xe000) || 0x10ffff < n then replacement else Char.ofNat n

/-- The number of a reference that is followed by a character other than a hexadecimal digit, and
the rest, given the text after the two marks. -/
def looseNumber? (cs : List Char) : Option (Nat × List Char) :=
  let body := match cs with
    | x :: rest => if x = 'x' || x = 'X' then rest else cs
    | [] => []
  let hex := body.length < cs.length
  let digits := body.takeWhile fun c => if hex then (Text.hexValue? c).isSome else c.isDigit
  match digits, body.drop digits.length with
  | [], _ => none
  | _, [] => none
  | _, c :: rest =>
    if (Text.hexValue? c).isSome then none
    else
      let n := if hex then hexNumber digits else Text.ofDigits 10 (digits.map fun d => d.toNat - 48)
      some (n, if c = ';' then rest else c :: rest)

/-- Reads a reference by number; the text starts at its mark. -/
def numberStep (cs : List Char) : Step :=
  match looseNumber? (cs.drop 2) with
  | some (n, rest) => .go [.text [looseNumbered n]] none rest
  | none => if cs.contains ';' then .halt [.text ['&', '#']] (cs.drop 2) else .halt [] cs

/-- Whether a character may stand in the name of a reference after its first letter. -/
def isReferenceChar (c : Char) : Bool :=
  c.isAlphanum || c = '-' || c = '.'

/-- The name of a reference and the rest, given the text after the mark.  A name that goes up to the
end of the text is cut at its last dash or dot. -/
def looseName? (cs : List Char) : Option (List Char × List Char) :=
  match cs with
  | [] => none
  | c :: tail =>
    if c.isAlpha then
      let name := c :: tail.takeWhile isReferenceChar
      match tail.dropWhile isReferenceChar with
      | ';' :: rest => some (name, rest)
      | d :: rest => some (name, d :: rest)
      | [] =>
        let last := (name.reverse.takeWhile Char.isAlphanum).length
        if last = name.length then none
        else
          let count := name.length - last - 1
          some (name.take count, name.drop count)
    else none

/-- What a reference by name stands for: the name itself with its mark if it is not known. -/
def looseNamed (name : List Char) : List Char :=
  (entity? name).getD ('&' :: name)

/-- Reads what starts with the mark of a reference. -/
def referenceStep (final : Bool) (cs : List Char) : Step :=
  match cs.drop 1 with
  | [] => .halt [] cs
  | c :: rest =>
    if c = '#' then numberStep cs
    else
      match looseName? (c :: rest) with
      | some (name, after) => .go [.text (looseNamed name)] none after
      | none =>
        if c.isAlpha then .halt [] (if final && rest.isEmpty then [c] else cs)
        else .go [.text ['&']] none (c :: rest)

/-- Reads the tag that closes an element of plain characters. -/
def rawEnd? (element : List Char) (cs : List Char) : Option (List Char) :=
  match cs with
  | '<' :: '/' :: tail =>
    let named := tail.dropWhile Text.isBlank
    if (named.take element.length).map Char.toLower = element then
      match (named.drop element.length).dropWhile Text.isBlank with
      | '>' :: rest => some rest
      | _ => none
    else none
  | _ => none

/-- A text as tokens: none for the empty one. -/
def textTokens (cs : List Char) : List Token :=
  if cs.isEmpty then [] else [.text cs]

/-- Reads one step: a run of text and what ends it. -/
def step (final : Bool) (raw : Option (List Char)) (cs : List Char) : Step :=
  match raw with
  | some element =>
    match find? (rawEnd? element) cs with
    | some (before, rest) =>
      .go (textTokens before ++ [.closing (String.ofList element)]) none rest
    | none => .halt [] cs
  | none =>
    let before := cs.takeWhile fun c => c != '<' && c != '&'
    let next : Step := match cs.drop before.length with
      | [] => .go [] none []
      | '<' :: rest => bracketStep final ('<' :: rest)
      | c :: rest => referenceStep final (c :: rest)
    match next with
    | .go ts raw rest => .go (textTokens before ++ ts) raw rest
    | .halt ts rest => .halt (textTokens before ++ ts) rest
    | .reject e => .reject e

/-- Reads a text in one pass: its tokens, the element of plain characters that is open at the end,
and the rest at which the pass stopped. -/
def scanPass (final : Bool) :
    Nat → Option (List Char) → List Char →
      Except MarkupFault (List Token × Option (List Char) × List Char)
  | 0, raw, cs => .ok ([], raw, cs)
  | _ + 1, raw, [] => .ok ([], raw, [])
  | fuel + 1, raw, c :: cs =>
    match step final raw (c :: cs) with
    | .reject e => .error e
    | .halt ts rest => .ok (ts, raw, rest)
    | .go ts raw rest =>
      match scanPass final fuel raw rest with
      | .error e => .error e
      | .ok (us, raw, rest) => .ok (ts ++ us, raw, rest)

/-- The tokens of a text. -/
def tokens (markup : String) : Except MarkupFault (List Token) := do
  let cs := markup.toList
  let (first, raw, rest) ← scanPass false (cs.length + 1) none cs
  let (second, raw, rest) ← scanPass true (cs.length + 1) raw rest
  return first ++ second ++ if raw.isSome then [] else textTokens rest

end Markup

end PageTree
