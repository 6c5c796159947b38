import PageTree.Yaml.Scalar

/-!
# YAML tokens

`Token.scan` cuts a text into tokens.  Nesting by indentation becomes explicit: where a collection
starts or ends by a change of indentation, a token marks it.  A scalar that may turn out to be the
key of a mapping is remembered by its position among the tokens, and the key mark is put in front
of it once the colon is met.

Anchors, aliases, tags and directives are refused.
-/

namespace PageTree.Yaml

/-- A token of a YAML text. -/
inductive Token where
  | documentStart
  | documentEnd
  | sequenceStart
  | mappingStart
  | blockEnd
  | listOpen
  | listClose
  | mapOpen
  | mapClose
  | entry
  | comma
  | key
  | value
  | scalar (text : List Char) (plain : Bool)
  deriving DecidableEq

/-- A token that may be a key: its position among the tokens, its place in the text, and whether it
has to be a key because of its indentation. -/
structure KeyMark where
  token : Nat
  required : Bool
  line : Nat
  column : Nat
  index : Nat

/-- The state of the scan. -/
structure Scan where
  cursor : Cursor
  tokens : List Token
  /-- The column of the innermost block collection; `-1` outside all. -/
  indent : Int
  /-- The columns of the enclosing block collections. -/
  outer : List Int
  /-- The possible key of each open bracket, innermost first, and that of the block context last. -/
  marks : List (Option KeyMark)
  /-- Whether a key may start here. -/
  keyAllowed : Bool

namespace Scan

/-- The state at the start of a text. -/
def start (cs : List Char) : Scan where
  cursor := Cursor.start cs
  tokens := []
  indent := -1
  outer := []
  marks := [none]
  keyAllowed := true

/-- Whether a bracket is open. -/
def inFlow (s : Scan) : Bool :=
  1 < s.marks.length

/-- Adds a token. -/
def push (s : Scan) (t : Token) : Scan :=
  { s with tokens := s.tokens ++ [t] }

/-- Puts a token at a position among those already there. -/
def insert (s : Scan) (i : Nat) (t : Token) : Scan :=
  { s with tokens := s.tokens.take i ++ t :: s.tokens.drop i }

/-- Forgets the possible key of the current level; fails if it had to be one. -/
def dropMark (s : Scan) : Option Scan :=
  match s.marks with
  | some m :: rest => if m.required then none else some { s with marks := none :: rest }
  | _ => some s

/-- Remembers that the next token may be a key. -/
def saveMark (s : Scan) : Option Scan :=
  if s.keyAllowed then do
    let s ← s.dropMark
    let m : KeyMark := {
      token := s.tokens.length
      required := !s.inFlow && s.indent == s.cursor.column
      line := s.cursor.line
      column := s.cursor.column
      index := s.cursor.index }
    return { s with marks := some m :: s.marks.drop 1 }
  else some s

/-- Whether a possible key is out of reach of a colon at the current place. -/
def isStale (s : Scan) (m : KeyMark) : Bool :=
  m.line != s.cursor.line || m.index + 1024 < s.cursor.index

/-- Forgets the possible keys that are out of reach; fails if one of them had to be a key. -/
def dropStale (s : Scan) : Option Scan :=
  if s.marks.any fun m => m.any fun m => s.isStale m && m.required then none
  else some { s with marks := s.marks.map fun m => m.filter fun m => !s.isStale m }

/-- Closes the block collections that are indented more than a column. -/
def unwind (s : Scan) (column : Int) : Nat → Scan
  | 0 => s
  | fuel + 1 =>
    if !s.inFlow && column < s.indent then
      unwind { s.push .blockEnd with indent := s.outer.headD (-1), outer := s.outer.drop 1 }
        column fuel
    else s

/-- Closes all block collections that are indented more than a column. -/
def unwindTo (s : Scan) (column : Int) : Scan :=
  s.unwind column (s.outer.length + 1)

/-- Opens a block collection at a column, unless one is open there. -/
def openAt (s : Scan) (column : Nat) : Bool × Scan :=
  if s.indent < column then (true, { s with indent := column, outer := s.indent :: s.outer })
  else (false, s)

/-- Goes past spaces, comments and ends of lines. -/
def skipToToken : Nat → Scan → Scan
  | 0, s => s
  | fuel + 1, s =>
    let cur := s.cursor.skipWhile (· == ' ')
    let cur := if cur.peek = some '#' then cur.skipWhile (fun c => !isBreak c) else cur
    if !cur.rest.isEmpty && atLineEnd cur.rest then
      skipToToken fuel { s with
        cursor := cur.takeBreak.2
        keyAllowed := s.keyAllowed || !s.inFlow }
    else { s with cursor := cur }

/-- Moves the cursor. -/
def move (s : Scan) (n : Nat) : Scan :=
  { s with cursor := s.cursor.advance n }

/-- A marker of the start or end of a document. -/
def marker (s : Scan) (t : Token) : Option Scan := do
  let s ← (s.unwindTo (-1)).dropMark
  return { (s.push t).move 3 with keyAllowed := false }

/-- An opening bracket. -/
def opening (s : Scan) (t : Token) : Option Scan := do
  let s ← s.saveMark
  return { (s.push t).move 1 with marks := none :: s.marks, keyAllowed := true }

/-- A closing bracket; one too many is refused. -/
def closing (s : Scan) (t : Token) : Option Scan := do
  let s ← s.dropMark
  if s.inFlow then
    return { (s.push t).move 1 with marks := s.marks.drop 1, keyAllowed := false }
  else none

/-- A comma between the items of a bracket. -/
def comma (s : Scan) : Option Scan := do
  let s ← s.dropMark
  return { (s.push .comma).move 1 with keyAllowed := true }

/-- The mark of an item of a block sequence. -/
def entry (s : Scan) : Option Scan := do
  let s ←
    if s.inFlow then some s
    else if s.keyAllowed then
      let (opened, s) := s.openAt s.cursor.column
      some (if opened then s.push .sequenceStart else s)
    else none
  let s ← s.dropMark
  return { (s.push .entry).move 1 with keyAllowed := true }

/-- The mark of an explicit key. -/
def explicitKey (s : Scan) : Option Scan := do
  let s ←
    if s.inFlow then some s
    else if s.keyAllowed then
      let (opened, s) := s.openAt s.cursor.column
      some (if opened then s.push .mappingStart else s)
    else none
  let s ← s.dropMark
  return { (s.push .key).move 1 with keyAllowed := !s.inFlow }

/-- The colon between a key and its value. -/
def colon (s : Scan) : Option Scan :=
  match s.marks with
  | some m :: rest =>
    -- what was read since the mark turns out to be a key
    let s := { s with marks := none :: rest, keyAllowed := false }
    let s := s.insert m.token .key
    let s :=
      if s.inFlow then s
      else
        let (opened, s) := s.openAt m.column
        if opened then s.insert m.token .mappingStart else s
    some ((s.push .value).move 1)
  | _ => do
    let s ←
      if s.inFlow then some s
      else if s.keyAllowed then
        let (opened, s) := s.openAt s.cursor.column
        some (if opened then s.push .mappingStart else s)
      else none
    let s := { s with keyAllowed := !s.inFlow }
    return (s.push .value).move 1

/-- A block scalar. -/
def blockScalar (s : Scan) (folded : Bool) : Option Scan := do
  let s ← s.dropMark
  let (text, cur) ← readBlock folded s.indent (s.cursor.advance 1)
  return { s.push (.scalar text false) with cursor := cur, keyAllowed := true }

/-- A quoted scalar. -/
def quotedScalar (s : Scan) (double : Bool) : Option Scan := do
  let s ← s.saveMark
  let (text, cur) ← readQuoted double (s.cursor.rest.length + 1) (s.cursor.advance 1) []
  return { s.push (.scalar text false) with cursor := cur, keyAllowed := false }

/-- A plain scalar. -/
def plainScalar (s : Scan) : Option Scan := do
  let s ← s.saveMark
  let (text, cur, ended) :=
    readPlain s.inFlow (s.indent + 1) (s.cursor.rest.length + 1) s.cursor [] [] false
  return { s.push (.scalar text true) with cursor := cur, keyAllowed := ended }

/-- The characters that start no plain scalar, whatever follows. -/
def indicators : List Char :=
  [',', '[', ']', '\x7b', '\x7d', '#', '&', '*', '!', '|', '>', '\'', '"', '%', '@',
    Char.ofNat 0x60]

/-- Whether a plain scalar may start at a text. -/
def startsPlain (inFlow : Bool) : List Char → Bool
  | [] => false
  | c :: cs =>
    if c == '-' then !atGap cs
    else if c == '?' || c == ':' then !inFlow && !atGap cs
    else !(atGap (c :: cs) || indicators.contains c)

/-- Reads one token at a place where one starts. -/
def token (s : Scan) (c : Char) (cs : List Char) : Option Scan :=
  if s.cursor.column = 0 && c = '%' then none
  else if s.cursor.column = 0 && atMarker (c :: cs) then
    s.marker (if c = '-' then .documentStart else .documentEnd)
  else if c = '[' then s.opening .listOpen
  else if c = '\x7b' then s.opening .mapOpen
  else if c = ']' then s.closing .listClose
  else if c = '\x7d' then s.closing .mapClose
  else if c = ',' then s.comma
  else if c = '-' && atGap cs then s.entry
  else if c = '?' && (s.inFlow || atGap cs) then s.explicitKey
  else if c = ':' && (s.inFlow || atGap cs) then s.colon
  else if c = '|' && !s.inFlow then s.blockScalar false
  else if c = '>' && !s.inFlow then s.blockScalar true
  else if c = '\'' then s.quotedScalar false
  else if c = '"' then s.quotedScalar true
  else if startsPlain s.inFlow (c :: cs) then s.plainScalar
  else none

/-- Reads all tokens that are left. -/
def run : Nat → Scan → Option (List Token)
  | 0, _ => none
  | fuel + 1, s => do
    let s ← (skipToToken (s.cursor.rest.length + 1) s).dropStale
    let s := s.unwindTo s.cursor.column
    match s.cursor.rest with
    | [] =>
      let s ← (s.unwindTo (-1)).dropMark
      return s.tokens
    | c :: cs =>
      let s ← s.token c cs
      run fuel s

end Scan

/-- Whether a character may occur in a YAML text. -/
def isAllowed (c : Char) : Bool :=
  let n := c.toNat
  n == 9 || n == 10 || n == 13 || (0x20 ≤ n && n ≤ 0x7e) || n == 0x85 ||
    (0xa0 ≤ n && n ≤ 0xd7ff) || (0xe000 ≤ n && n ≤ 0xfffd) || 0x10000 ≤ n

/-- The tokens of a text, if it can be cut into tokens. -/
def Token.scan (cs : List Char) : Option (List Token) :=
  if cs.all isAllowed then
    let cs := if cs.head? = some (Char.ofNat 0xfeff) then cs.drop 1 else cs
    Scan.run (cs.length + 2) (Scan.start cs)
  else none

end PageTree.Yaml
