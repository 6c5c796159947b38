import PageTree.Number.Numeral
import PageTree.Text.Digit
import PageTree.Value.Basic
import PageTree.Yaml.Cursor
import PageTree.Yaml.Timestamp

/-!
# Scalars

The scalars of a YAML text.  The readers take a cursor at the first mark of a scalar and give its
text with the cursor after it: `readPlain` for scalars without marks, `readQuoted` for those
between quotation marks and `readBlock` for the literal and folded ones.  `plainValue?` gives the
value that a plain scalar stands for.
-/

namespace PageTree.Yaml

/-- What stands between two lines of a folded scalar: the line end that was read, unless it is an
ordinary one, and the empty lines after it; a space if there are none. -/
def foldBreaks (lineEnd breaks : List Char) : List Char :=
  (if lineEnd ≠ ['\n'] then lineEnd else if breaks = [] then [' '] else []) ++ breaks

/-- Goes past the empty lines and the spaces after the end of a line inside a plain scalar.  The
result tells whether a document marker was met. -/
def plainBreaks : Nat → Cursor → List Char → Bool × List Char × Cursor
  | 0, cur, acc => (false, acc, cur)
  | fuel + 1, cur, acc =>
    match cur.peek with
    | some ' ' => plainBreaks fuel (cur.advance 1) acc
    | some c =>
      if isBreak c then
        let (b, cur) := cur.takeBreak
        if atMarker cur.rest then (true, acc ++ b, cur) else plainBreaks fuel cur (acc ++ b)
      else (false, acc, cur)
    | none => (false, acc, cur)

/-- What stands between two words of a plain scalar, with the place after it and whether a line
ended there; nothing where the scalar ends. -/
def plainSpaces (cur : Cursor) : List Char × Cursor × Bool :=
  let blanks := cur.span (· == ' ')
  let cur := cur.skipWhile (· == ' ')
  if !cur.rest.isEmpty && atLineEnd cur.rest then
    let (lineEnd, cur) := cur.takeBreak
    if atMarker cur.rest then ([], cur, true)
    else
      let (stopped, breaks, cur) := plainBreaks (cur.rest.length + 1) cur []
      (if stopped then [] else foldBreaks lineEnd breaks, cur, true)
  else (blanks, cur, false)

/-- The length of the word of a plain scalar at the start of a text. -/
def plainWordLength (inFlow : Bool) : List Char → Nat
  | [] => 0
  | c :: cs =>
    if atGap (c :: cs) then 0
    else if c = ':' && (atGap cs ||
        (inFlow && (match cs with
          | d :: _ => [',', '[', ']', '\x7b', '\x7d'].contains d
          | [] => true))) then 0
    else if inFlow && [',', '?', '[', ']', '\x7b', '\x7d'].contains c then 0
    else plainWordLength inFlow cs + 1

/-- Reads a plain scalar; the flag of the result tells whether a line ended after its last word. -/
def readPlain (inFlow : Bool) (indent : Int) :
    Nat → Cursor → List Char → List Char → Bool → List Char × Cursor × Bool
  | 0, cur, acc, _, ended => (acc, cur, ended)
  | fuel + 1, cur, acc, spaces, ended =>
    if cur.peek = some '#' then (acc, cur, ended)
    else
      let n := plainWordLength inFlow cur.rest
      if n = 0 then (acc, cur, ended)
      else
        let acc := acc ++ spaces ++ cur.rest.take n
        let (spaces, cur, ended) := plainSpaces (cur.advance n)
        if spaces.isEmpty || cur.peek = some '#' || (!inFlow && (cur.column : Int) < indent) then
          (acc, cur, ended)
        else readPlain inFlow indent fuel cur acc spaces ended

/-- The characters that one-letter escapes stand for. -/
def escapes : List (Char × Nat) :=
  [('0', 0), ('a', 7), ('b', 8), ('t', 9), ('\t', 9), ('n', 10), ('v', 11), ('f', 12), ('r', 13),
    ('e', 27), (' ', 32), ('"', 34), ('\\', 92), ('/', 47), ('N', 0x85), ('_', 0xa0),
    ('L', 0x2028), ('P', 0x2029)]

/-- The number of hexadecimal digits that an escape takes. -/
def escapeWidth? : Char → Option Nat
  | 'x' => some 2
  | 'u' => some 4
  | 'U' => some 8
  | _ => none

/-- The number that the hexadecimal digits of a text denote. -/
def hexNumber? (cs : List Char) : Option Nat :=
  (cs.mapM Text.hexValue?).map (Text.ofDigits 16)

/-- Goes past the empty lines inside a quoted scalar; a document marker may not stand there. -/
def quotedBreaks : Nat → Cursor → List Char → Option (List Char × Cursor)
  | 0, _, _ => none
  | fuel + 1, cur, acc =>
    if atMarker cur.rest then none
    else
      let cur := cur.skipWhile fun c => c == ' ' || c == '\t'
      if !cur.rest.isEmpty && atLineEnd cur.rest then
        let (b, cur) := cur.takeBreak
        quotedBreaks fuel cur (acc ++ b)
      else some (acc, cur)

/-- Reads a quoted scalar after its opening mark. -/
def readQuoted (double : Bool) : Nat → Cursor → List Char → Option (List Char × Cursor)
  | 0, _, _ => none
  | fuel + 1, cur, acc =>
    match cur.rest with
    | [] => none
    | c :: rest =>
      if c == ' ' || c == '\t' || isBreak c then
        let isSpace := fun c => c == ' ' || c == '\t'
        let blanks := cur.span isSpace
        let cur := cur.skipWhile isSpace
        if cur.rest.isEmpty then none
        else if atLineEnd cur.rest then
          let (lineEnd, cur) := cur.takeBreak
          match quotedBreaks (cur.rest.length + 1) cur [] with
          | none => none
          | some (breaks, cur) => readQuoted double fuel cur (acc ++ foldBreaks lineEnd breaks)
        else readQuoted double fuel cur (acc ++ blanks)
      else if double then
        if c = '"' then some (acc, cur.advance 1)
        else if c = '\\' then
          match rest with
          | [] => none
          | e :: tail =>
            match escapes.find? (·.1 == e) with
            | some (_, n) => readQuoted double fuel (cur.advance 2) (acc ++ [Char.ofNat n])
            | none =>
              match escapeWidth? e with
              | some k =>
                if tail.length < k then none
                else
                  match hexNumber? (tail.take k) with
                  | none => none
                  | some n => readQuoted double fuel (cur.advance (2 + k)) (acc ++ [Char.ofNat n])
              | none =>
                if isBreak e then
                  -- lines are joined without a space where their end is escaped
                  let (_, cur) := (cur.advance 1).takeBreak
                  match quotedBreaks (cur.rest.length + 1) cur [] with
                  | none => none
                  | some (breaks, cur) => readQuoted double fuel cur (acc ++ breaks)
                else none
        else readQuoted double fuel (cur.advance 1) (acc ++ [c])
      else if c = '\'' then
        match rest with
        | '\'' :: _ => readQuoted double fuel (cur.advance 2) (acc ++ ['\''])
        | _ => some (acc, cur.advance 1)
      else readQuoted double fuel (cur.advance 1) (acc ++ [c])

/-- How the line ends after a block scalar are treated: one is kept, none or all. -/
inductive Chomping where
  | clip
  | strip
  | keep
  deriving DecidableEq

/-- The header of a block scalar: the treatment of its end and an explicit indentation. -/
def blockHeader? (cs : List Char) : Option (Chomping × Option Nat × Nat) :=
  let chomp? : Char → Option Chomping := fun c =>
    if c = '+' then some .keep else if c = '-' then some .strip else none
  let digit? : Char → Option Nat := fun c =>
    if c.isDigit then some (c.toNat - 48) else none
  let header : Chomping × Option Nat × Nat := match cs with
    | [] => (.clip, none, 0)
    | a :: rest =>
      match chomp? a, digit? a with
      | some k, _ =>
        match rest with
        | b :: _ => match digit? b with
          | some d => (k, some d, 2)
          | none => (k, none, 1)
        | [] => (k, none, 1)
      | none, some d =>
        match rest with
        | b :: _ => match chomp? b with
          | some k => (k, some d, 2)
          | none => (.clip, some d, 1)
        | [] => (.clip, some d, 1)
      | none, none => (.clip, none, 0)
  let (_, increment, width) := header
  if increment = some 0 then none
  else if atGap (cs.drop width) then some header
  else none

/-- Goes past spaces and a comment up to the end of the line, which must be there. -/
def finishLine? (cur : Cursor) : Option Cursor :=
  let cur := cur.skipWhile (· == ' ')
  let cur := if cur.peek = some '#' then cur.skipWhile (fun c => !isBreak c) else cur
  if atLineEnd cur.rest then some cur.takeBreak.2 else none

/-- Goes past the empty lines before a block scalar, with the widest indentation met. -/
def blockLeading : Nat → Cursor → List Char → Nat → List Char × Nat × Cursor
  | 0, cur, acc, widest => (acc, widest, cur)
  | fuel + 1, cur, acc, widest =>
    match cur.peek with
    | some ' ' =>
      let cur := cur.advance 1
      blockLeading fuel cur acc (max widest cur.column)
    | some c =>
      if isBreak c then
        let (b, cur) := cur.takeBreak
        blockLeading fuel cur (acc ++ b) widest
      else (acc, widest, cur)
    | none => (acc, widest, cur)

/-- The place after the indentation of a line, of at most the given width. -/
def skipIndent (indent : Nat) (cur : Cursor) : Cursor :=
  cur.advance (min (cur.span (· == ' ')).length (indent - cur.column))

/-- Goes past the empty lines inside a block scalar. -/
def blockBreaks (indent : Nat) : Nat → Cursor → List Char → List Char × Cursor
  | 0, cur, acc => (acc, cur)
  | fuel + 1, cur, acc =>
    let cur := skipIndent indent cur
    if !cur.rest.isEmpty && atLineEnd cur.rest then
      let (b, cur) := cur.takeBreak
      blockBreaks indent fuel cur (acc ++ b)
    else (acc, cur)

/-- Whether a line starts with white space. -/
def startsBlank (cur : Cursor) : Bool :=
  cur.peek == some ' ' || cur.peek == some '\t'

/-- Reads the lines of a block scalar.  The result is the text without its end, the last line end
and the empty lines after it. -/
def blockLines (folded : Bool) (indent : Nat) :
    Nat → Cursor → List Char → List Char → List Char → List Char × List Char × List Char × Cursor
  | 0, cur, acc, lineEnd, breaks => (acc, lineEnd, breaks, cur)
  | fuel + 1, cur, acc, lineEnd, breaks =>
    if cur.column = indent && !cur.rest.isEmpty then
      let firstBlank := startsBlank cur
      let line := cur.span fun c => !isBreak c
      let acc := acc ++ breaks ++ line
      let (lineEnd, cur) := (cur.advance line.length).takeBreak
      let (breaks, cur) := blockBreaks indent (cur.rest.length + 1) cur []
      if cur.column = indent && !cur.rest.isEmpty then
        -- a line end is folded only between lines that both start with text
        let joint :=
          if folded && lineEnd = ['\n'] && !firstBlank && !startsBlank cur then
            (if breaks = [] then [' '] else [])
          else lineEnd
        blockLines folded indent fuel cur (acc ++ joint) lineEnd breaks
      else (acc, lineEnd, breaks, cur)
    else (acc, lineEnd, breaks, cur)

/-- Reads a block scalar after its mark, inside a collection of the given indentation. -/
def readBlock (folded : Bool) (parent : Int) (cur : Cursor) : Option (List Char × Cursor) := do
  let (chomping, increment, width) ← blockHeader? cur.rest
  let cur ← finishLine? (cur.advance width)
  let least := (max (parent + 1) 1).toNat
  let (breaks, indent, cur) := match increment with
    | none =>
      let (breaks, widest, cur) := blockLeading (cur.rest.length + 1) cur [] 0
      (breaks, max least widest, cur)
    | some d =>
      let indent := least + d - 1
      let (breaks, cur) := blockBreaks indent (cur.rest.length + 1) cur []
      (breaks, indent, cur)
  let (text, lineEnd, breaks, cur) :=
    blockLines folded indent (cur.rest.length + 1) cur [] [] breaks
  let text := text ++ (if chomping = .strip then [] else lineEnd) ++
    (if chomping = .keep then breaks else [])
  return (text, cur)

/-- The words that stand for truth values. -/
def truthWords : List (String × Bool) :=
  [("yes", true), ("Yes", true), ("YES", true), ("no", false), ("No", false), ("NO", false),
    ("true", true), ("True", true), ("TRUE", true), ("false", false), ("False", false),
    ("FALSE", false), ("on", true), ("On", true), ("ON", true), ("off", false), ("Off", false),
    ("OFF", false)]

/-- Whether a text is made of digits below a base and underscores, at least one of them. -/
def isDigitRun (base : Nat) (cs : List Char) : Bool :=
  !cs.isEmpty && cs.all fun c => c == '_' || (Text.hexValue? c).any (· < base)

/-- The number that the digits of a text denote, underscores apart. -/
def digitRun (base : Nat) (cs : List Char) : Nat :=
  Text.ofDigits base (cs.filterMap Text.hexValue?)

/-- Whether a text is the later part of a number to the base sixty. -/
def isSixtieth (cs : List Char) : Bool :=
  match cs with
  | [a] => a.isDigit
  | [a, b] => a.isDigit && a.toNat ≤ 53 && b.isDigit
  | _ => false

/-- Whether a text starts with a decimal digit that is followed by digits and underscores only. -/
def isDecimalRun (cs : List Char) : Bool :=
  match cs with
  | c :: _ => c.isDigit && isDigitRun 10 cs
  | [] => false

/-- The whole number that an unsigned plain scalar stands for. -/
def plainMagnitude? (cs : List Char) : Option Nat :=
  match cs with
  | '0' :: 'b' :: ds => if isDigitRun 2 ds then some (digitRun 2 ds) else none
  | '0' :: 'x' :: ds => if isDigitRun 16 ds then some (digitRun 16 ds) else none
  | ['0'] => some 0
  | '0' :: ds => if isDigitRun 8 ds then some (digitRun 8 ds) else none
  | _ =>
    match Text.splitWhere (· == ':') cs with
    | [ds] => if isDecimalRun ds then some (digitRun 10 ds) else none
    | ds :: rest =>
      if isDecimalRun ds && rest.all isSixtieth then
        some (rest.foldl (fun n p => n * 60 + digitRun 10 p) (digitRun 10 ds))
      else none
    | [] => none

/-- The exponent of a plain decimal: a sign is required. -/
def plainExponent? (cs : List Char) : Option Int :=
  match cs with
  | [] => some 0
  | e :: s :: ds =>
    if (e = 'e' || e = 'E') && (s = '+' || s = '-') && !ds.isEmpty && ds.all Char.isDigit then
      some (if s = '-' then -(digitRun 10 ds : Int) else digitRun 10 ds)
    else none
  | _ => none

/-- The value of a decimal from its digits before and after the point and its exponent. -/
def decimalValue (whole fraction : List Char) (e : Int) : Float :=
  let ds := (whole ++ fraction).filterMap Text.hexValue?
  let places := (fraction.filterMap Text.hexValue?).length
  Numeral.decimalFloat (Text.ofDigits 10 ds) (e - places)

/-- The float that an unsigned plain scalar stands for, and whether it may have a sign. -/
def plainFloat? (cs : List Char) : Option (Float × Bool) := do
  let name := String.ofList cs
  if [".inf", ".Inf", ".INF"].contains name then some (1.0 / 0.0, true)
  else if [".nan", ".NaN", ".NAN"].contains name then some (0.0 / 0.0, false)
  else
    let (whole, tail) ← Text.cut? '.' cs
    let isDigitOrBar := fun c : Char => c.isDigit || c == '_'
    let fraction := tail.takeWhile isDigitOrBar
    let rest := tail.dropWhile isDigitOrBar
    if whole.isEmpty then
      if fraction.head?.any Char.isDigit then
        let e ← plainExponent? rest
        some (decimalValue [] fraction e, false)
      else none
    else
      match Text.splitWhere (· == ':') whole with
      | [ds] =>
        if isDecimalRun ds then
          let e ← plainExponent? rest
          some (decimalValue ds fraction e, true)
        else none
      | ds :: parts =>
        -- parts by sixtieths, of which only the last has a fraction
        if isDecimalRun ds && parts.all isSixtieth && rest.isEmpty then
          let high := parts.dropLast.foldl (fun n p => n * 60 + digitRun 10 p) (digitRun 10 ds)
          let low := decimalValue (parts.getLast?.getD []) fraction 0
          some (Float.ofNat (high * 60) + low, true)
        else none
      | [] => none

/-- The value that a plain scalar stands for; nothing for the two words that only have a meaning as
keys. -/
def plainValue? (text : List Char) : Option Value :=
  let name := String.ofList text
  let (sign, body) := match text with
    | '-' :: cs => (some true, cs)
    | '+' :: cs => (some false, cs)
    | cs => (none, cs)
  if name = "<<" || name = "=" then none
  else
    match truthWords.find? (·.1 == name) with
    | some (_, b) => some (.bool b)
    | none =>
      if ["", "~", "null", "Null", "NULL"].contains name then some .null
      else
        match plainMagnitude? body with
        | some n => some (.int (if sign = some true then -(n : Int) else n))
        | none =>
          match plainFloat? body with
          | some (x, signed) =>
            if sign.isSome && !signed then some (.str name)
            else some (.float (if sign = some true then -x else x))
          | none =>
            match timestamp? text with
            | some (some m) => some (.moment m)
            | _ => some (.str name)

/-- Whether a plain scalar has the form of a timestamp, but stands for no moment. -/
def isStrayTimestamp (text : List Char) : Bool :=
  timestamp? text == some none

end PageTree.Yaml
