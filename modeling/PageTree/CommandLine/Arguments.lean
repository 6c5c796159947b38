import PageTree.Number.Numeral
import PageTree.Text.Blank

/-!
# Arguments of the command line

`Arguments.read` reads the words of a command line: flags, options with a value and the path of a
tree.  A long name may be shortened as long as only one option starts with it, and a value may
follow its option after an equals sign.  Words after a double dash are no options.
-/

namespace PageTree.CommandLine

/-- What the words of a command line ask for. -/
structure Arguments where
  tree : Option String
  context : List String
  definitions : List String
  config : Option String
  maxDepth : Option Int
  strict : Bool
  validate : Bool
  listTypes : Bool
  docs : Bool
  serve : Bool
  host : Option String
  port : Option Int
  reload : Bool
  compact : Bool
  quiet : Bool
  debug : Bool
  deriving DecidableEq, Repr

/-- The options. -/
inductive Switch where
  | help
  | context
  | definitions
  | config
  | maxDepth
  | strict
  | validate
  | listTypes
  | docs
  | serve
  | host
  | port
  | reload
  | compact
  | quiet
  | debug
  deriving DecidableEq, Repr

/-- Why a command line is not followed: its words make no sense, or they ask for help. -/
inductive Stop where
  | misuse
  | help
  deriving DecidableEq, Repr

namespace Switch

/-- The names of the options. -/
def names : List (String × Switch) :=
  [("-h", help), ("--help", help), ("--context", context), ("--definitions", definitions),
    ("--config", config), ("--max-depth", maxDepth), ("--strict", strict),
    ("--validate", validate), ("--list-types", listTypes), ("--docs", docs), ("--serve", serve),
    ("--host", host), ("--port", port), ("--reload", reload), ("--compact", compact),
    ("--quiet", quiet), ("--debug", debug)]

/-- Whether an option has a value. -/
def hasValue : Switch → Bool
  | context => true
  | definitions => true
  | config => true
  | maxDepth => true
  | host => true
  | port => true
  | _ => false

/-- The option of a name. -/
def ofName? (name : String) : Option Switch :=
  (names.find? (·.1 == name)).map (·.2)

/-- The options whose long names start with a text. -/
def starting (text : List Char) : List Switch :=
  (names.filter fun (n, _) => text.isPrefixOf n.toList).map (·.2)

end Switch

/-- What a word is: an option, possibly with the value that is written in the same word, an option
that does not exist, the double dash after which there are no options, or a plain word. -/
inductive Word where
  | option (s : Switch) (value : Option String)
  | unknown
  | divider
  | plain (text : String)
  deriving DecidableEq, Repr

namespace Word

/-- Whether a text is a negative decimal numeral. -/
def isNegativeNumber (cs : List Char) : Bool :=
  match cs with
  | '-' :: rest =>
    let whole := rest.takeWhile Char.isDigit
    match rest.dropWhile Char.isDigit with
    | [] => !whole.isEmpty
    | '.' :: fraction => !fraction.isEmpty && fraction.all Char.isDigit
    | _ => false
  | _ => false

/-- A word whose beginning is no name of an option. -/
def other (s : String) : Word :=
  if isNegativeNumber s.toList || s.toList.contains ' ' then plain s else unknown

/-- Classifies a word by the options whose names it shortens. -/
def ofShort (s : String) : Except Stop Word :=
  match s.toList with
  | '-' :: '-' :: _ =>
    let (name, value) := match Text.cut? '=' s.toList with
      | some (n, v) => (n, some (String.ofList v))
      | none => (s.toList, none)
    match Switch.starting name with
    | [] => .ok (other s)
    | [o] => .ok (option o value)
    | _ => .error .misuse
  | '-' :: 'h' :: rest => .ok (option .help (some (String.ofList rest)))
  | _ => .ok (other s)

/-- Classifies a word. -/
def ofText (s : String) : Except Stop Word :=
  match s.toList with
  | [] => .ok (plain s)
  | [_] => .ok (plain s)
  | '-' :: _ =>
    match Switch.ofName? s, Text.cut? '=' s.toList with
    | some o, _ => .ok (option o none)
    | none, some (name, value) =>
      match Switch.ofName? (String.ofList name) with
      | some o => .ok (option o (some (String.ofList value)))
      | none => ofShort s
    | none, none => ofShort s
  | _ => .ok (plain s)

/-- Classifies words; those after a double dash are plain. -/
def ofTexts : List String → Except Stop (List Word)
  | [] => .ok []
  | s :: rest =>
    if s = "--" then .ok (divider :: rest.map plain)
    else do
      let w ← ofText s
      let ws ← ofTexts rest
      return w :: ws

end Word

namespace Arguments

/-- The arguments of an empty command line. -/
def none : Arguments where
  tree := Option.none
  context := []
  definitions := []
  config := Option.none
  maxDepth := Option.none
  strict := false
  validate := false
  listTypes := false
  docs := false
  serve := false
  host := Option.none
  port := Option.none
  reload := false
  compact := false
  quiet := false
  debug := false

/-- A whole number as the value of an option. -/
def wholeNumber (s : String) : Except Stop Int :=
  match Numeral.readInt s with
  | .ok i => .ok i
  | .error _ => .error .misuse

/-- Sets an option without a value.  Quiet and verbose logging exclude each other. -/
def setFlag (a : Arguments) : Switch → Except Stop Arguments
  | .help => .error .help
  | .strict => .ok { a with strict := true }
  | .validate => .ok { a with validate := true }
  | .listTypes => .ok { a with listTypes := true }
  | .docs => .ok { a with docs := true }
  | .serve => .ok { a with serve := true }
  | .reload => .ok { a with reload := true }
  | .compact => .ok { a with compact := true }
  | .quiet => if a.debug then .error .misuse else .ok { a with quiet := true }
  | .debug => if a.quiet then .error .misuse else .ok { a with debug := true }
  | _ => .error .misuse

/-- Sets an option with a value; the last value counts, except where all are kept. -/
def setValue (a : Arguments) (s : Switch) (value : String) : Except Stop Arguments :=
  match s with
  | .context => .ok { a with context := a.context ++ [value] }
  | .definitions => .ok { a with definitions := a.definitions ++ [value] }
  | .config => .ok { a with config := some value }
  | .maxDepth => do return { a with maxDepth := some (← wholeNumber value) }
  | .host => .ok { a with host := some value }
  | .port => do return { a with port := some (← wholeNumber value) }
  | _ => .error .misuse

/-- Reads words in turn, given whether a word could not be used. -/
def readWords (a : Arguments) (unused : Bool) : List Word → Except Stop Arguments
  | [] => if unused then .error .misuse else .ok a
  | .unknown :: rest => readWords a true rest
  | .divider :: rest => readWords a unused rest
  | .plain s :: rest =>
    match a.tree with
    | Option.none => readWords { a with tree := some s } unused rest
    | some _ => readWords a true rest
  | .option o value :: rest =>
    if o.hasValue then
      match value, rest with
      | some v, rest => do readWords (← setValue a o v) unused rest
      | Option.none, .plain v :: rest => do readWords (← setValue a o v) unused rest
      | Option.none, _ => .error .misuse
    else
      match value with
      | some _ => .error .misuse
      | Option.none => do readWords (← setFlag a o) unused rest

/-- Reads the words of a command line. -/
def read (words : List String) : Except Stop Arguments := do
  readWords none false (← Word.ofTexts words)

end Arguments

end PageTree.CommandLine
