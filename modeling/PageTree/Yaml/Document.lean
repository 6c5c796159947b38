import PageTree.Value.Equality
import PageTree.Yaml.Token

/-!
# YAML documents

`Yaml.read` reads a text as one YAML document and gives the value it stands for, unless the text
refers to a moment that there is not (`Yaml.hasStrayTimestamp`).  The tokens are
read by recursive descent; each function consumes the tokens of one construct and gives what is
left.  A mapping keeps its entries in order, and of two entries with one key the later one wins in
the earlier one's place.
-/

namespace PageTree.Yaml

/-- The value of a scalar. -/
def scalarValue? (text : List Char) (plain : Bool) : Option Value :=
  if plain then plainValue? text else some (.str (String.ofList text))

/-- The key of an entry before its value is known: a key proper, or the mark that merges mappings
into the one it stands in. -/
inductive EntryKey where
  | key (k : Key)
  | merge

/-- The key that the tokens of a scalar stand for. -/
def scalarKey? (text : List Char) (plain : Bool) : Option EntryKey :=
  if plain && text = ['<', '<'] then some .merge
  else if plain && text = ['='] then some (.key (.str "="))
  else do
    let v ← scalarValue? text plain
    let k ← v.toKey?
    return .key k

/-- The mappings that a merge mark brings in, the ones that win last. -/
def mergedEntries? : Value → Option Entries
  | .map entries => some entries
  | .list vs => do
    let parts ← vs.mapM fun v => match v with
      | .map entries => some entries
      | _ => none
    return parts.reverse.flatten
  | _ => none

/-- The mapping of the given entries; merged ones come first. -/
def buildMapping? (entries : List (EntryKey × Value)) : Option Value := do
  let merged ← (entries.filterMap fun (k, v) => match k with
    | .merge => some v
    | .key _ => none).mapM mergedEntries?
  let own := entries.filterMap fun (k, v) => match k with
    | .merge => none
    | .key k => some (k, v)
  return .map (Entries.ofList (merged.flatten ++ own))

/-- Whether a node can start with the token that follows. -/
def startsNode : List Token → Bool
  | .scalar .. :: _ => true
  | .sequenceStart :: _ => true
  | .mappingStart :: _ => true
  | .listOpen :: _ => true
  | .mapOpen :: _ => true
  | _ => false

mutual

/-- Reads a node.  `indentless` allows a sequence at the indentation of its key. -/
def readNode (indentless : Bool) : Nat → List Token → Option (Value × List Token)
  | 0, _ => none
  | fuel + 1, ts =>
    match ts with
    | .scalar text plain :: rest => (scalarValue? text plain).map fun v => (v, rest)
    | .sequenceStart :: rest => readSequence fuel [] rest
    | .mappingStart :: rest => readMapping fuel [] rest
    | .listOpen :: rest => readList fuel [] true rest
    | .mapOpen :: rest => readMap fuel [] true rest
    | .entry :: _ => if indentless then readIndentless fuel [] ts else none
    | _ => none

/-- Reads the items of a block sequence. -/
def readSequence : Nat → List Value → List Token → Option (Value × List Token)
  | 0, _, _ => none
  | fuel + 1, acc, ts =>
    match ts with
    | .blockEnd :: rest => some (.list acc.reverse, rest)
    | .entry :: rest =>
      match rest with
      | .entry :: _ => readSequence fuel (.null :: acc) rest
      | .blockEnd :: _ => readSequence fuel (.null :: acc) rest
      | _ =>
        match readNode false fuel rest with
        | some (v, rest) => readSequence fuel (v :: acc) rest
        | none => none
    | _ => none

/-- Reads the items of a sequence that stands at the indentation of its key. -/
def readIndentless : Nat → List Value → List Token → Option (Value × List Token)
  | 0, _, _ => none
  | fuel + 1, acc, ts =>
    match ts with
    | .entry :: rest =>
      if startsNode rest then
        match readNode false fuel rest with
        | some (v, rest) => readIndentless fuel (v :: acc) rest
        | none => none
      else readIndentless fuel (.null :: acc) rest
    | _ => some (.list acc.reverse, ts)

/-- Reads the key of an entry; nothing stands for the empty key. -/
def readKey (flow : Bool) : Nat → List Token → Option (EntryKey × List Token)
  | 0, _ => none
  | fuel + 1, ts =>
    match ts with
    | .scalar text plain :: rest => (scalarKey? text plain).map fun k => (k, rest)
    | _ =>
      if startsNode ts then
        match readNode (!flow) fuel ts with
        | some (v, rest) => v.toKey?.map fun k => (.key k, rest)
        | none => none
      else some (.key .null, ts)

/-- Reads the value of an entry after its colon; nothing stands for the empty value. -/
def readEntryValue (flow : Bool) : Nat → List Token → Option (Value × List Token)
  | 0, _ => none
  | fuel + 1, ts =>
    match ts with
    | .value :: rest =>
      if startsNode rest || (!flow && rest.head? = some .entry) then readNode (!flow) fuel rest
      else some (.null, rest)
    | _ => some (.null, ts)

/-- Reads the entries of a block mapping. -/
def readMapping : Nat → List (EntryKey × Value) → List Token → Option (Value × List Token)
  | 0, _, _ => none
  | fuel + 1, acc, ts =>
    match ts with
    | .blockEnd :: rest => (buildMapping? acc.reverse).map fun v => (v, rest)
    | .key :: rest =>
      match readKey false fuel rest with
      | none => none
      | some (k, rest) =>
        match readEntryValue false fuel rest with
        | none => none
        | some (v, rest) => readMapping fuel ((k, v) :: acc) rest
    | _ => none

/-- Reads the items of a bracketed list; `first` tells that no comma is needed. -/
def readList : Nat → List Value → Bool → List Token → Option (Value × List Token)
  | 0, _, _, _ => none
  | fuel + 1, acc, first, ts =>
    match ts with
    | .listClose :: rest => some (.list acc.reverse, rest)
    | _ =>
      match (if first then some ts else match ts with
        | .comma :: rest => some rest
        | _ => none) with
      | none => none
      | some (.listClose :: rest) => some (.list acc.reverse, rest)
      | some (.key :: rest) =>
        match readKey true fuel rest with
        | none => none
        | some (k, rest) =>
          match readEntryValue true fuel rest with
          | none => none
          | some (v, rest) =>
            match buildMapping? [(k, v)] with
            | none => none
            | some pair => readList fuel (pair :: acc) false rest
      | some rest =>
        match readNode false fuel rest with
        | none => none
        | some (v, rest) => readList fuel (v :: acc) false rest

/-- Reads the entries of a bracketed mapping; `first` tells that no comma is needed. -/
def readMap : Nat → List (EntryKey × Value) → Bool → List Token → Option (Value × List Token)
  | 0, _, _, _ => none
  | fuel + 1, acc, first, ts =>
    match ts with
    | .mapClose :: rest => (buildMapping? acc.reverse).map fun v => (v, rest)
    | _ =>
      match (if first then some ts else match ts with
        | .comma :: rest => some rest
        | _ => none) with
      | none => none
      | some (.mapClose :: rest) => (buildMapping? acc.reverse).map fun v => (v, rest)
      | some (.key :: rest) =>
        match readKey true fuel rest with
        | none => none
        | some (k, rest) =>
          match readEntryValue true fuel rest with
          | none => none
          | some (v, rest) => readMap fuel ((k, v) :: acc) false rest
      | some rest =>
        if startsNode rest then
          match readKey true fuel rest with
          | none => none
          | some (k, rest) => readMap fuel ((k, .null) :: acc) false rest
        else none

end

/-- Whether nothing but document ends is left. -/
def isFinished (ts : List Token) : Bool :=
  ts.all (· == .documentEnd)

/-- Reads the root of a document, which may be missing after an explicit start. -/
def readRoot (ts : List Token) : Option Value :=
  let fuel := 4 * ts.length + 8
  match ts with
  | [] => some .null
  | .documentStart :: rest =>
    if isFinished rest then some .null
    else
      match readNode false fuel rest with
      | some (v, rest) => if isFinished rest then some v else none
      | none => none
  | _ =>
    match readNode false fuel ts with
    | some (v, rest) => if isFinished rest then some v else none
    | none => none

/-- Reads a text as one document. -/
def read (text : String) : Option Value := do
  let ts ← Token.scan text.toList
  readRoot ts

/-- Whether a text has a plain scalar with the form of a timestamp that stands for no moment. -/
def hasStrayTimestamp (text : String) : Bool :=
  ((Token.scan text.toList).getD []).any fun t =>
    match t with
    | .scalar text true => isStrayTimestamp text
    | _ => false

end PageTree.Yaml
