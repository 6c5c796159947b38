import PageTree.Text.Blank
import PageTree.Text.Percent

/-!
# Query parameters

The query of an address is a mapping from names to lists of values, in the order in which the names
first occur.  `ofText` reads it, `set` replaces all values of a name in place, and `toText` writes
it with commas in values left as they are.
-/

namespace PageTree

/-- Query parameters: each name once, with all its values. -/
abbrev QueryParams := List (String × List String)

namespace QueryParams

/-- A piece of a query with plus signs read as spaces and escapes resolved. -/
def decodePiece (cs : List Char) : String :=
  String.ofList (Text.percentDecode (cs.map fun c => if c = '+' then ' ' else c))

/-- One parameter of a query: its name and its value, which may be missing. -/
def decodePair (cs : List Char) : String × String :=
  match Text.cut? '=' cs with
  | some (k, v) => (decodePiece k, decodePiece v)
  | none => (decodePiece cs, "")

/-- The parameters of a query in the order in which they are written. -/
def pairsOfText (s : String) : List (String × String) :=
  ((Text.splitWhere (· == '&') s.toList).filter fun p => !p.isEmpty).map decodePair

/-- Adds a value to those of a name. -/
def add (q : QueryParams) (name value : String) : QueryParams :=
  match q with
  | [] => [(name, [value])]
  | (n, vs) :: rest =>
    if n = name then (n, vs ++ [value]) :: rest else (n, vs) :: add rest name value

/-- Parameters collected by name. -/
def ofPairs (pairs : List (String × String)) : QueryParams :=
  pairs.foldl (fun q (k, v) => q.add k v) []

/-- Reads a query. -/
def ofText (s : String) : QueryParams :=
  ofPairs (pairsOfText s)

/-- Gives a name one value in the place of all it has; a new name comes last. -/
def set (q : QueryParams) (name value : String) : QueryParams :=
  match q with
  | [] => [(name, [value])]
  | (n, vs) :: rest =>
    if n = name then (n, [value]) :: rest else (n, vs) :: set rest name value

/-- Every value with its name, in order. -/
def items (q : QueryParams) : List (String × String) :=
  q.flatMap fun (n, vs) => vs.map fun v => (n, v)

/-- A name as it is written in a query. -/
def encodeName (s : String) : List Char :=
  Text.percentEncode Text.isUnreserved s.toList

/-- A value as it is written in a query, commas included. -/
def encodeValue (s : String) : List Char :=
  Text.percentEncode (fun c => Text.isUnreserved c || c == ',') s.toList

/-- Pieces joined by ampersands. -/
def joinPieces : List (List Char) → List Char
  | [] => []
  | [p] => p
  | p :: rest => p ++ '&' :: joinPieces rest

/-- Writes parameters as a query. -/
def toText (q : QueryParams) : String :=
  String.ofList (joinPieces (q.items.map fun (k, v) => encodeName k ++ '=' :: encodeValue v))

end QueryParams

end PageTree
