import PageTree.Number.Decimal
import PageTree.Value.Equality

/-!
# JSON documents

A JSON document as a tree.  Whole numbers and floats are apart, as in the texts, and the members of
an object are kept in order.  `Json.toValue` turns a document into a value, where of two members
with one name the later one wins in the earlier one's place; `Json.ofValue?` turns a value into a
document, provided it holds only data that JSON can write.
-/

namespace PageTree

/-- A JSON document. -/
inductive Json where
  | null
  | bool (b : Bool)
  | int (i : Int)
  | float (x : Float)
  | str (s : String)
  | array (items : List Json)
  | object (members : List (String × Json))
  deriving Inhabited

/-- Why a value has no JSON document. -/
inductive JsonWriteFault where
  | badValue (kind : String)
  | badKey (kind : String)
  | unsortable
  deriving DecidableEq, Repr

namespace Json

mutual

/-- A document as a value. -/
def toValue : Json → Value
  | null => .null
  | bool b => .bool b
  | int i => .int i
  | float x => .float x
  | str s => .str s
  | array items => .list (toValues items)
  | object members => .map (Entries.ofList (toEntries members))

/-- Documents as values. -/
def toValues : List Json → List Value
  | [] => []
  | j :: js => j.toValue :: toValues js

/-- Members as entries. -/
def toEntries : List (String × Json) → List (Key × Value)
  | [] => []
  | (k, j) :: rest => (.str k, j.toValue) :: toEntries rest

end

/-- The text of a float in a document. -/
def floatText (x : Float) : String :=
  match Binary.ofFloat x with
  | .nan => "NaN"
  | .infinite negative => if negative then "-Infinity" else "Infinity"
  | .finite .. => Decimal.shortest x

/-- The member name that a key becomes. -/
def memberName : Key → Except JsonWriteFault String
  | .str s => .ok s
  | .null => .ok "null"
  | .bool b => .ok (if b then "true" else "false")
  | .int i => .ok (toString i)
  | .float x => .ok (floatText x)
  | .bytes _ => .error (.badKey "bytes")
  | .moment m => .error (.badKey m.kind)
  | .tuple _ => .error (.badKey "tuple")
  | .callable _ => .error (.badKey "function")

/-- The order of two keys, if there is one: texts among themselves and numbers among themselves. -/
def keyOrder? : Key → Key → Option Ordering
  | .str s, .str t => some (compare s t)
  | k, l => do
    let a ← number? k
    let b ← number? l
    a.order? b
where
  /-- The number that a key is. -/
  number? : Key → Option Binary
    | .bool b => some (Binary.ofInt (if b then 1 else 0))
    | .int i => some (Binary.ofInt i)
    | .float x => some (Binary.ofFloat x)
    | _ => none

/-- Inserts an entry into entries that are sorted by key. -/
def insertSorted (e : Key × Value) : List (Key × Value) → Option (List (Key × Value))
  | [] => some [e]
  | f :: rest => do
    let o ← keyOrder? e.1 f.1
    if o = .lt then some (e :: f :: rest)
    else
      let rest ← insertSorted e rest
      some (f :: rest)

/-- Entries sorted by key, if all keys can be compared. -/
def sortEntries? (entries : List (Key × Value)) : Option (List (Key × Value)) :=
  entries.foldlM (fun acc e => insertSorted e acc) []

end Json

mutual

/-- A value as a document. -/
def Value.toJson? : Value → Except JsonWriteFault Json
  | .null => .ok .null
  | .bool b => .ok (.bool b)
  | .int i => .ok (.int i)
  | .float x => .ok (.float x)
  | .str s => .ok (.str s)
  | .list vs => Json.array <$> Value.toJsons? vs
  | .tuple vs => Json.array <$> Value.toJsons? vs
  | .map entries => Json.object <$> Value.toMembers? entries
  | v => .error (.badValue v.kind)

/-- Values as documents. -/
def Value.toJsons? : List Value → Except JsonWriteFault (List Json)
  | [] => .ok []
  | v :: vs => do
    let j ← v.toJson?
    let js ← Value.toJsons? vs
    return j :: js

/-- Entries as members. -/
def Value.toMembers? : List (Key × Value) → Except JsonWriteFault (List (String × Json))
  | [] => .ok []
  | (k, v) :: rest => do
    let name ← Json.memberName k
    let j ← v.toJson?
    let members ← Value.toMembers? rest
    return (name, j) :: members

end

mutual

/-- A value whose mappings, at every depth, are sorted by key. -/
def Value.sortKeys? : Value → Except JsonWriteFault Value
  | .list vs => Value.list <$> Value.sortKeysAll? vs
  | .tuple vs => Value.tuple <$> Value.sortKeysAll? vs
  | .map entries => do
    let entries ← Value.sortKeysEntries? entries
    match Json.sortEntries? entries with
    | some sorted => return .map sorted
    | none => .error .unsortable
  | v => .ok v

/-- Values whose mappings are sorted by key. -/
def Value.sortKeysAll? : List Value → Except JsonWriteFault (List Value)
  | [] => .ok []
  | v :: vs => do
    let w ← v.sortKeys?
    let ws ← Value.sortKeysAll? vs
    return w :: ws

/-- Entries whose values have their mappings sorted by key. -/
def Value.sortKeysEntries? : List (Key × Value) → Except JsonWriteFault (List (Key × Value))
  | [] => .ok []
  | (k, v) :: rest => do
    let w ← v.sortKeys?
    let ws ← Value.sortKeysEntries? rest
    return (k, w) :: ws

end

end PageTree
