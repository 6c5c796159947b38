import PageTree.Json.Printer
import PageTree.Node.Basic
import PageTree.Value.Display
import PageTree.Wire.Key

/-!
# The wire form of trees

What is sent to clients.  The wire form of a node is a node again: its configuration has recased
keys at every depth and holds neither nodes nor tuples any more, and a child that is a fragment is
replaced by its own children.  Two keys of one mapping that become the same name are refused, with
the path at which the second one stands.
-/

namespace PageTree

/-- Why something has no wire form. -/
inductive WireFault where
  /-- What should be sent is neither node nor text. -/
  | notNode (kind path : String)
  /-- Two keys of a mapping get the same name. -/
  | collision (first second name : Key) (path : String)
  /-- A value is sent that no document can hold. -/
  | unwritable (e : JsonWriteFault)

namespace WireFault

/-- The text of a fault of the wire form. -/
def message : WireFault → String
  | notNode kind _ => "Expected a component or text, got " ++ kind
  | collision first second name _ =>
    "Config keys " ++ first.show ++ " and " ++ second.show ++ " both serialize to " ++ name.show
  | unwritable (.badValue kind) => "Object of type " ++ kind ++ " is not JSON serializable"
  | unwritable (.badKey kind) =>
    "keys must be str, int, float, bool or None, not " ++ kind
  | unwritable .unsortable => "keys of different kinds cannot be sorted"

/-- The place at which a fault arose, where it has one. -/
def path : WireFault → Option String
  | notNode _ path => some path
  | collision _ _ _ path => some path
  | unwritable _ => none

end WireFault

namespace Wire

/-- The path of an entry. -/
def entryPath (path : String) (k : Key) : String :=
  path ++ "." ++ k.text

/-- The path of an element of a sequence. -/
def itemPath (path : String) (i : Nat) : String :=
  path ++ "[" ++ toString i ++ "]"

mutual

/-- The wire form of a value in a configuration. -/
def value (path : String) : Value → Except WireFault Value
  | .list vs => Value.list <$> values path 0 vs
  | .tuple vs => Value.list <$> values path 0 vs
  | .map es => Value.map <$> entries path [] es
  | .node n => Node.toValue <$> node path n
  | v => .ok v

/-- The wire forms of the elements of a sequence, counted from `i` on. -/
def values (path : String) (i : Nat) : List Value → Except WireFault (List Value)
  | [] => .ok []
  | v :: vs => do
    let w ← value (itemPath path i) v
    let ws ← values path (i + 1) vs
    return w :: ws

/-- The wire form of the entries of a mapping, given the names that are taken already, each with the
key that took it. -/
def entries (path : String) (taken : List (Key × Key)) :
    List (Key × Value) → Except WireFault (List (Key × Value))
  | [] => .ok []
  | (k, v) :: rest => do
    let name := recaseKey k
    match Entries.get? taken name with
    | some first => throw (.collision first k name (entryPath path k))
    | none =>
      let w ← value (entryPath path k) v
      let ws ← entries path (taken ++ [(name, k)]) rest
      return (name, w) :: ws

/-- The wire form of a node. -/
def node (path : String) : Node → Except WireFault Node
  | .mk type config cs => do
    let config ← entries (path ++ ".config") [] config
    let cs ← children (path ++ ".children") 0 cs
    return .mk type config cs

/-- The wire forms of children, counted from `i` on. -/
def children (path : String) (i : Nat) : List Child → Except WireFault (List Child)
  | [] => .ok []
  | .text s :: rest => do
    let rest ← children path (i + 1) rest
    return .text s :: rest
  | .node (.mk type config cs) :: rest => do
    if type = "" then
      let inner ← children (itemPath path i ++ ".children") 0 cs
      let rest ← children path (i + 1) rest
      return inner ++ rest
    else
      let config ← entries (itemPath path i ++ ".config") [] config
      let cs ← children (itemPath path i ++ ".children") 0 cs
      let rest ← children path (i + 1) rest
      return .node (.mk type config cs) :: rest

end

/-- The path of the root of a tree. -/
def rootPath : String := "root"

/-- The wire form of a tree; a fragment stays one here. -/
def tree (path : String) : Child → Except WireFault Child
  | .text s => .ok (.text s)
  | .node n => Child.node <$> node path n

/-- A value that has to be a tree. -/
def treeOf (path : String) : Value → Except WireFault Child
  | .str s => .ok (.text s)
  | .node n => .ok (.node n)
  | v => .error (.notNode v.kind path)

/-- The wire form of a value that has to be a tree. -/
def ofValue (v : Value) : Except WireFault Child := do
  let t ← treeOf rootPath v
  tree rootPath t

/-- The wire forms of values that have to be siblings, counted from `i` on. -/
def siblingsFrom (path : String) (i : Nat) : List Value → Except WireFault (List Child)
  | [] => .ok []
  | v :: vs => do
    let t ← treeOf (itemPath path i) v
    let first ← children path i [t]
    let rest ← siblingsFrom path (i + 1) vs
    return first ++ rest

/-- The wire forms of values that have to be siblings. -/
def siblingsOf (vs : List Value) : Except WireFault (List Child) :=
  siblingsFrom "children" 0 vs

/-- The wire form of siblings. -/
def siblings (cs : List Child) : Except WireFault (List Child) :=
  children "children" 0 cs

/-- A tree in storage shape; a text is its own. -/
def shape : Child → Value
  | .text s => .str s
  | .node n => n.toValue

/-- A value as the text of a document, its mappings sorted by key if that is asked for. -/
def write (style : Json.Style) (sorted : Bool) (v : Value) : Except WireFault String := do
  let v ← if sorted then v.sortKeys?.mapError .unwritable else .ok v
  let j ← v.toJson?.mapError .unwritable
  return j.render style

/-- The wire form of a value that has to be a tree, as the text of a document. -/
def toJson (style : Json.Style) (sorted : Bool) (v : Value) : Except WireFault String := do
  let t ← ofValue v
  write style sorted (shape t)

end Wire

end PageTree
