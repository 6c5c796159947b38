import PageTree.Content
import PageTree.Number.Binary
import PageTree.Value.Moment

/-!
# Values

The data that trees, contexts and declarations are made of.  A `Key` is a value that can name an
entry of a mapping, a `Value` is any datum, and a `Node` is a typed element of a tree: its type, its
configuration and its children, each of which is a text or a node again.  Nodes are values too, so
a configuration can hold trees.

Mappings are lists of entries in the order in which their keys were first set.
-/

namespace PageTree

/-- A value that can name an entry of a mapping. -/
inductive Key where
  | null
  | bool (b : Bool)
  | int (i : Int)
  | float (x : Float)
  | str (s : String)
  | bytes (bs : List UInt8)
  | moment (m : Moment)
  | tuple (ks : List Key)
  | callable (handle : String)

mutual

/-- A datum.  A `callable` is a function known by its handle only; the library of transforms says
what it does. -/
inductive Value where
  | null
  | bool (b : Bool)
  | int (i : Int)
  | float (x : Float)
  | str (s : String)
  | bytes (bs : List UInt8)
  | moment (m : Moment)
  | list (vs : List Value)
  | tuple (vs : List Value)
  | map (entries : List (Key × Value))
  | node (n : Node)
  | query (q : QueryResult Key Value)
  | callable (handle : String)

/-- A typed element of a tree.  A node with the empty type is a fragment: it stands for its
children. -/
inductive Node where
  | mk (type : String) (config : List (Key × Value)) (children : List Child)

/-- A child of a node: a text leaf or a node. -/
inductive Child where
  | text (s : String)
  | node (n : Node)

end

instance : Inhabited Value := ⟨.null⟩

instance : Inhabited Node := ⟨.mk "" [] []⟩

instance : Inhabited Child := ⟨.text ""⟩

/-- The entries of a mapping, in the order in which their keys were first set. -/
abbrev Entries := List (Key × Value)

/-- The attachments, documents and query results that values can hold. -/
abbrev Media := Attachment Key Value

namespace Node

/-- The type of a node; the empty text marks a fragment. -/
def type : Node → String
  | mk t _ _ => t

/-- The configuration of a node. -/
def config : Node → Entries
  | mk _ c _ => c

/-- The children of a node in order. -/
def children : Node → List Child
  | mk _ _ cs => cs

/-- Whether a node is a fragment. -/
def isFragment (n : Node) : Bool :=
  n.type == ""

@[simp] theorem type_mk (t : String) (c : Entries) (cs : List Child) : (mk t c cs).type = t := rfl

@[simp] theorem config_mk (t : String) (c : Entries) (cs : List Child) :
    (mk t c cs).config = c := rfl

@[simp] theorem children_mk (t : String) (c : Entries) (cs : List Child) :
    (mk t c cs).children = cs := rfl

end Node

/-- A key as a value. -/
def Key.toValue : Key → Value
  | .null => .null
  | .bool b => .bool b
  | .int i => .int i
  | .float x => .float x
  | .str s => .str s
  | .bytes bs => .bytes bs
  | .moment m => .moment m
  | .tuple ks => .tuple (toValues ks)
  | .callable handle => .callable handle
where
  /-- The components of a key as values. -/
  toValues : List Key → List Value
    | [] => []
    | k :: ks => k.toValue :: toValues ks

mutual

/-- A value as a key, if it is of a kind that can be one. -/
def Value.toKey? : Value → Option Key
  | .null => some .null
  | .bool b => some (.bool b)
  | .int i => some (.int i)
  | .float x => some (.float x)
  | .str s => some (.str s)
  | .bytes bs => some (.bytes bs)
  | .moment m => some (.moment m)
  | .tuple vs => (Value.toKeys? vs).map .tuple
  | .callable handle => some (.callable handle)
  | _ => none

/-- Values as keys, if all can be. -/
def Value.toKeys? : List Value → Option (List Key)
  | [] => some []
  | v :: vs => do
    let k ← v.toKey?
    let ks ← Value.toKeys? vs
    some (k :: ks)

end

namespace Value

/-- The name of the kind of a value, as messages give it. -/
def kind : Value → String
  | null => "NoneType"
  | bool _ => "bool"
  | int _ => "int"
  | float _ => "float"
  | str _ => "str"
  | bytes _ => "bytes"
  | moment m => m.kind
  | list _ => "list"
  | tuple _ => "tuple"
  | map _ => "dict"
  | node _ => "Component"
  | query _ => "QueryResult"
  | callable _ => "function"

/-- Whether a value counts as true: nothing, zero and everything empty do not. -/
def truthy : Value → Bool
  | null => false
  | bool b => b
  | int i => i != 0
  | float x => !(Binary.ofFloat x).isZero
  | str s => s != ""
  | bytes bs => !bs.isEmpty
  | moment _ => true
  | list vs => !vs.isEmpty
  | tuple vs => !vs.isEmpty
  | map entries => !entries.isEmpty
  | node _ => true
  | query _ => true
  | callable _ => true

/-- A value, or another one in the place of a value that does not count as true. -/
def orElse (v w : Value) : Value :=
  if v.truthy then v else w

/-- Whether a value is missing. -/
def isNull : Value → Bool
  | null => true
  | _ => false

end Value

/-- A child as a value. -/
def Child.toValue : Child → Value
  | .text s => .str s
  | .node n => .node n

end PageTree
