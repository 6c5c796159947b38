import PageTree.Value.Convert

/-!
# Nodes

How nodes are made from data and changed.  `Node.ofValue` reads the storage shape of a node, a
mapping with a type, a configuration and a list of children; `Node.toValue` writes it.  Children
that are missing or empty texts are dropped, so that the children of a node are always nodes and
texts that are not empty.

Nodes are values: each operation gives a new node.
-/

namespace PageTree

namespace Node

/-- The type that the data of a node gives: the entry `type`, or else `name`, or else the empty
text. -/
def typeEntry (entries : Entries) : Value :=
  match Entries.find? entries "type" with
  | some t => t
  | none => (Entries.find? entries "name").getD (.str "")

/-- The children that the keys of a mapping stand for. -/
def childrenOfKeys : List Key → Except Fault (List Child)
  | [] => .ok []
  | .null :: ks => childrenOfKeys ks
  | .str s :: ks => do
    let cs ← childrenOfKeys ks
    return if s = "" then cs else .text s :: cs
  | k :: _ => .error (.invalidChild k.toValue)

/-- The children that the characters of a text stand for. -/
def childrenOfText (s : String) : List Child :=
  s.toList.map fun c => .text (String.singleton c)

/-- Checks the type of a node. -/
def checkType : Value → Except Fault String
  | .str s => .ok s
  | v => .error (.nodeTypeNotText v.kind)

/-- Checks the configuration of a node of the given type. -/
def checkConfig (type : String) : Value → Except Fault Entries
  | .map entries => .ok entries
  | _ => .error (.configNotMapping type)

/-- Checks that the entry for the children, where it is not empty, is a collection other than a
text. -/
def checkChildren (type v : Value) : Except Fault Unit :=
  match v with
  | .list _ => .ok ()
  | .tuple _ => .ok ()
  | .map _ => .ok ()
  | _ => if v.truthy then .error (.childrenNotList type) else .ok ()

/-- The type and configuration that the data of a node give. -/
def header (entries : Entries) : Except Fault (String × Entries) := do
  let type := typeEntry entries
  checkChildren type (Entries.lookup entries "children")
  let name ← checkType type
  let config ← checkConfig name ((Entries.lookup entries "config").orElse (.map []))
  return (name, config)

mutual

/-- Reads the storage shape of a node.  A node is read as itself. -/
def ofValue : Value → Except Fault Node
  | .node n => .ok n
  | .map entries =>
    match header entries with
    | .error e => .error e
    | .ok (type, config) =>
      match childrenEntry entries with
      | .error e => .error e
      | .ok children => .ok (.mk type config children)
  | v => .error (.nodeNotMapping v.kind)

/-- The children under the first entry for them. -/
def childrenEntry : List (Key × Value) → Except Fault (List Child)
  | [] => .ok []
  | (k, v) :: rest => if k.same (.str "children") then childrenOf v else childrenEntry rest

/-- The children that a value stands for; one that counts as false stands for none. -/
def childrenOf : Value → Except Fault (List Child)
  | .list vs => childrenOfList vs
  | .tuple vs => childrenOfList vs
  | .map entries => childrenOfKeys (Entries.keys entries)
  | .str s => .ok (childrenOfText s)
  | .bytes (b :: _) => .error (.invalidChild (.int b.toNat))
  | v => if v.truthy then .error (.notIterable v.kind) else .ok []

/-- The children that the elements of a list stand for. -/
def childrenOfList : List Value → Except Fault (List Child)
  | [] => .ok []
  | .null :: vs => childrenOfList vs
  | .str s :: vs =>
    match childrenOfList vs with
    | .error e => .error e
    | .ok cs => .ok (if s = "" then cs else .text s :: cs)
  | .node n :: vs =>
    match childrenOfList vs with
    | .error e => .error e
    | .ok cs => .ok (.node n :: cs)
  | .map entries :: vs =>
    match ofValue (.map entries) with
    | .error e => .error e
    | .ok n =>
      match childrenOfList vs with
      | .error e => .error e
      | .ok cs => .ok (.node n :: cs)
  | v :: _ => .error (.invalidChild v)

end

mutual

/-- The storage shape of a node. -/
def toValue : Node → Value
  | .mk type config children =>
    .map [(.str "type", .str type), (.str "config", .map config),
      (.str "children", .list (childValues children))]

/-- The storage shapes of children; a text is its own. -/
def childValues : List Child → List Value
  | [] => []
  | .text s :: cs => .str s :: childValues cs
  | .node n :: cs => n.toValue :: childValues cs

end

/-- Makes a node of data for its three parts. -/
def build (type config children : Value) : Except Fault Node := do
  let name ← checkType type
  let entries ← checkConfig name config
  let cs ← childrenOf children
  return .mk name entries cs

/-- Makes a node of data for its three parts, where missing ones count as empty and a list of pairs
is read as a mapping. -/
def make (type config children : Value) : Except Fault Node := do
  let entries ← (config.orElse (.map [])).toEntries
  let items ← (children.orElse (.tuple [])).elements
  build type (.map entries) (.tuple items)

/-- The value of a configuration key. -/
def get? (n : Node) (k : Key) : Option Value :=
  Entries.get? n.config k

/-- A node with another type. -/
def withType (n : Node) (type : String) : Node :=
  .mk type n.config n.children

/-- A node with one configuration key set. -/
def setConfig (n : Node) (k : Key) (v : Value) : Node :=
  .mk n.type (Entries.set n.config k v) n.children

/-- A node with entries merged over its configuration. -/
def withConfig (n : Node) (entries : Entries) : Node :=
  .mk n.type (Entries.merge n.config entries) n.children

/-- A node with defaults filled in under its configuration: the keys of the defaults come first. -/
def withDefaults (n : Node) (defaults : Entries) : Node :=
  .mk n.type (Entries.merge defaults n.config) n.children

/-- A node with other children. -/
def withChildren (n : Node) (children : List Child) : Node :=
  .mk n.type n.config children

/-- A node with the children that a collection stands for. -/
def withChildrenOf (n : Node) (children : Value) : Except Fault Node := do
  let vs ← children.elements
  let cs ← childrenOfList vs
  return n.withChildren cs

/-- A node whose type is given as data. -/
def withTypeOf (n : Node) (type : Value) : Except Fault Node := do
  let name ← checkType type
  return n.withType name

/-- A node with defaults given as data. -/
def withDefaultsOf (n : Node) (defaults : Value) : Except Fault Node := do
  let entries ← defaults.toEntries
  return n.withDefaults entries

/-- A node with a mapping merged over its configuration. -/
def withConfigOf (n : Node) (values : Value) : Except Fault Node := do
  let entries ← values.entries
  return n.withConfig entries

end Node

/-- A child without empty texts: nothing for an empty one. -/
def Child.isEmpty : Child → Bool
  | .text s => s == ""
  | .node _ => false

end PageTree
