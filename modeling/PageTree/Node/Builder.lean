import PageTree.Node.Basic

/-!
# Builders

A `Builder` collects the parts of a node step by step and checks them only when the node is built,
so that its parts may be any data in between.  A step that fails leaves the builder as it was, but
for the entries that were merged before the fault.
-/

namespace PageTree

/-- The parts of a node that is not yet checked. -/
structure Builder where
  type : Value
  config : Entries
  children : List Value

namespace Builder

/-- A builder with a type and a configuration given as data. -/
def start (type config : Value) : Except Fault Builder := do
  let entries ← (config.orElse (.map [])).toEntries
  return { type, config := entries, children := [] }

/-- A builder with the parts of a node. -/
def ofNode (n : Node) : Builder where
  type := .str n.type
  config := n.config
  children := n.children.map Child.toValue

/-- Replaces the type. -/
def setType (b : Builder) (type : Value) : Builder :=
  { b with type }

/-- Sets one configuration key. -/
def setConfig (b : Builder) (k : Key) (v : Value) : Builder :=
  { b with config := Entries.set b.config k v }

/-- Merges entries over the configuration. -/
def mergeConfig (b : Builder) (entries : Entries) : Builder :=
  { b with config := Entries.merge b.config entries }

/-- The value of a configuration key. -/
def get? (b : Builder) (k : Key) : Option Value :=
  Entries.get? b.config k

/-- Adds a child. -/
def addChild (b : Builder) (child : Value) : Builder :=
  { b with children := b.children ++ [child] }

/-- Replaces the children. -/
def setChildren (b : Builder) (children : List Value) : Builder :=
  { b with children }

/-- The node that the parts make. -/
def build (b : Builder) : Except Fault Node :=
  Node.build b.type (.map b.config) (.tuple b.children)

/-- The entries that the elements of a list stand for, counted from `index` on, up to the first
that stands for none, with the fault of that one. -/
def leadingEntries (index : Nat) : List Value → Entries × Option Fault
  | [] => ([], none)
  | v :: vs =>
    match v.toEntry index with
    | .error e => ([], some e)
    | .ok entry =>
      let (entries, e) := leadingEntries (index + 1) vs
      (entry :: entries, e)

/-- The entries that a value gives for merging, and the fault that ends them. -/
def givenEntries : Value → Entries × Option Fault
  | .map entries => (entries, none)
  | v =>
    match v.elements with
    | .error e => ([], some e)
    | .ok vs => leadingEntries 0 vs

/-- A step on a builder, with its data as they are given. -/
inductive Step where
  | setType (type : Value)
  | setConfig (key value : Value)
  | mergeConfig (values : Value)
  | addChild (child : Value)
  | setChildren (children : Value)

/-- Takes a step: the builder after it, and the fault of a step that fails. -/
def step (b : Builder) : Step → Builder × Option Fault
  | .setType type => (b.setType type, none)
  | .setConfig key value =>
    match key.toKey with
    | .error e => (b, some e)
    | .ok k => (b.setConfig k value, none)
  | .mergeConfig values =>
    let (entries, e) := givenEntries values
    (b.mergeConfig entries, e)
  | .addChild child => (b.addChild child, none)
  | .setChildren children =>
    match children.elements with
    | .error e => (b, some e)
    | .ok vs => (b.setChildren vs, none)

end Builder

end PageTree
