import PageTree.Context
import PageTree.Definition.Tag
import PageTree.Node.Basic

/-!
# Definitions

A `Definition` is what a registry holds for a type of node: the defaults of its configuration, the
data it asks for, and the transform that turns a node of the type into what replaces it.
-/

namespace PageTree

/-- A function that replaces a node, given the data its definition asks for and the context.  The
result is a node, a mapping in storage shape, a text, or nothing to drop the node. -/
structure Transform where
  /-- The name under which the function is described. -/
  name : String
  /-- The module the function belongs to. -/
  home : String
  /-- The description that the function carries. -/
  doc : String
  apply : Node → Entries → Context → Except Fault Value

/-- What a definition does with a node: run a transform, or fail because the value in its place is
no function. -/
inductive Action where
  | run (t : Transform)
  | inert (v : Value)

/-- A piece of data that a transform asks for. -/
structure Requirement where
  /-- The name of the type tag. -/
  type : Value
  /-- The name under which the context holds the data. -/
  source : Value
  /-- What stands in for missing data. -/
  default : Value
  description : Value

namespace Requirement

/-- Reads a requirement from its declaration: a mapping or a bare type tag. -/
def ofValue (name : Key) (spec : Value) : Except Fault Requirement :=
  match spec with
  | .str _ => .ok ⟨spec, name.toValue, .null, .str ""⟩
  | .map entries =>
    .ok {
      type := (Entries.find? entries "type").getD (.str "any")
      source := (Entries.lookup entries "source").orElse name.toValue
      default := Entries.lookup entries "default"
      description := (Entries.find? entries "description").getD (.str "") }
  | _ => .error (.badRequirement name)

/-- Reads the requirements of a definition. -/
def ofEntries : Entries → Except Fault (List (Key × Requirement))
  | [] => .ok []
  | (k, v) :: rest => do
    let r ← ofValue k v
    let rs ← ofEntries rest
    return (k, r) :: rs

end Requirement

/-- What a registry holds for one type of node. -/
structure Definition where
  name : String
  defaults : Entries
  requirements : List (Key × Requirement)
  action : Option Action
  description : Value
  /-- Where the definition came from. -/
  source : Option String

namespace Definition

/-- The definition of a name with nothing in it. -/
def blank (name : String) : Definition where
  name := name
  defaults := []
  requirements := []
  action := none
  description := .str ""
  source := none

/-- The name by which an action is described; nothing for a value that counts as false. -/
def actionName (d : Definition) : Option String :=
  match d.action with
  | none => none
  | some (.run t) => some t.name
  | some (.inert v) => if v.truthy then some v.show else none

end Definition

end PageTree
