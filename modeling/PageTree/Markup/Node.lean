import PageTree.Markup.Library
import PageTree.Node.Basic

/-!
# Nodes from markup

`Markup.nodesOf` turns a markup text into a flat list of nodes: for each given name, in the order of
the names, every element of that name in document order.  The attributes of an element become the
configuration of its node, and its text, unless it is empty, becomes the only child.
-/

namespace PageTree.Markup

/-- The configuration that the attributes of an element make. -/
def configOf (e : Element) : Entries :=
  e.attributes.map fun (k, v) => (.str k, .str v.value)

/-- The node that an element makes under a name. -/
def nodeOf (name : Value) (e : Element) : Except Fault Node := do
  let type ← Node.checkType name
  return .mk type (configOf e) (if e.text = "" then [] else [.text e.text])

variable [MarkupLibrary]

/-- The nodes that the elements selected by one name make. -/
def nodesNamed (all : List Element) (name : Value) : Except Fault (List Node) :=
  (all.filter (MarkupLibrary.selects name)).mapM (nodeOf name)

/-- The nodes that the elements of the given names make.  Without markup there are none, whatever
the names. -/
def nodesOf (markup : String) (names : Value) : Except Fault (List Node) :=
  if markup = "" then .ok []
  else
    match MarkupLibrary.elementsOf markup with
    | none => .error .noCharacters
    | some (.error e) => .error e
    | some (.ok all) => do
      let names ← names.elements
      let groups ← names.mapM (nodesNamed all)
      return groups.flatten

end PageTree.Markup
