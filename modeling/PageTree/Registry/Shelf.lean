import PageTree.Registry.Basic
import PageTree.Registry.Declaration

/-!
# Filling a registry

A `Shelf` is a registry with the log of what was done to it, and a `Filling` is a computation on it.
A computation that fails leaves what it has done so far.  Names are checked before definitions are
made, and definitions are made before the registry is asked whether it is frozen.
-/

namespace PageTree

namespace Registry

/-- Stores a definition, unless the registry is frozen. -/
def put (r : Registry) (name : String) (d : Definition) : Except RegistryFault Registry :=
  if r.frozen then .error (.frozen name) else .ok (r.insert name d)

/-- Removes a definition and says whether there was one, unless the registry is frozen. -/
def remove (r : Registry) (name : String) : Except RegistryFault (Bool × Registry) :=
  if r.frozen then .error (.frozen name) else .ok (r.has name, r.erase name)

end Registry

/-- A registry with the log of what was done to it. -/
structure Shelf where
  registry : Registry
  notices : List Notice

/-- The empty registry with an empty log. -/
def Shelf.empty : Shelf where
  registry := .empty
  notices := []

/-- A computation that fills a registry. -/
abbrev Filling (α : Type) := ExceptT RegistryFault (StateM Shelf) α

namespace Filling

/-- The registry as it stands. -/
def registry : Filling Registry := do
  return (← get).registry

/-- Logs a warning. -/
def warn (text : String) : Filling Unit :=
  modify fun s => { s with notices := s.notices ++ [Notice.warn text] }

/-- A result that may be a fault. -/
def lift {α : Type} (x : Except RegistryFault α) : Filling α :=
  ExceptT.mk (pure x)

/-- Puts another registry on the shelf. -/
def replace (r : Registry) : Filling Unit :=
  modify fun s => { s with registry := r }

/-- Refuses a definition without a name, with a warning. -/
def refuse : Filling Bool := do
  warn "Refusing to register a component definition without a name"
  return false

/-- Stores a definition under a name and says whether it has one. -/
def store (name : String) (d : Definition) : Filling Bool :=
  if name = "" then refuse
  else do
    replace (← lift ((← registry).put name d))
    return true

/-- Makes a definition of a declaration, or of nothing, and stores it under a name. -/
def register (lib : Library) (name : String) (declaration : Value) : Filling Bool :=
  if name = "" then refuse
  else
    match declaration with
    | .null => store name (Definition.blank name)
    | .map entries => do
      let d ← lift (Definition.ofDeclaration lib none name entries)
      store name d
    | v => lift (.error (.fault (.noOperation v.kind "name")))

/-- Removes the definition of a name and says whether there was one. -/
def unregister (name : String) : Filling Bool := do
  let (had, r) ← lift ((← registry).remove name)
  replace r
  return had

/-- Freezes the registry. -/
def freeze : Filling Unit := do
  replace (← registry).freeze

/-- Stores definitions under their names, and gives the names. -/
def storeAll : List Definition → Filling (List String)
  | [] => return []
  | d :: ds => do
    let _ ← store d.name d
    let names ← storeAll ds
    return d.name :: names

end Filling

end PageTree
