import PageTree.Definition.Basic
import PageTree.Registry.Fault

/-!
# Libraries of transforms

A declaration names its transform by the module and the name of a function, as in `a.b:f`.  A
`Library` holds the modules that can be named, and it says which functions stand behind the handles
that values hold.
-/

namespace PageTree

/-- A module whose functions can be named. -/
structure Module where
  name : String
  /-- Whether there are modules inside the module. -/
  isPackage : Bool
  functions : List (String × Transform)
  /-- The members of the module that are no functions. -/
  constants : List String

/-- The functions that declarations can use. -/
structure Library where
  modules : List Module
  /-- The function behind a handle. -/
  ofHandle : String → Option Transform

namespace Library

/-- The library without functions. -/
def empty : Library where
  modules := []
  ofHandle := fun _ => none

/-- The module of a name. -/
def module? (lib : Library) (name : String) : Option Module :=
  lib.modules.find? (·.name == name)

/-- The names of the modules on the way to a module, itself included, each with the one that it is
in. -/
def stages (name : String) : List (Option String × String) :=
  let parts := Text.splitAt '.' name
  let names := (List.range parts.length).map fun i => String.intercalate "." (parts.take (i + 1))
  names.zip (none :: names.map some) |>.map fun (n, p) => (p, n)

/-- Why one of the modules on the way is missing, if it is. -/
def missing? (lib : Library) : Option String × String → Option ImportFault
  | (parent, name) =>
    if (lib.module? name).isSome then none
    else
      match parent.bind fun p => (lib.module? p).map fun m => (p, m.isPackage) with
      | some (p, false) => some (.notPackage name p)
      | _ => some (.noModule name)

/-- The module of a name, reached through the modules it is in. -/
def load (lib : Library) (name : String) : Except ImportFault Module :=
  match (stages name).findSome? lib.missing?, lib.module? name with
  | none, some m => .ok m
  | some e, _ => .error e
  | none, none => .error (.noModule name)

/-- The function that a reference names.  A fault carries the file in which the reference stands. -/
def resolve (lib : Library) (source : Option String) (target : String) :
    Except RegistryFault Transform :=
  let fail := fun cause => RegistryFault.definition ⟨cause, source, []⟩
  match Text.cut? ':' target.toList with
  | none => .error (fail (.badReference target))
  | some (home, member) =>
    if home = [] || member = [] then .error (fail (.badReference target))
    else if home.head? = some '.' then .error (.relativeImport (String.ofList home))
    else
      let home := String.ofList home
      let member := String.ofList member
      match lib.load home with
      | .error e => .error (fail (.cannotImport target e))
      | .ok m =>
        match m.functions.find? (·.1 == member) with
        | some (_, t) => .ok t
        | none =>
          if m.constants.contains member then .error (fail (.notCallable target))
          else .error (fail (.cannotImport target (.noMember home member)))

/-- What a value in the place of a transform does. -/
def actionOf (lib : Library) (source : Option String) (v : Value) :
    Except RegistryFault (Option Action) :=
  match v with
  | .null => .ok none
  | .str target => (lib.resolve source target).map fun t => some (.run t)
  | .callable handle =>
    match lib.ofHandle handle with
    | some t => .ok (some (.run t))
    | none => .ok (some (.inert v))
  | _ => .ok (some (.inert v))

end Library

end PageTree
