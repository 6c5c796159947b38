import PageTree.Fault

/-!
# Faults of registries

Why a definition cannot be made or stored.  A `DefinitionFault` is about a declaration: its cause,
the file it is in, if any, and the errors that its validation found.  A `RegistryFault` is any cause
for which an operation on a registry fails.
-/

namespace PageTree

/-- Why a path of a function leads nowhere. -/
inductive ImportFault where
  /-- There is no module of the name. -/
  | noModule (name : String)
  /-- The name goes through a module that holds no other modules. -/
  | notPackage (name parent : String)
  /-- The module has no member of the name. -/
  | noMember (module member : String)
  deriving DecidableEq, Repr

/-- The text of an import fault. -/
def ImportFault.message : ImportFault → String
  | noModule name => "No module named " ++ Text.quote name
  | notPackage name parent =>
    "No module named " ++ Text.quote name ++ "; " ++ Text.quote parent ++ " is not a package"
  | noMember module member =>
    "module " ++ Text.quote module ++ " has no attribute " ++ Text.quote member

/-- Why a declaration cannot become a definition. -/
inductive DefinitionCause where
  | badReference (target : String)
  | cannotImport (target : String) (e : ImportFault)
  | notCallable (target : String)
  | noFile (path : String)
  /-- The file cannot be parsed; the reason is in the words of the reader. -/
  | unparsable (path reason : String)
  | notMapping (path : String)
  | unnamed (path : String)
  | invalid (path : String)

/-- The text of a cause. -/
def DefinitionCause.message : DefinitionCause → String
  | badReference target =>
    "Transform reference must look like 'package.module:function', got " ++ Text.quote target
  | cannotImport target e =>
    "Cannot import transform " ++ Text.quote target ++ ": " ++ e.message
  | notCallable target => "Transform " ++ Text.quote target ++ " is not callable"
  | noFile path => "Could not find component declaration at " ++ path
  | unparsable path reason => "Unparsable component declaration " ++ path ++ ": " ++ reason
  | notMapping path => "Component declaration must be a mapping: " ++ path
  | unnamed path => "Component declaration missing 'name': " ++ path
  | invalid path => "Invalid component declaration in " ++ path

/-- Why a declaration cannot become a definition, and where it stands. -/
structure DefinitionFault where
  cause : DefinitionCause
  /-- The file of the declaration. -/
  path : Option String
  /-- What its validation found. -/
  errors : List String

/-- The text of a definition fault. -/
def DefinitionFault.message (e : DefinitionFault) : String :=
  e.cause.message

/-- Why an operation on a registry fails. -/
inductive RegistryFault where
  /-- The registry is frozen. -/
  | frozen (name : String)
  | definition (e : DefinitionFault)
  | fault (e : Fault)
  /-- A file does not hold text. -/
  | notText (path : String)
  /-- The system refuses to read a file, for a reason. -/
  | unreadable (reason : String)
  /-- There is no home directory of the user whom a path names. -/
  | noHome
  /-- A path has no last name to which an ending could be added. -/
  | noName (path : String)
  /-- The path of a function starts with a dot. -/
  | relativeImport (target : String)

/-- The text of a registry fault. -/
def RegistryFault.message : RegistryFault → String
  | frozen name => "Registry is frozen, cannot modify definition: " ++ Text.quote name
  | definition e => e.message
  | fault e => e.message
  | notText path => path ++ " does not hold text"
  | unreadable reason => reason
  | noHome => "Could not determine home directory."
  | noName path => "PosixPath(" ++ Text.quote path ++ ") has an empty name"
  | relativeImport target =>
    "the 'package' argument is required to perform a relative import for " ++ Text.quote target

end PageTree
