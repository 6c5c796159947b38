import PageTree.Files
import PageTree.Json.Reader
import PageTree.Registry.Shelf
import PageTree.Settings
import PageTree.Validation.Declaration
import PageTree.Yaml.Library

/-!
# Loading definitions from files

Declarations are read from JSON and YAML files, one definition a file, and plug-ins register
definitions of their own.  A directory is loaded in the order of its file names, where hidden files,
those that start with an underscore, and those with other endings are passed over.  A declaration
that is broken stops the loading; one that the system refuses to read is skipped with a warning, and
so is a plug-in that fails.
-/

namespace PageTree

namespace Filling

variable [YamlLibrary]

/-- The endings of declaration files. -/
def declarationEndings : List String := [".json", ".yaml", ".yml"]

/-- The ending of plug-ins. -/
def pluginEnding : String := ".py"

/-- A cause in a file, as a fault. -/
def faultIn (path : Path) (cause : DefinitionCause) (errors : List String) : RegistryFault :=
  .definition ⟨cause, some path.text, errors⟩

/-- The data in the text of a declaration file, in the format that its ending names. -/
def parseData (path : Path) (text : String) : Except RegistryFault Value :=
  if path.suffix = ".json" then
    match Json.read text with
    | .ok j => .ok j.toValue
    | .error e =>
      match e.misfit with
      | .longInteger digits => .error (.fault (.longInteger digits))
      | _ => .error (faultIn path (.unparsable path.text e.message) [])
  else
    match YamlLibrary.load text with
    | .ok v => .ok v
    | .error (.unparsable reason) => .error (faultIn path (.unparsable path.text reason) [])
    | .error (.fault e) => .error (.fault e)

/-- The declaration in the text of a file: a mapping with a name. -/
def parseDeclaration (path : Path) (text : String) : Except RegistryFault Entries := do
  match ← parseData path text with
  | .map entries =>
    if (Entries.lookup entries "name").truthy then return entries
    else throw (faultIn path (.unnamed path.text) [])
  | _ => throw (faultIn path (.notMapping path.text) [])

/-- Logs warnings about a file. -/
def warnAll (path : Path) : List Finding → Filling Unit
  | [] => return ()
  | f :: fs => do
    warn (path.text ++ ": " ++ f.message)
    warnAll path fs

/-- Validates a declaration, stores its definition and gives its name. -/
def registerEntries (lib : Library) (path : Path) (entries : Entries) : Filling String := do
  let findings ← lift ((Declaration.validate (.map entries)).mapError .fault)
  if findings.valid then
    warnAll path findings.warnings
    let name := (Entries.lookup entries "name").text
    let d ← lift (Definition.ofDeclaration lib (some path.text) name entries)
    let _ ← store name d
    return name
  else
    lift (.error (faultIn path (.invalid path.text) (findings.errors.map (·.message))))

/-- Why a file gives no text. -/
def readFault (files : Files) (path : Path) : RegistryFault :=
  match files.refusal? path with
  | some reason => .unreadable reason
  | none => .notText path.text

/-- The text of a file. -/
def readText (files : Files) (path : Path) : Filling String :=
  match files.readText? path with
  | some text => return text
  | none => lift (.error (readFault files path))

/-- The file that the path of a declaration means: without an ending of declarations it is a JSON
file. -/
def declarationPath (path : Path) : Except RegistryFault Path :=
  if declarationEndings.contains path.suffix then .ok path
  else
    match path.withName? (path.name ++ ".json") with
    | some p => .ok p
    | none => .error (.noName path.text)

/-- A declaration with overrides laid over it, where they are given. -/
def override (entries : Entries) (overrides : Value) : Except RegistryFault Entries :=
  if overrides.truthy then
    match overrides with
    | .map upper => .ok (Value.overlayEntries entries upper)
    | v => .error (.fault (.noOperation v.kind "items"))
  else .ok entries

/-- Loads one declaration file with overrides, and gives the name of its definition. -/
def loadDeclaration (lib : Library) (files : Files) (path : String) (overrides : Value) :
    Filling String := do
  let path ← lift (declarationPath (.ofText path))
  if files.has path then
    let text ← readText files path
    let entries ← lift (parseDeclaration path text)
    let entries ← lift (override entries overrides)
    registerEntries lib path entries
  else lift (.error (faultIn path (.noFile path.text) []))

/-- Registers the definitions of a plug-in one after the other. -/
def registerPairs (lib : Library) : List (String × Value) → Filling Unit
  | [] => return ()
  | (name, declaration) :: rest => do
    let _ ← register lib name declaration
    registerPairs lib rest

/-- Runs a plug-in. -/
def runPlugin (lib : Library) (p : Plugin) : Filling Unit := do
  match p.refusal with
  | some message => lift (.error (.fault (.raised "RuntimeError" message)))
  | none =>
    if p.hook then
      registerPairs lib p.registrations
      match p.failure with
      | some message => lift (.error (.fault (.raised "RuntimeError" message)))
      | none => return ()

/-- Loads a plug-in and says whether that succeeded.  A frozen registry stops the loading; any other
failure is worth a warning only, and what was registered before it stays. -/
def loadPlugin (lib : Library) (path : Path) (p : Plugin) : Filling Bool :=
  tryCatch
    (do
      runPlugin lib p
      return true)
    fun e =>
      match e with
      | .frozen name => lift (.error (.frozen name))
      | e => do
        warn ("Failed to import component module " ++ path.text ++ ": " ++ e.message)
        return false

/-- The plug-in at a path; a file of text there registers nothing, and a file that the system
refuses to read cannot be loaded. -/
def pluginAt (files : Files) (path : Path) : Plugin :=
  match files.get? path with
  | some (.plugin p) => p
  | some (.unreadable reason) => { Plugin.idle with refusal := some reason }
  | _ => .idle

/-- Loads one file of a directory and gives the names that it newly registers. -/
def loadFile (lib : Library) (files : Files) (path : Path) : Filling (List String) := do
  if path.suffix = pluginEnding then
    let before := (← registry).types
    if ← loadPlugin lib path (pluginAt files path) then
      return (← registry).types.filter fun t => !before.contains t
    else return []
  else if declarationEndings.contains path.suffix then
    match files.refusal? path with
    | some reason => do
      warn ("Skipping unreadable component declaration " ++ path.text ++ ": " ++ reason)
      return []
    | none => do
      let text ← readText files path
      let entries ← lift (parseDeclaration path text)
      let name ← registerEntries lib path entries
      return [name]
  else return []

/-- Whether a name in a directory is passed over. -/
def isHidden (name : String) : Bool :=
  match name.toList.head? with
  | some c => c = '.' || c = '_'
  | none => false

/-- Loads the named files of a directory in turn. -/
def loadNames (lib : Library) (files : Files) (directory : Path) :
    List String → Filling (List String)
  | [] => return []
  | name :: rest => do
    let path := directory.child name
    let first ←
      if isHidden name || files.isDirectory path then pure [] else loadFile lib files path
    let others ← loadNames lib files directory rest
    return first ++ others

/-- The path that a value gives. -/
def pathOf : Value → Except RegistryFault Path
  | .str s => .ok (.ofText s)
  | v => .error (.fault (.notPath v.kind))

/-- The directory that a value means: the path that it gives, from the home directory of a user if
it starts with a tilde. -/
def directoryOf (files : Files) (v : Value) : Except RegistryFault Path := do
  match files.expandHome? (← pathOf v) with
  | some directory => .ok directory
  | none => .error .noHome

/-- Loads labelled directories in turn; a missing one is worth a warning. -/
def loadLabelled (lib : Library) (files : Files) : List (String × Value) → Filling (List String)
  | [] => return []
  | (label, directory) :: rest => do
    let directory ← lift (directoryOf files directory)
    let first ←
      if files.isDirectory directory then
        loadNames lib files directory (files.namesIn directory)
      else do
        warn ("Component directory not found (" ++ label ++ "): " ++ directory.text)
        pure []
    let others ← loadLabelled lib files rest
    return first ++ others

/-- The label of a directory that is given without one: its last name. -/
def labelOf (directory : String) : String :=
  if directory = Settings.userDefinitions then Settings.userDefinitionsName
  else (Path.ofText directory).name

/-- Directories with their labels: a mapping from labels to directories, or directories alone. -/
def labelled (directories : Value) : Except RegistryFault (List (String × Value)) :=
  match directories with
  | .map entries => .ok (entries.map fun (k, v) => (k.text, v))
  | v => do
    let items ← v.elements.mapError .fault
    items.mapM fun item =>
      match item with
      | .str s => .ok (labelOf s, item)
      | w => .error (.fault (.notPath w.kind))

/-- Loads directories and gives the names that were registered. -/
def loadDirectories (lib : Library) (files : Files) (directories : Value) :
    Filling (List String) := do
  let items ← lift (labelled directories)
  loadLabelled lib files items

end Filling

end PageTree
