import PageTree.CommandLine.Arguments
import PageTree.Config.File
import PageTree.Registry.Configured
import PageTree.Resolution.Resolver
import PageTree.Validation.Tree
import PageTree.Wire.Tree

/-!
# The command line

`CommandLine.run` does what the words of a command line ask for: it checks the configuration, fills
a registry, and then lists its types, prints their documentation, or reads a tree, validates it,
resolves it and prints its wire form.

A `Session` is a computation with the text it prints and the log it writes.  It ends with an exit
code, early if there is a reason, or it fails with a fault that nobody handles.
-/

namespace PageTree.CommandLine

/-- What a session has printed and logged. -/
structure Transcript where
  printed : List String
  notices : List Notice

/-- A fault that ends the program. -/
inductive Crash where
  | fault (e : Fault)
  | registry (e : RegistryFault)
  | json (e : JsonFault)
  | unwritable (e : JsonWriteFault)
  | noFile (path : String)
  | isDirectory (path : String)
  | notDirectory (path : String)
  | notText (path : String)
  /-- The system refuses to read a file, for a reason. -/
  | unreadable (reason : String)

/-- The text of a crash. -/
def Crash.message : Crash → String
  | fault e => e.message
  | registry e => e.message
  | json e => e.message
  | unwritable e => (WireFault.unwritable e).message
  | noFile path => "[Errno 2] No such file or directory: " ++ Text.quote path
  | isDirectory path => "[Errno 21] Is a directory: " ++ Text.quote path
  | notDirectory path => "[Errno 20] Not a directory: " ++ Text.quote path
  | notText path => path ++ " does not hold text"
  | unreadable reason => reason

/-- Why a session ends before its last step: with an exit code, or by a crash. -/
inductive Ending where
  | exit (code : Nat)
  | crash (e : Crash)

/-- A computation that prints and logs. -/
abbrev Session (α : Type) := ExceptT Ending (StateM Transcript) α

namespace Session

/-- Prints a line. -/
def print (line : String) : Session Unit :=
  modify fun t => { t with printed := t.printed ++ [line] }

/-- Appends to the log. -/
def log (notices : List Notice) : Session Unit :=
  modify fun t => { t with notices := t.notices ++ notices }

/-- Logs an error. -/
def logError (text : String) : Session Unit :=
  log [Notice.fail text]

/-- Ends the session with an exit code. -/
def exit {α : Type} (code : Nat) : Session α :=
  throw (.exit code)

/-- Ends the session by a crash. -/
def crash {α : Type} (e : Crash) : Session α :=
  throw (.crash e)

/-- A result that may be a crash. -/
def lift {α : Type} (x : Except Crash α) : Session α :=
  match x with
  | .ok a => pure a
  | .error e => crash e

end Session

section

variable [Surroundings] [YamlLibrary]

/-- How the help begins. -/
def usageMark : String := "usage:"

/-- The help. -/
def usage : String :=
  usageMark ++ " component-tree [options] [tree]\n\n" ++
    "Resolve component trees into their wire format\n\n" ++
    "options: " ++ String.intercalate ", " (Switch.names.map (·.1)) ++ "\n"

/-- The entries that arguments of the form `key=value` give.  A value is read as a JSON document,
and kept as a text if it is none; an argument of another form is worth a warning. -/
def contextEntries : List String → Except Fault (Entries × List Notice)
  | args => go [] [] args
where
  /-- Adds the entries of arguments to those read before. -/
  go (entries : Entries) (notices : List Notice) :
      List String → Except Fault (Entries × List Notice)
    | [] => .ok (entries, notices)
    | arg :: rest =>
      match Text.cut? '=' arg.toList with
      | none =>
        let warning := "Invalid context format '" ++ arg ++ "', expected KEY=VALUE"
        go entries (notices ++ [Notice.warn warning]) rest
      | some (key, text) =>
        let key := Key.str (Text.trim (String.ofList key))
        let text := String.ofList text
        match Json.read text with
        | .ok j => go (Entries.set entries key j.toValue) notices rest
        | .error e =>
          match e.misfit with
          -- an integer that is too long is not taken for a text
          | .longInteger digits => .error (.longInteger digits)
          | _ => go (Entries.set entries key (.str text)) notices rest

/-- Whether a file stands where a directory would have to be on the way to a path. -/
def isBlocked (files : Files) (path : Path) : Bool :=
  (List.range path.parts.length).any fun n =>
    match files.get? { path with parts := path.parts.take n } with
    | some (.octets _) => true
    | some (.plugin _) => true
    | some (.unreadable _) => true
    | _ => false

/-- The data in the file of a tree. -/
def readTree (files : Files) (path : Path) : Except Crash Value :=
  match files.get? path with
  | none => if isBlocked files path then .error (.notDirectory path.text)
    else .error (.noFile path.text)
  | some .directory => .error (.isDirectory path.text)
  | some (.unreadable reason) => .error (.unreadable reason)
  | some _ =>
    match files.readText? path with
    | none => .error (.notText path.text)
    | some text =>
      match Json.read text with
      | .ok j => .ok j.toValue
      | .error e =>
        match e.misfit with
        | .longInteger digits => .error (.fault (.longInteger digits))
        | _ => .error (.json e)

/-- The crash that a configuration file causes. -/
def crashOf : Config.FileFault → Crash
  | .notText path => .notText path
  | .fault e => .fault e

/-- The configuration that a file gives.  The file is checked first, and any problem ends the
session. -/
def configureFrom (files : Files) (path : Path) : Session Entries := do
  let (problems, notices) ← Session.lift ((Config.fileProblems files path).mapError crashOf)
  Session.log notices
  if problems.isEmpty then
    let (config, notices) ← Session.lift ((Config.load files path).mapError crashOf)
    Session.log notices
    return config
  else
    for problem in problems do Session.logError ("Config: " ++ problem)
    Session.exit 1

/-- The configuration of a session: that of the named file, or the defaults. -/
def configure (files : Files) : Option String → Session Entries
  | some path => configureFrom files (.ofText path)
  | none => return Config.defaults

/-- The registry of a session; a definition that cannot be loaded ends the session. -/
def buildRegistry (lib : Library) (files : Files) (config : Entries) (extra : List String) :
    Session Registry := do
  let (result, notices) := Registry.ofConfig lib files config extra
  Session.log notices
  match result with
  | .ok r => return r
  | .error (.definition e) =>
    Session.logError e.message
    for problem in e.errors do Session.logError ("  " ++ problem)
    Session.exit 1
  | .error e => Session.crash (.registry e)

/-- A type in the list of types, with its description if there is one. -/
def typeLine (r : Registry) (name : String) : String :=
  match r.get? name with
  | some d => if d.description.truthy then name ++ " - " ++ d.description.text else name
  | none => name

/-- The roots of the trees in the data of a file: the elements of a list, or the data itself. -/
def rootsOf : Value → List Value
  | .list vs => vs
  | v => [v]

/-- Validates trees, and says whether all are valid. -/
def validateAll (r : Registry) : List Value → Session Bool
  | [] => return true
  | root :: rest => do
    let findings := Tree.validate (some r.types) root
    Session.log (findings.warnings.map fun f => Notice.warn f.text)
    if !findings.valid then Session.print findings.text
    let others ← validateAll r rest
    return findings.valid && others

/-- Resolves one tree and gives its wire form, unless it is dropped. -/
def resolveRoot (r : Resolver) (context : Context) (root : Value) : Session (List Value) := do
  let run := r.resolveTree context root
  Session.log run.report.notices
  match r.finish run with
  | .error (.fault e) => Session.crash (.fault e)
  | .error (.strict first records) =>
    Session.logError (ResolutionFault.strict first records).message
    for record in records do Session.logError ("  " ++ record.text)
    Session.exit 1
  | .ok resolution =>
    match resolution.tree with
    | none => return []
    | some tree =>
      match Wire.tree Wire.rootPath tree with
      | .ok wire => return [Wire.shape wire]
      | .error e =>
        Session.logError
          ("Serialization failed at " ++ e.path.getD "None" ++ ": " ++ e.message)
        Session.exit 1

/-- Resolves trees one after the other. -/
def resolveAll (r : Resolver) (context : Context) : List Value → Session (List Value)
  | [] => return []
  | root :: rest => do
    let first ← resolveRoot r context root
    let others ← resolveAll r context rest
    return first ++ others

/-- What is printed for the data of a file, given the wire forms of its trees. -/
def outputOf (data : Value) (wire : List Value) : Value :=
  match data with
  | .list _ => .list wire
  | _ => wire.headD .null

/-- The depth bound of a session: the named one, unless it is zero, or the configured one. -/
def depthSetting (config : Entries) (named : Option Int) : Except Fault Value :=
  match named with
  | some i => if i = 0 then Config.depthSetting config else .ok (.int i)
  | none => Config.depthSetting config

/-- What is to be done with the trees in a file. -/
structure Job where
  /-- The entries that the context of the request is given. -/
  entries : Entries
  /-- The setting that gives the bound on the depth. -/
  maxDepth : Value
  traceLevel : TraceLevel
  strict : Bool
  validateOnly : Bool
  style : Json.Style

namespace Job

/-- The context in which the trees are resolved. -/
def context (job : Job) : Context :=
  Context.request job.entries []

/-- The resolver of the trees, given the bound on the depth. -/
def resolver (job : Job) (r : Registry) (bound : Nat) : Resolver where
  registry := r
  maxDepth := bound
  traceLevel := job.traceLevel
  strict := job.strict

end Job

/-- The job that arguments ask for. -/
def jobOf (a : Arguments) (config : Entries) : Session Job := do
  let traceLevel ← Session.lift
    ((if a.debug then .ok .detailed else Config.traceLevel config).mapError .fault)
  let (entries, notices) ← Session.lift ((contextEntries a.context).mapError .fault)
  Session.log notices
  let maxDepth ← Session.lift ((depthSetting config a.maxDepth).mapError .fault)
  return {
    entries
    maxDepth
    traceLevel
    strict := a.strict
    validateOnly := a.validate
    style := if a.compact then .oneLine else .indented 2 }

/-- Prints a value as a document. -/
def printDocument (style : Json.Style) (v : Value) : Session Unit :=
  match Wire.write style false v with
  | .ok text => Session.print text
  | .error (.unwritable e) => Session.crash (.unwritable e)
  | .error e => Session.logError e.message

/-- Resolves the trees in the data of a file and prints their wire forms. -/
def printTrees (r : Registry) (job : Job) (data : Value) : Session Unit := do
  let bound ← Session.lift ((Resolver.depthOf job.maxDepth).mapError .fault)
  let wire ← resolveAll (job.resolver r bound) job.context (rootsOf data)
  printDocument job.style (outputOf data wire)

/-- Validates the trees in a file, and resolves and prints them if all are valid. -/
def resolveFile (files : Files) (r : Registry) (job : Job) (path : Path) : Session Unit := do
  let data ← Session.lift (readTree files path)
  let valid ← validateAll r (rootsOf data)
  if valid then
    if job.validateOnly then Session.print "✓ Tree is valid" else printTrees r job data
  else Session.exit 1

/-- Says where the service listens.  Whoever accepts the connections there has their requests
answered by the service of the configuration. -/
def announce (config : Entries) (a : Arguments) : Session Unit := do
  let server := match Entries.lookup config "server" with
    | .map entries => entries
    | _ => []
  let host := (a.host.map Value.str).getD (Entries.lookup server "host")
  let port := (a.port.map Value.int).getD (Entries.lookup server "port")
  let address := "http://" ++ host.text ++ ":" ++ port.text
  Session.print ("Starting Component Tree Engine on " ++ address)
  Session.print ("API docs: " ++ address ++ "/docs")

/-- Does what arguments ask for. -/
def follow (lib : Library) (files : Files) (a : Arguments) : Session Unit := do
  let config ← configure files a.config
  if a.serve then announce config a
  else
    let r ← buildRegistry lib files config a.definitions
    if a.listTypes then
      for name in r.types do Session.print (typeLine r name)
    else if a.docs then Session.print (r.docs none)
    else
      match a.tree with
      | none =>
        Session.print usage
        Session.exit 1
      | some path => do
        let job ← jobOf a config
        resolveFile files r job (.ofText path)

/-- The files and directories that the words of a command line name. -/
def namedPlaces (words : List String) : List String :=
  match Arguments.read words with
  | .ok a => a.config.toList ++ a.tree.toList ++ a.definitions
  | .error _ => []

/-- The directories of definitions that the configuration of a command line names. -/
def configuredPlaces (files : Files) (words : List String) : List String :=
  match Arguments.read words with
  | .error _ => []
  | .ok a =>
    match ((configure files a.config).run ⟨[], []⟩).1 with
    | .error _ => []
    | .ok config => ((Config.directories config).toOption.getD []).map (·.text)

/-- What a run of the program leaves behind. -/
structure Outcome where
  exitCode : Nat
  printed : String
  notices : List Notice

/-- Printed lines as one text. -/
def textOf (lines : List String) : String :=
  String.join (lines.map (· ++ "\n"))

/-- Runs the program on the words of a command line. -/
def run (lib : Library) (files : Files) (words : List String) : Except Crash Outcome :=
  match Arguments.read words with
  | .error .help => .ok ⟨0, usage, []⟩
  | .error .misuse => .ok ⟨2, "", []⟩
  | .ok a =>
    let (result, transcript) := (follow lib files a).run ⟨[], []⟩
    match result with
    | .ok () => .ok ⟨0, textOf transcript.printed, transcript.notices⟩
    | .error (.exit code) => .ok ⟨code, textOf transcript.printed, transcript.notices⟩
    | .error (.crash e) => .error e

end

end PageTree.CommandLine
