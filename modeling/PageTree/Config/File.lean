import PageTree.Config.Check
import PageTree.Files
import PageTree.Resolution.Record
import PageTree.Yaml.Library

/-!
# Configuration files

A configuration file is a YAML document.  A file that is missing, empty or no mapping configures
nothing, and neither does one that the system refuses to read or that cannot be parsed, which is
worth a warning.
-/

namespace PageTree.Config

/-- Why a configuration file cannot be used at all. -/
inductive FileFault where
  /-- It does not hold text. -/
  | notText (path : String)
  /-- Its data cannot be made. -/
  | fault (e : Fault)

/-- The warning about a file that is not used, for a reason. -/
def ignored (path : Path) (reason : String) : List Notice :=
  [Notice.warn ("Ignoring unreadable config file " ++ path.text ++ ": " ++ reason)]

section

variable [YamlLibrary]

/-- What the text of a configuration file configures, with the log of reading it. -/
def ofText (path : Path) (text : String) : Except FileFault (Entries × List Notice) :=
  match YamlLibrary.load text with
  | .error (.unparsable reason) => .ok ([], ignored path reason)
  | .error (.fault e) => .error (.fault e)
  | .ok (.map entries) => .ok (entries, [])
  | .ok _ => .ok ([], [])

/-- What a configuration file configures, with the log of reading it. -/
def readFile (files : Files) (path : Path) : Except FileFault (Entries × List Notice) :=
  if files.has path then
    match files.refusal? path with
    | some reason => .ok ([], ignored path reason)
    | none =>
      match files.readText? path with
      | some text => ofText path text
      | none => .error (.notText path.text)
  else .ok ([], [])

/-- The configuration that a file gives, over the defaults. -/
def load (files : Files) (path : Path) : Except FileFault (Entries × List Notice) := do
  let (entries, notices) ← readFile files path
  return (merge defaults entries, notices)

/-- What is wrong with a configuration file; nothing if there is none. -/
def fileProblems (files : Files) (path : Path) :
    Except FileFault (List String × List Notice) :=
  if files.has path then do
    let (entries, notices) ← readFile files path
    return (problems (.map entries), notices)
  else .ok ([], [])

end

end PageTree.Config
