import PageTree.Config.Basic

/-!
# Checking configurations

`Config.problems` lists what is wrong with data that should be a configuration: unknown keys,
sections of another kind, and settings out of their range.
-/

namespace PageTree.Config

/-- The sections of a configuration. -/
def sections : List String := ["definition_dirs", "server", "resolution", "images"]

/-- Whether a key is among known ones. -/
def isKnown (known : List String) : Key → Bool
  | .str s => known.contains s
  | _ => false

/-- Problems with the keys of a mapping. -/
def unknownKeys (what : String) (known : List String) (entries : Entries) : List String :=
  ((Entries.keys entries).filter fun k => !isKnown known k).map fun k =>
    "Unknown " ++ what ++ " key: " ++ k.text

/-- A problem, unless a condition holds. -/
def require (holds : Bool) (problem : String) : List String :=
  if holds then [] else [problem]

/-- Whether a value is a text. -/
def isText : Value → Bool
  | .str _ => true
  | _ => false

/-- Whether a value is a mapping. -/
def isMapping : Value → Bool
  | .map _ => true
  | _ => false

/-- Whether a value is a list of texts. -/
def isTextList : Value → Bool
  | .list vs => vs.all isText
  | _ => false

/-- Whether a value is missing or a whole number in a range. -/
def isWholeWhere (p : Int → Bool) : Value → Bool
  | .null => true
  | .int i => p i
  | _ => false

/-- Whether a value is missing or names a trace level. -/
def isLevelName (v : Value) : Bool :=
  v.isNull || (TraceLevel.ofName? (Text.lower v.text)).isSome

/-- Problems with the directories of definitions. -/
def directoryProblems : Value → List String := fun v =>
  require (isTextList v) "definition_dirs must be a list of paths"

/-- Problems with the server. -/
def serverProblems : Value → List String
  | .map entries =>
    unknownKeys "server" ["host", "port"] entries ++
      require (isWholeWhere (fun i => 1 ≤ i && i ≤ 65535) (Entries.lookup entries "port"))
        "server.port must be between 1 and 65535"
  | _ => ["server must be an object"]

/-- Problems with the resolution. -/
def resolutionProblems : Value → List String
  | .map entries =>
    unknownKeys "resolution" ["max_depth", "trace_level"] entries ++
      require (isWholeWhere (fun i => 1 ≤ i) (Entries.lookup entries "max_depth"))
        "resolution.max_depth must be a positive integer" ++
      require (isLevelName (Entries.lookup entries "trace_level"))
        ("resolution.trace_level must be one of " ++ showTexts TraceLevel.sortedNames)
  | _ => ["resolution must be an object"]

/-- A problem with an entry that has to be a mapping if it is there. -/
def mappingProblems (entries : Entries) (name : String) : List String :=
  match Entries.find? entries name with
  | none => []
  | some v => require (isMapping v) ("images." ++ name ++ " must be an object")

/-- Problems with the images. -/
def imageProblems : Value → List String
  | .map entries =>
    unknownKeys "images" ["sizes", "breakpoints", "missing_image_url"] entries ++
      mappingProblems entries "sizes" ++ mappingProblems entries "breakpoints"
  | _ => ["images must be an object"]

/-- Problems with one section, if it is there. -/
def sectionProblems (config : Entries) (name : String) (check : Value → List String) :
    List String :=
  match section? config name with
  | none => []
  | some v => check v

/-- Everything that is wrong with data that should be a configuration. -/
def problems : Value → List String
  | .map config =>
    unknownKeys "config" sections config ++
      sectionProblems config "definition_dirs" directoryProblems ++
      sectionProblems config "server" serverProblems ++
      sectionProblems config "resolution" resolutionProblems ++
      sectionProblems config "images" imageProblems
  | _ => ["Config must be a mapping/object"]

end PageTree.Config
