import PageTree.Definition.Tag
import PageTree.Validation.Finding

/-!
# Validation of declarations

Whether data can be registered as a definition.  A declaration is a mapping with a name; its
defaults and requirements are mappings, every requirement has a known type tag, and its transform is
a function or the path of one.  Keys that a declaration does not have are worth a warning.
-/

namespace PageTree.Declaration

/-- The keys that a declaration may have. -/
def knownKeys : List String :=
  ["name", "description", "default_config", "data_requirements", "transform"]

/-- Whether a declaration may have a key. -/
def isKnownKey : Key → Bool
  | .str s => knownKeys.contains s
  | _ => false

/-- Findings about the name. -/
def checkName (entries : Entries) : List Finding :=
  match Entries.lookup entries "name" with
  | .str s =>
    if s = "" then [missing] else []
  | _ => [missing]
where
  /-- The name is missing. -/
  missing : Finding :=
    .error "Declaration missing 'name'" none (some "Add a 'name' field (e.g., 'post/title')")

/-- Findings about the keys. -/
def checkKeys (entries : Entries) : List Finding :=
  ((Entries.keys entries).filter fun k => !isKnownKey k).map fun k =>
    .warning ("Unknown declaration key: '" ++ k.text ++ "'") (some k.text) none

/-- Findings about the defaults. -/
def checkDefaults (entries : Entries) : List Finding :=
  match Entries.lookup entries "default_config" with
  | .null => []
  | .map _ => []
  | _ => [.error "'default_config' must be a mapping" (some "default_config") none]

/-- Findings about the type tag of a requirement. -/
def checkTag (name : Key) (tag : Value) : Except Fault (List Finding) := do
  match ← TypeTag.ofValue? tag with
  | some _ => return []
  | none =>
    return [.error ("Unknown type '" ++ tag.text ++ "' for data requirement '" ++ name.text ++ "'")
      (some ("data_requirements." ++ name.text))
      (some ("Use one of: " ++ showTexts TypeTag.sortedNames))]

/-- The requirement is neither a mapping nor a tag. -/
def badRequirement (name : Key) : Finding :=
  .error ("Data requirement '" ++ name.text ++ "' must be a mapping or type string")
    (some ("data_requirements." ++ name.text)) none

/-- Findings about one requirement. -/
def checkRequirement (name : Key) (spec : Value) : Except Fault (List Finding) :=
  match spec with
  | .str _ => checkTag name spec
  | .map entries =>
    match (Entries.find? entries "type").getD (.str "any") with
    | .null => .ok [badRequirement name]
    | tag => checkTag name tag
  | _ => .ok [badRequirement name]

/-- Findings about requirements one after the other. -/
def checkRequirements : Entries → Except Fault (List Finding)
  | [] => .ok []
  | (name, spec) :: rest => do
    let first ← checkRequirement name spec
    let others ← checkRequirements rest
    return first ++ others

/-- Findings about the requirements. -/
def checkData (entries : Entries) : Except Fault (List Finding) :=
  match Entries.lookup entries "data_requirements" with
  | .null => .ok []
  | .map requirements => checkRequirements requirements
  | _ => .ok [.error "'data_requirements' must be a mapping" (some "data_requirements") none]

/-- Findings about the transform. -/
def checkTransform (entries : Entries) : List Finding :=
  match Entries.lookup entries "transform" with
  | .null => []
  | .callable _ => []
  | .str s => if s.toList.contains ':' then [] else [notPath]
  | _ => [notPath]
where
  /-- The transform is no path. -/
  notPath : Finding :=
    .error "'transform' must be an import path like 'package.module:function'" (some "transform")
      none

/-- Validates a declaration. -/
def validate (data : Value) : Except Fault Findings :=
  match data with
  | .map entries => do
    let fromData ← checkData entries
    return .ofList (checkName entries ++ checkKeys entries ++ checkDefaults entries ++ fromData ++
      checkTransform entries)
  | _ => .ok (.ofList [.error "Declaration must be a mapping/object" none none])

end PageTree.Declaration
