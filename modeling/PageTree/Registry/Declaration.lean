import PageTree.Registry.Library

/-!
# Definitions from declarations

A declaration is a mapping with the parts of a definition.  `Definition.ofDeclaration` makes the
definition, looking up its transform in a library, and `Value.overlay` lays one declaration over
another: mappings are merged at every depth, and lists are put one after the other.
-/

namespace PageTree

/-- Reads an optional entry of a declaration as a mapping. -/
def mappingEntry (entries : Entries) (name : String) : Except Fault Entries :=
  ((Entries.lookup entries name).orElse (.map [])).toEntries

namespace Definition

/-- A definition from its parts. -/
def ofParts (name : String) (defaults requirements : Entries) (action : Option Action)
    (description : Value) (source : Option String) : Except Fault Definition := do
  let requirements ← Requirement.ofEntries requirements
  return { name, defaults, requirements, action, description, source }

/-- The definition that a declaration with the given name makes. -/
def ofDeclaration (lib : Library) (source : Option String) (name : String) (entries : Entries) :
    Except RegistryFault Definition := do
  let action ← lib.actionOf source (Entries.lookup entries "transform")
  let parts : Except Fault Definition := do
    let defaults ← mappingEntry entries "default_config"
    let requirements ← mappingEntry entries "data_requirements"
    ofParts name defaults requirements action
      ((Entries.find? entries "description").getD (.str "")) source
  parts.mapError .fault

/-- The first line of a description, without white space around the whole. -/
def firstLine (doc : String) : String :=
  (Text.splitAt '\n' (Text.trim doc)).headD ""

/-- The definition that runs a function.  Without a description it gets the first line of what the
function says about itself. -/
def ofTransform (name : String) (defaults requirements description : Value) (t : Transform) :
    Except Fault Definition := do
  let defaults ← (defaults.orElse (.map [])).toEntries
  let requirements ← (requirements.orElse (.map [])).toEntries
  ofParts name defaults requirements (some (.run t))
    (description.orElse (.str (firstLine t.doc))) (some (t.home ++ ":" ++ t.name))

end Definition

mutual

/-- One value laid over another, which may be missing: mappings are merged, lists put one after the
other, and anything else is replaced. -/
def Value.overlay (base : Option Value) : Value → Value
  | .map upper =>
    match base with
    | some (.map entries) => .map (Value.overlayEntries entries upper)
    | _ => .map upper
  | .list vs =>
    match base with
    | some (.list ws) => .list (ws ++ vs)
    | _ => .list vs
  | v => v

/-- Entries laid over others: an entry that exists keeps its place, a new one comes last. -/
def Value.overlayEntries (base : Entries) : List (Key × Value) → Entries
  | [] => base
  | (k, v) :: rest =>
    Value.overlayEntries (Entries.set base k (Value.overlay (Entries.get? base k) v)) rest

end

end PageTree
