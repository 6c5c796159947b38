import PageTree.Registry.Basic
import PageTree.Service.Library

/-!
# Schemas of answers

The description of a definition is checked before it is given out: `TypeSchema.ofInfo?` reads its
fields, which are texts, optional texts, data, and mappings from texts to data or to the schemas of
requirements.  `TypeSchema.document` writes them.
-/

namespace PageTree

/-- A requirement as it is given out. -/
structure RequirementSchema where
  type : String
  source : String
  default : Value
  description : String

/-- A definition as it is given out. -/
structure TypeSchema where
  name : String
  description : String
  defaultConfig : List (String × Value)
  dataRequirements : List (String × RequirementSchema)
  transform : Option String
  source : Option String

variable [WebFramework]

/-- A text that may be missing, if a field takes the value for one. -/
def optionalText? : Value → Option (Option String)
  | .null => some none
  | v => (WebFramework.text? v).map some

/-- The entries of a mapping with texts as names, if a field takes it for one.  Of two entries with
one name the later one stands in the place of the earlier one. -/
def namedEntries? {α : Type} (read : Value → Option α) : Entries → Option (List (String × α))
  | [] => some []
  | (k, v) :: rest => do
    let name ← WebFramework.text? k.toValue
    let a ← read v
    let others ← namedEntries? read rest
    return (name, (others.lookup name).getD a) :: others.filter (·.1 != name)

/-- A mapping with texts as names, if a field takes the value for one. -/
def namedMapping? {α : Type} (read : Value → Option α) : Value → Option (List (String × α))
  | .map entries => namedEntries? read entries
  | _ => none

/-- Reads the description of a requirement. -/
def RequirementSchema.ofInfo? : Value → Option RequirementSchema
  | .map info => do
    let type ← WebFramework.text? (Entries.lookup info "type")
    let source ← WebFramework.text? (Entries.lookup info "source")
    let description ← WebFramework.text? (Entries.lookup info "description")
    return { type, source, default := Entries.lookup info "default", description }
  | _ => none

/-- A requirement as a document. -/
def RequirementSchema.document (r : RequirementSchema) : Except ServiceFault Json := do
  let default ← WebFramework.document r.default
  return .object [("type", .str r.type), ("source", .str r.source), ("default", default),
    ("description", .str r.description)]

/-- Members whose values are written one after the other. -/
def namedDocuments {α : Type} (write : α → Except ServiceFault Json) :
    List (String × α) → Except ServiceFault (List (String × Json))
  | [] => .ok []
  | (name, a) :: rest => do
    let j ← write a
    let others ← namedDocuments write rest
    return (name, j) :: others

namespace TypeSchema

/-- Reads the description of a definition. -/
def ofInfo? : Value → Option TypeSchema
  | .map info => do
    let name ← WebFramework.text? (Entries.lookup info "name")
    let description ← WebFramework.text? (Entries.lookup info "description")
    let defaultConfig ← namedMapping? some (Entries.lookup info "default_config")
    let dataRequirements ←
      namedMapping? RequirementSchema.ofInfo? (Entries.lookup info "data_requirements")
    let transform ← optionalText? (Entries.lookup info "transform")
    let source ← optionalText? (Entries.lookup info "source")
    return { name, description, defaultConfig, dataRequirements, transform, source }
  | _ => none

/-- An optional text as a document. -/
def optionalDocument : Option String → Json
  | none => .null
  | some s => .str s

/-- A definition as a document. -/
def document (t : TypeSchema) : Except ServiceFault Json := do
  let defaultConfig ← namedDocuments WebFramework.document t.defaultConfig
  let dataRequirements ← namedDocuments RequirementSchema.document t.dataRequirements
  return .object [("name", .str t.name), ("description", .str t.description),
    ("default_config", .object defaultConfig), ("data_requirements", .object dataRequirements),
    ("transform", optionalDocument t.transform), ("source", optionalDocument t.source)]

/-- The document that is given out for the description of a definition. -/
def bodyOf (info : Value) : Except ServiceFault Json :=
  match ofInfo? info with
  | some t => t.document
  | none => .error .badDefinition

end TypeSchema

end PageTree
