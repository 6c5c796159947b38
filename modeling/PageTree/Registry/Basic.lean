import PageTree.Definition.Basic
import PageTree.Resolution.Record

/-!
# Registries

A `Registry` maps type names to definitions.  It is filled first and then frozen, after which it
only answers questions.  A definition stored under a name carries that name, and no name is empty.

`describe` gives a definition as data, and `docs` writes the documentation of all definitions,
grouped by the part of their names before the first slash.
-/

namespace PageTree

/-- The definitions of all known types. -/
structure Registry where
  definitions : List (String × Definition)
  frozen : Bool

namespace Registry

/-- The registry without definitions. -/
def empty : Registry where
  definitions := []
  frozen := false

/-- The definition of a type. -/
def get? (r : Registry) (name : String) : Option Definition :=
  (r.definitions.find? (·.1 == name)).map (·.2)

/-- Whether a type is defined. -/
def has (r : Registry) (name : String) : Bool :=
  (r.get? name).isSome

/-- The number of definitions. -/
def size (r : Registry) : Nat :=
  r.definitions.length

/-- Stores a definition in a list of them, in the place of one with the same name. -/
def store (name : String) (d : Definition) :
    List (String × Definition) → List (String × Definition)
  | [] => [(name, d)]
  | (n, e) :: rest => if n = name then (n, d) :: rest else (n, e) :: store name d rest

/-- The registry with a definition stored under a name. -/
def insert (r : Registry) (name : String) (d : Definition) : Registry :=
  { r with definitions := store name { d with name } r.definitions }

/-- The registry without the definition of a name. -/
def erase (r : Registry) (name : String) : Registry :=
  { r with definitions := r.definitions.filter (·.1 != name) }

/-- The registry after which nothing can be changed any more. -/
def freeze (r : Registry) : Registry :=
  { r with frozen := true }

/-- Texts in the order of their characters. -/
def sortNames (names : List String) : List String :=
  names.mergeSort fun a b => decide (a ≤ b)

/-- All defined types in alphabetic order. -/
def types (r : Registry) : List String :=
  sortNames (r.definitions.map (·.1))

/-- The defined types whose names start with a namespace and a slash. -/
def typesIn (r : Registry) (scope : String) : List String :=
  r.types.filter fun t => Text.startsWith (scope ++ "/").toList t.toList

/-- The group of names without a slash. -/
def generalGroup : String := "general"

/-- The group of a name: what stands before its first slash. -/
def groupOf (name : String) : String :=
  match Text.cut? '/' name.toList with
  | some (group, _) => String.ofList group
  | none => generalGroup

/-- Adds a name to its group. -/
def addToGroup (group name : String) :
    List (String × List String) → List (String × List String)
  | [] => [(group, [name])]
  | (g, ns) :: rest =>
    if g = group then (g, ns ++ [name]) :: rest else (g, ns) :: addToGroup group name rest

/-- Names by group, each group in the place of its first name. -/
def grouped (names : List String) : List (String × List String) :=
  names.foldl (fun groups n => addToGroup (groupOf n) n groups) []

/-- A requirement as data. -/
def describeRequirement (r : Requirement) : Value :=
  .map [(.str "type", r.type), (.str "source", r.source), (.str "default", r.default),
    (.str "description", r.description)]

/-- An optional text as data. -/
def optionText : Option String → Value
  | none => .null
  | some s => .str s

/-- A definition as data. -/
def describeDefinition (d : Definition) : Value :=
  .map [(.str "name", .str d.name), (.str "description", d.description),
    (.str "default_config", .map d.defaults),
    (.str "data_requirements",
      .map (d.requirements.map fun (k, r) => (k, describeRequirement r))),
    (.str "transform", optionText d.actionName), (.str "source", optionText d.source)]

/-- The definition of a type as data. -/
def describe (r : Registry) (name : String) : Option Value :=
  (r.get? name).map describeDefinition

/-- The documentation of one definition, line by line. -/
def docEntry (name : String) (d : Definition) : List String :=
  let description := if d.description.truthy then [d.description.text ++ "\n"] else []
  let defaults :=
    if d.defaults.isEmpty then []
    else
      "**Defaults:**" ::
        d.defaults.map (fun (k, v) => "- `" ++ k.text ++ "` = `" ++ v.show ++ "`") ++ [""]
  let data :=
    if d.requirements.isEmpty then []
    else
      "**Data:**" ::
        d.requirements.map (fun (k, r) =>
          "- `" ++ k.text ++ "`: " ++ r.type.text ++ " (from `" ++ r.source.text ++ "`)") ++ [""]
  ("### `" ++ name ++ "`") :: description ++ defaults ++ data ++ ["---\n"]

/-- The documentation of a group, line by line. -/
def docSection (r : Registry) (group : String) (names : List String) : List String :=
  ("## " ++ group ++ "\n") :: names.flatMap fun n =>
    match r.get? n with
    | some d => docEntry n d
    | none => []

/-- The documentation of the given types, group by group. -/
def docsOf (r : Registry) (names : List String) : String :=
  let groups := grouped names
  let sections := (sortNames (groups.map (·.1))).flatMap fun g =>
    match groups.find? (·.1 == g) with
    | some (_, ns) => docSection r g ns
    | none => []
  joinWith "\n" sections

/-- The documentation of all types, or of those in a namespace. -/
def docs (r : Registry) (scope : Option String) : String :=
  match scope with
  | none => r.docsOf r.types
  | some s => if s = "" then r.docsOf r.types else r.docsOf (r.typesIn s)

end Registry

end PageTree
