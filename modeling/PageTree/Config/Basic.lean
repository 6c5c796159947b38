import PageTree.Image.Responsive
import PageTree.Resolution.Trace
import PageTree.Settings
import PageTree.Text.Case

/-!
# Configurations

A configuration is a mapping of four sections: the directories of definitions, the server, the
resolution and the images.  `Config.defaults` holds what is not configured, `Config.merge` lays a
configuration over another, and the remaining functions read the settings that a configuration
gives.  `Config.schema` describes the form of a configuration.
-/

namespace PageTree.Config

/-- The directory of definitions that is searched unless others are configured. -/
def defaultDirectories : Value :=
  .list [.str Settings.userDefinitions]

/-- The configuration that holds where nothing is configured. -/
def defaults : Entries :=
  [(.str "definition_dirs", defaultDirectories),
    (.str "server",
      .map [(.str "host", .str Settings.host), (.str "port", .int Settings.port)]),
    (.str "resolution",
      .map [(.str "max_depth", .int Settings.maxDepth),
        (.str "trace_level", .str Settings.traceLevel)]),
    (.str "images",
      .map [(.str "sizes", .map []), (.str "breakpoints", .map []),
        (.str "missing_image_url", .str "")])]

/-- The schema of a value of one type. -/
def typed (type : String) (rest : Entries) : Value :=
  .map ((.str "type", .str type) :: rest)

/-- The schema of a mapping with the given entries and no others. -/
def closed (properties : Entries) : Value :=
  typed "object" [(.str "properties", .map properties), (.str "additionalProperties", .bool false)]

/-- The schema of a configuration. -/
def schema : Value :=
  .map [
    (.str "$schema", .str "https://json-schema.org/draft/2020-12/schema"),
    (.str "type", .str "object"),
    (.str "properties",
      .map [
        (.str "definition_dirs", typed "array" [(.str "items", typed "string" [])]),
        (.str "server",
          closed [
            (.str "host", typed "string" []),
            (.str "port",
              typed "integer" [(.str "minimum", .int 1), (.str "maximum", .int 65535)])]),
        (.str "resolution",
          closed [
            (.str "max_depth", typed "integer" [(.str "minimum", .int 1)]),
            (.str "trace_level",
              typed "string" [(.str "enum", .list (TraceLevel.sortedNames.map .str))])]),
        (.str "images",
          closed [
            (.str "sizes", typed "object" []),
            (.str "breakpoints",
              typed "object" [(.str "additionalProperties", typed "string" [])]),
            (.str "missing_image_url", typed "string" [])])]),
    (.str "additionalProperties", .bool false)]

mutual

/-- A value laid over another, which may be missing: mappings are merged at every depth, and
anything else replaces what was there. -/
def mergeValue (base : Option Value) : Value → Value
  | .map upper =>
    match base with
    | some (.map entries) => .map (merge entries upper)
    | _ => .map upper
  | v => v

/-- Entries laid over others: an entry that exists keeps its place, a new one comes last. -/
def merge (base : Entries) : List (Key × Value) → Entries
  | [] => base
  | (k, v) :: rest => merge (Entries.set base k (mergeValue (Entries.get? base k) v)) rest

end

/-- A section of a configuration. -/
def section? (config : Entries) (name : String) : Option Value :=
  Entries.find? config name

/-- A setting of the resolution, if it is there. -/
def resolutionSetting? (config : Entries) (name : String) : Except Fault (Option Value) := do
  let entries ← ((section? config "resolution").getD (.map [])).entriesFor "get"
  return Entries.find? entries name

/-- The trace level that a configuration names in letters of any case; an unknown name stands for
that of errors. -/
def traceLevel (config : Entries) : Except Fault TraceLevel := do
  let name := (← resolutionSetting? config "trace_level").getD (.str Settings.traceLevel)
  return (TraceLevel.ofName? (Text.lower name.text)).getD .errors

/-- The depth bound that a configuration gives. -/
def depthSetting (config : Entries) : Except Fault Value := do
  return (← resolutionSetting? config "max_depth").getD .null

/-- The image settings that a configuration gives. -/
def imageSettings (config : Entries) : Except Fault ImageSettings := do
  let images ← ((Entries.lookup config "images").orElse (.map [])).entriesFor "get"
  let sizes ← ((Entries.lookup images "sizes").orElse (.map [])).toEntries
  let breakpoints ← ((Entries.lookup images "breakpoints").orElse (.map [])).toEntries
  let missing := (Entries.find? images "missing_image_url").getD (.str "")
  return { sizes, breakpoints, missing }

/-- The directories of definitions that a configuration gives. -/
def directories (config : Entries) : Except Fault (List Value) :=
  ((Entries.lookup config "definition_dirs").orElse (.list [])).elements

end PageTree.Config
