import PageTree.Builtin.Declared
import PageTree.Builtin.Image
import PageTree.Builtin.Post
import PageTree.Registry.Library
import PageTree.Registry.Shelf

/-!
# The built-in library

`Library.shipped` holds the modules whose functions declarations can name, and
`Builtin.definitions` the definitions that every registry starts with.
-/

namespace PageTree

namespace Builtin

variable [Surroundings]

/-- The built-in definitions for a site with the given image settings. -/
def definitions (settings : ImageSettings) : List Definition :=
  declaredDefinitions ++ postDefinitions ++ [image settings]

/-- A module with functions and other members. -/
def moduleOf (name : String) (transforms : List Transform) (constants : List String) : Module where
  name := name
  isPackage := false
  functions := transforms.map fun t => (t.name, t)
  constants := constants

/-- A module with other modules inside. -/
def packageOf (name : String) : Module where
  name := name
  isPackage := true
  functions := []
  constants := []

/-- The name of the library's outermost module. -/
def libraryName : String := "component_tree_engine"

/-- The names of the modules with other modules inside. -/
def packages : List String :=
  [libraryName, libraryName ++ ".components", libraryName ++ ".core", libraryName ++ ".server"]

/-- The names of the modules without transforms. -/
def plainModules : List String :=
  ["config", "runner", "settings", "components.content", "components.image", "core.component",
    "core.context", "core.errors", "core.markup", "core.registry", "core.resolver",
    "core.serializer", "core.tracing", "core.validation", "server.app", "server.models",
    "server.pages", "server.routes"]

/-- The members of the module for documents that are no functions. -/
def postConstants : List String :=
  ["CONTENT_TAGS", "MISSING_DOCUMENT_TEXT", "SOCIAL_SHARING_TEXT", "POST_ID_REQUIREMENT",
    "POST_COMPONENTS", "annotations", "html"]

end Builtin

variable [Surroundings]

/-- The library of the built-in transforms. -/
def Library.shipped : Library where
  modules :=
    [Builtin.moduleOf Builtin.footerTransform.home [Builtin.footerTransform] ["annotations"],
      Builtin.moduleOf Builtin.postHome Builtin.postTransforms Builtin.postConstants] ++
      Builtin.packages.map Builtin.packageOf ++
      Builtin.plainModules.map fun name =>
        Builtin.moduleOf (Builtin.libraryName ++ "." ++ name) [] []
  ofHandle := fun _ => none

/-- Stores the built-in definitions and gives their names. -/
def Filling.storeBuiltins (settings : ImageSettings) : Filling (List String) :=
  storeAll (Builtin.definitions settings)

end PageTree
