import PageTree.Builtin.Library
import PageTree.Config.Basic
import PageTree.Registry.Loading

/-!
# Registries from configurations

`Filling.fillFrom` fills a registry as a configuration says: with the built-in definitions, those in
the configured directories and those in directories that are named besides.  The registry is frozen
in the end.  `Registry.ofConfig` runs it on an empty registry.
-/

namespace PageTree

variable [Surroundings] [YamlLibrary]

namespace Filling

/-- Fills a registry as a configuration says, and freezes it. -/
def fillFrom (lib : Library) (files : Files) (config : Entries) (extra : List String) :
    Filling Unit := do
  let settings ← lift ((Config.imageSettings config).mapError .fault)
  let _ ← storeBuiltins settings
  let directories ← lift ((Config.directories config).mapError .fault)
  let _ ← loadDirectories lib files (.list (directories ++ extra.map .str))
  freeze

end Filling

/-- The registry that a configuration gives, with the log of filling it.  The log is there also when
the registry cannot be filled. -/
def Registry.ofConfig (lib : Library) (files : Files) (config : Entries) (extra : List String) :
    Except RegistryFault Registry × List Notice :=
  let (result, shelf) := (Filling.fillFrom lib files config extra).run Shelf.empty
  (result.map fun _ => shelf.registry, shelf.notices)

end PageTree
