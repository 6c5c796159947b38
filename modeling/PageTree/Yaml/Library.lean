import PageTree.Fault

/-!
# Libraries of YAML

A `YamlLibrary` reads texts as YAML documents.  The registry and the configuration only use what it
gives for a text: the data, or the reason why there are none.
-/

namespace PageTree

/-- Why a text gives no data. -/
inductive YamlMisfit where
  /-- The text is no document; the reason is in the words of the library. -/
  | unparsable (reason : String)
  /-- The text is a document, but its data cannot be made. -/
  | fault (e : Fault)

/-- A library that reads YAML. -/
class YamlLibrary where
  /-- The data in a text. -/
  load : String → Except YamlMisfit Value

end PageTree
