import PageTree.Fault
import PageTree.Url.Basic
import PageTree.Url.Query

/-!
# Libraries of addresses

Addresses are read, changed and written by a library, and what the program does with them is said
for any library.  The definitions on addresses and queries make one that runs.
-/

namespace PageTree

/-- A library of addresses and their query parameters. -/
class UrlLibrary where
  /-- Reads an address. -/
  read : String → Except Fault Url
  /-- Writes an address. -/
  write : Url → String
  /-- The query parameters of an address. -/
  params : Url → QueryParams
  /-- Gives a parameter one value in the place of all it has. -/
  setParam : QueryParams → String → String → QueryParams
  /-- An address with another query. -/
  withQuery : Url → String → Except Fault Url

end PageTree
