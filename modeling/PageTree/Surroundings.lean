import PageTree.Markup.Library
import PageTree.Url.Library

/-!
# Surroundings

What the definitions of nodes rely on and do not define: a calendar, a library of addresses and a
library of markup.
-/

namespace PageTree

/-- A calendar. -/
class Calendar where
  /-- The current year. -/
  year : Nat

/-- The calendar and the libraries that the built-in definitions use. -/
class Surroundings extends UrlLibrary, MarkupLibrary, Calendar

end PageTree
