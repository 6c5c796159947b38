import PageTree.Fault
import PageTree.Site.Basic

/-!
# Pages

A page is what is shown for a request, before it is resolved: the trees of the site, the trees of
the page itself, the trees of providers, and possibly a redirect.  `Page.usual` shows the parts of a
single document, or links to several.
-/

namespace PageTree

/-- What is shown for a request. -/
structure Page where
  defaults : List Value
  page : List Value
  providers : List Value
  redirectTo : String
  redirectStatus : Int

/-- What a page is built from: the path and the name of the context as they were asked for, the
result of the content query, and the remaining parameters. -/
structure PageRequest where
  path : String
  context : String
  result : QueryResult Key Value
  params : List (String × String)

/-- A way of building pages. -/
abbrev PageBuilder := PageRequest → Except Fault Page

namespace Page

/-- A page that shows nothing. -/
def empty : Page where
  defaults := []
  page := []
  providers := []
  redirectTo := ""
  redirectStatus := 0

/-- A node without configuration and children. -/
def leaf (type : String) : Child :=
  .node (.mk type [] [])

/-- The parts of a single document. -/
def article : Value :=
  .node (.mk "container" []
    [leaf "post/title", leaf "post/byline", leaf "post/content", leaf "post/tags"])

/-- A link to a document. -/
def linkTo (d : Document Key Value) : Child :=
  .node
    (.mk "link" [(.str "href", .str d.permalink)] (if d.title = "" then [] else [.text d.title]))

/-- Links to documents. -/
def index (ds : List (Document Key Value)) : Value :=
  .node (.mk "container" [] (ds.map linkTo))

/-- The name of the context in which the trees of the site are sent along. -/
def siteContext : String := "site"

/-- The usual page of a request: the parts of the only document found or links to all of them, with
the footer where the trees of the site are asked for. -/
def usual (r : PageRequest) : Page :=
  let defaults := if r.context = siteContext then [.node (.mk "footer" [] [])] else []
  let page :=
    if r.result.notFound then []
    else
      match r.result.documents with
      | [_] => [article]
      | ds => [index ds]
  { empty with defaults, page }

end Page

end PageTree
