import PageTree.Registry.Configured
import PageTree.Resolution.Resolver
import PageTree.Service.Schema
import PageTree.Site.Page

/-!
# The service

The service answers requests about the trees of a site and about the known types of nodes.
`Service.answer` is the answer to one request; nothing is kept between requests.

A request for trees asks the site for a path.  A path without a slash at its end that shows
something is redirected to the one with the slash.  Otherwise the page is built, resolved in a fresh
context and sent in wire form.  How a request finds its route and how the description of a type is
checked and written is up to the framework.
-/

namespace PageTree

/-- What the service answers with. -/
structure Service where
  registry : Registry
  site : Site
  builder : PageBuilder
  maxDepth : Value
  traceLevel : TraceLevel

namespace Service

/-- The service that a configuration gives for a site.  Its registry is made from the configuration
too, unless it is given. -/
def ofConfig [Surroundings] [YamlLibrary] (lib : Library) (files : Files) (config : Entries)
    (registry : Option Registry) (site : Site) (builder : PageBuilder) :
    Except RegistryFault Service := do
  let traceLevel ← (Config.traceLevel config).mapError .fault
  let registry ← match registry with
    | some r => pure r
    | none => (Registry.ofConfig lib files config []).1
  let maxDepth ← (Config.depthSetting config).mapError .fault
  return { registry, site, builder, maxDepth, traceLevel }

/-- Why a page cannot be sent: a fault without an answer, or a tree without wire form, which an
answer explains. -/
inductive Stopped where
  | fault (e : ServiceFault)
  | wire (e : WireFault)

/-- Resolves trees and brings them into wire form. -/
def send (r : Resolver) (context : Context) (trees : List Value) : Except Stopped Value := do
  let run := r.resolveTrees context trees
  let children ← run.result.mapError fun e => .fault (.fault e)
  let wire ← (Wire.siblings children).mapError .wire
  return .list (wire.map Wire.shape)

/-- The body of the answer that a page makes. -/
def envelope (r : Resolver) (context : Context) (p : Page) : Except Stopped Value := do
  let defaults ← send r context p.defaults
  let page ← send r context p.page
  let providers ← send r context p.providers
  return .map [(.str "defaults", defaults), (.str "page", page), (.str "providers", providers),
    (.str "redirectTo", .str p.redirectTo), (.str "redirectStatus", .int p.redirectStatus)]

/-- The answer that explains why a tree has no wire form. -/
def failure (e : WireFault) : Answer :=
  let place := match e.path with
    | some path => if path = "" then [] else [("path", Json.str path)]
    | none => []
  .withBody 500
    (.object ([("error", .str "SerializationError"), ("message", .str e.message)] ++ place))

/-- The parameters that the service itself uses. -/
def reservedParams : List String := ["path", "context"]

/-- The identifier of the only document found, or nothing in its place. -/
def documentId (q : QueryResult Key Value) : Value :=
  match q.documents with
  | [d] => .int d.id
  | _ => .null

/-- The context in which a page is resolved. -/
def contextOf (q : QueryResult Key Value) : Context :=
  Context.request
    [(.str Context.documentKey, documentId q), (.str Context.queryKey, .query q)] []

/-- The parameter that no redirect can carry. -/
def unlinkable : String := "self"

/-- The path under which trees are asked for. -/
def treesPath : String := "/components"

/-- The redirect to the path with a slash at its end. -/
def slashRedirect (req : Request) (path : String) : Except ServiceFault Answer :=
  let params := req.params.map fun (k, v) => if k = "path" then (k, path ++ "/") else (k, v)
  if params.any (·.1 == unlinkable) then .error (.fault (.extraArguments unlinkable 1 1 2))
  else .ok (.redirect 301 (Request.location treesPath (Request.form params)))

/-- The answer with the trees of a page. -/
def pageAnswer (s : Service) (question : PageRequest) : Except ServiceFault Answer := do
  let bound ← (Resolver.depthOf s.maxDepth).mapError .fault
  let resolver : Resolver :=
    { registry := s.registry, maxDepth := bound, traceLevel := s.traceLevel, strict := false }
  let page ← (s.builder question).mapError .fault
  let answer ← match envelope resolver (contextOf question.result) page with
    | .ok body => do
      let body ← bodyOf body
      pure (Answer.withBody (if question.result.notFound then 404 else 200) body)
    | .error (.wire e) => pure (failure e)
    | .error (.fault e) => throw e
  return { answer with built := some question }

/-- What a request for trees asks the page builder, with what the site shows for its path. -/
def question (s : Service) (req : Request) : PageRequest :=
  let path := (req.param? "path").getD "/"
  let params := req.params.filter fun (k, _) => !reservedParams.contains k
  { path
    context := (req.param? "context").getD "page"
    result := s.site.query path (params.any (·.1 == "s"))
    params }

/-- The answer to a request for trees. -/
def components (s : Service) (req : Request) : Except ServiceFault Answer :=
  let question := s.question req
  if question.path.toList.getLast? ≠ some '/' && question.result.hasDocuments then
    slashRedirect req question.path
  else s.pageAnswer question

/-- The answer about the state of the service. -/
def health (s : Service) : Except ServiceFault Answer := do
  let body ← bodyOf (.map [(.str "status", .str "healthy"), (.str "version", .str Settings.version),
    (.str "definitions_loaded", .int s.registry.size)])
  return .withBody 200 body

/-- The answer with all known types. -/
def typeList (s : Service) : Except ServiceFault Answer := do
  let groups := Registry.grouped s.registry.types
  let body ← bodyOf (.map [
    (.str "types", .map (groups.map fun (g, names) => (.str g, .list (names.map .str)))),
    (.str "total", .int s.registry.size)])
  return .withBody 200 body

/-- The answer with the documentation of all types. -/
def docs (s : Service) : Except ServiceFault Answer := do
  let body ← bodyOf (.map [(.str "format", .str "markdown"),
    (.str "content", .str (s.registry.docs none))])
  return .withBody 200 body

variable [WebFramework]

/-- The answer about one type. -/
def typeInfo (s : Service) (name : String) : Except ServiceFault Answer :=
  match s.registry.describe name with
  | none => .ok (.notFound ("Component type '" ++ name ++ "' not found"))
  | some info => do
    let body ← TypeSchema.bodyOf info
    return .withBody 200 body

/-- Answers a request on its route. -/
def follow (s : Service) (req : Request) : Route → Except ServiceFault Answer
  | .health => s.health
  | .components => s.components req
  | .typeList => s.typeList
  | .typeInfo name => s.typeInfo name
  | .docs => s.docs

/-- The answer to a request: that of the handler which the framework finds, or one that the
framework gives itself. -/
def answer (s : Service) (req : Request) : Except ServiceFault Answer :=
  match WebFramework.dispatch req with
  | .handled route => s.follow req route
  | .answered a => .ok a

end Service

end PageTree
