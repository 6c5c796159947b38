import PageTree.Service.Request
import PageTree.Url.Basic

/-!
# Targets of requests

The request that a client makes from a target: the target is read as an address, which may lack a
scheme and a host, and its path and query become those of the request.
-/

namespace PageTree

variable [Url.HostNames]

namespace Request

/-- Resolves the escapes of a text. -/
def unescape (s : String) : String :=
  String.ofList (Text.percentDecode s.toList)

/-- The address that a target means on the service. -/
def addressOf (target : Url) (query : Option String) : Except UrlFault Url :=
  Url.ofRaw {
    scheme := "http".toList
    authority := host.toList
    path := '/' :: Text.dropLeading (· == '/') target.path.toList
    query := query.map String.toList
    fragment := none }

/-- The request for a target, with parameters in the place of its query if they are given. -/
def ofTarget (target : String) (params : Option (List (String × String))) :
    Except UrlFault Request := do
  let parsed ← Url.parse target
  let query := match params with
    | none => parsed.query
    | some [] => none
    | some pairs => some (form pairs)
  let address ← addressOf parsed query
  return { path := unescape (unescape address.path), query := address.query.getD "" }

end Request

end PageTree
