import PageTree.Fault
import PageTree.Url.Query

/-!
# Requests

A request is a path with escapes resolved and the text of a query.  A client makes it from the
target that it is given, which may be an address without scheme and host, and from parameters that
replace the query of the target.
-/

namespace PageTree

/-- A request to the service. -/
structure Request where
  path : String
  query : String
  deriving DecidableEq

namespace Request

/-- A text as it is written in a form: spaces are plus signs. -/
def formText (s : String) : List Char :=
  s.toList.flatMap fun c => if c = ' ' then ['+'] else Text.percentChar Text.isUnreserved c

/-- Parameters as a form. -/
def form (pairs : List (String × String)) : String :=
  String.ofList (QueryParams.joinPieces (pairs.map fun (k, v) => formText k ++ '=' :: formText v))

/-- The address of the service. -/
def host : String := "testserver"

/-- The parameters of a request, in order: of a repeated one the last value counts, in the place of
the first. -/
def params (r : Request) : List (String × String) :=
  (QueryParams.ofText r.query).map fun (k, vs) => (k, vs.getLast?.getD "")

/-- The value of a parameter. -/
def param? (r : Request) (name : String) : Option String :=
  (r.params.find? (·.1 == name)).map (·.2)

/-- The address of a path on the service. -/
def location (path query : String) : String :=
  "http://" ++ host ++ path ++ if query = "" then "" else "?" ++ query

end Request

/-- A client of the service. -/
class Client where
  /-- The request for a target, with parameters in the place of its query if they are given. -/
  request : String → Option (List (String × String)) → Except Fault Request

end PageTree
