import PageTree.Service.Answer
import PageTree.Service.Request

/-!
# Libraries of web services

What the service relies on and does not define: a `WebFramework` finds the handler of a request, and
it checks and writes what a handler gives out.
-/

namespace PageTree

/-- What becomes of a request: a handler of the service gets it, or the framework answers it. -/
inductive Dispatched where
  | handled (route : Service.Route)
  | answered (a : Answer)

/-- A framework of web services. -/
class WebFramework where
  /-- What becomes of a request. -/
  dispatch : Request → Dispatched
  /-- The text that a field of texts takes a value for, if it takes it at all. -/
  text? : Value → Option String
  /-- The document that a field of data is written as. -/
  document : Value → Except ServiceFault Json

end PageTree
