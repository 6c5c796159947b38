import PageTree.Value.Display
import PageTree.Value.Equality

/-!
# Contexts

A `Context` holds the data of one request by name.  Transforms read it, and the data that a
definition asks for is selected from it.  Every request starts with an entry for its document and
one for its query result.

`Scopes` keeps the contexts of nested requests: entering a scope installs a new context, and leaving
it brings back the one before as it was.
-/

namespace PageTree

/-- The data of one request by name. -/
structure Context where
  entries : Entries

namespace Context

/-- The name under which the identifier of the current document is stored. -/
def documentKey : String := "documentId"

/-- The name under which the query result is stored. -/
def queryKey : String := "query"

/-- The context without entries. -/
def empty : Context := ⟨[]⟩

/-- The entries that every request starts with. -/
def seeded (document query : Value) : Entries :=
  [(.str documentKey, document), (.str queryKey, query)]

/-- A context with entries merged over it. -/
def set (c : Context) (entries : Entries) : Context :=
  ⟨Entries.merge c.entries entries⟩

/-- The value of a key. -/
def get? (c : Context) (k : Key) : Option Value :=
  Entries.get? c.entries k

/-- The value of a name, or nothing in its place. -/
def find (c : Context) (name : String) : Value :=
  Entries.lookup c.entries name

/-- Whether a key is stored. -/
def has (c : Context) (k : Key) : Bool :=
  Entries.has c.entries k

/-- The stored keys in order. -/
def keys (c : Context) : List Key :=
  Entries.keys c.entries

/-- The query result of the request, if there is one. -/
def queryResult? (c : Context) : Option (QueryResult Key Value) :=
  match c.find queryKey with
  | .query q => some q
  | _ => none

/-- A context as it is shown: its keys only. -/
def display (c : Context) : String :=
  showRecord "ContextStore" [("keys", showList (c.keys.map Key.show))]

/-- The context of a new request: the seeded entries, the given ones over them, and the named ones
over those. -/
def request (entries named : Entries) : Context :=
  ((Context.mk (seeded .null .null)).set entries).set named

end Context

/-- The contexts of nested requests: that of each open scope, innermost first, and the one outside
all scopes once it is used. -/
structure Scopes where
  inner : List Context
  outer : Option Context

namespace Scopes

/-- No scope is open. -/
def none : Scopes where
  inner := []
  outer := Option.none

/-- Opens a scope with a new context. -/
def enter (s : Scopes) (entries named : Entries) : Scopes :=
  { s with inner := Context.request entries named :: s.inner }

/-- Leaves the innermost scope, with its context. -/
def leave? (s : Scopes) : Option (Context × Scopes) :=
  match s.inner with
  | [] => Option.none
  | c :: rest => some (c, { s with inner := rest })

/-- The current context, which is made when it is first used outside all scopes. -/
def current (s : Scopes) : Context × Scopes :=
  match s.inner with
  | c :: _ => (c, s)
  | [] =>
    let c := s.outer.getD ⟨Context.seeded .null .null⟩
    (c, { s with outer := some c })

/-- Merges entries over the current context. -/
def set (s : Scopes) (entries : Entries) : Scopes :=
  match s.inner with
  | c :: rest => { s with inner := c.set entries :: rest }
  | [] => { s with outer := some (s.current.1.set entries) }

/-- Whether the current context belongs to an open scope. -/
def isInner (s : Scopes) : Bool :=
  !s.inner.isEmpty

end Scopes

end PageTree
