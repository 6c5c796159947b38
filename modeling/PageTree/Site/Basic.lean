import PageTree.Text.Blank
import PageTree.Value.Basic

/-!
# Sites

A site maps paths to the documents they show.  Paths are compared in normal form: with a slash at
both ends and without white space around them.
-/

namespace PageTree

/-- A path in normal form. -/
def normalPath (path : String) : String :=
  let inner := Text.trimWhere (· == '/') (Text.trim path).toList
  String.ofList ('/' :: if inner.isEmpty then [] else inner ++ ['/'])

/-- The documents of a site by the normal forms of their paths. -/
structure Site where
  pages : List (String × List (Document Key Value))

namespace Site

/-- The site without documents. -/
def empty : Site := ⟨[]⟩

/-- The documents of a path in normal form. -/
def documentsAt (pages : List (String × List (Document Key Value))) (path : String) :
    List (Document Key Value) :=
  ((pages.find? (·.1 == path)).map (·.2)).getD []

/-- Documents added after those that a path in normal form has. -/
def addAt (path : String) (documents : List (Document Key Value)) :
    List (String × List (Document Key Value)) → List (String × List (Document Key Value))
  | [] => [(path, documents)]
  | (p, ds) :: rest =>
    if p = path then (p, ds ++ documents) :: rest else (p, ds) :: addAt path documents rest

/-- Adds documents to a path, after those that it has. -/
def add (s : Site) (path : String) (documents : List (Document Key Value)) : Site :=
  ⟨addAt (normalPath path) documents s.pages⟩

/-- The result of asking for a path, which may be part of a search. -/
def query (s : Site) (path : String) (search : Bool) : QueryResult Key Value :=
  match documentsAt s.pages (normalPath path) with
  | [] => QueryResult.missing
  | documents => { documents, notFound := false, search }

end Site

end PageTree
