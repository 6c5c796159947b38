/-!
# Content

What the content layer of a site delivers for one request: documents with their tags and featured
image, collected in the result of a query.  The types are generic in the type `α` of free-form
data, because a query result is itself a value that a tree can hold.
-/

namespace PageTree

/-- A taxonomy term attached to a document. -/
structure Term where
  name : String
  link : String

/-- A media item, such as the featured image of a document.  The stored crops give four
coordinates for each image size. -/
structure Attachment (κ α : Type) where
  id : Int
  url : String
  alt : String
  caption : String
  excerpt : String
  crops : List (κ × α)

/-- One piece of content. -/
structure Document (κ α : Type) where
  id : Int
  title : String
  content : String
  excerpt : String
  permalink : String
  author : String
  tags : List Term
  featuredImage : Option (Attachment κ α)
  extra : List (κ × α)

/-- The result of the content query of one request. -/
structure QueryResult (κ α : Type) where
  documents : List (Document κ α)
  notFound : Bool
  search : Bool

namespace QueryResult

/-- The result of a query that matched nothing. -/
def missing {κ α : Type} : QueryResult κ α where
  documents := []
  notFound := true
  search := false

/-- Whether a query found documents. -/
def hasDocuments {κ α : Type} (q : QueryResult κ α) : Bool :=
  !q.documents.isEmpty

end QueryResult

end PageTree
