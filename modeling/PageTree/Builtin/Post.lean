import PageTree.Definition.Basic
import PageTree.Markup.Entity
import PageTree.Markup.Node

/-!
# Definitions for documents

The definitions `post/…` show parts of the current document.  Each asks for the identifier of the
document and looks it up in the query result of the request.  Title and excerpt become texts, the
tags a fragment of links, and the body a container of the nodes that its markup makes.
-/

namespace PageTree

/-- The document of an identifier; a value that counts as false identifies none. -/
def QueryResult.document? (q : QueryResult Key Value) (id : Value) : Option (Document Key Value) :=
  if id.truthy then q.documents.find? fun d => Value.equal (.int d.id) id else none

namespace Builtin

/-- The document of an identifier in the query result of a request. -/
def documentOf (context : Context) (id : Value) : Option (Document Key Value) := do
  let q ← context.queryResult?
  q.document? id

/-- The name under which a definition asks for the identifier of the document. -/
def postId : String := "postId"

/-- The data that a definition for documents asks for. -/
def postRequirements : List (Key × Requirement) :=
  [(.str postId,
    { type := .str "integer", source := .str Context.documentKey, default := .null,
      description := .str "" })]

/-- The current document, given the data that was selected. -/
def currentDocument (data : Entries) (context : Context) : Option (Document Key Value) :=
  documentOf context (Entries.lookup data postId)

/-- What stands in the place of a title that is missing. -/
def missingTitle : String := "Error: no global post context found"

/-- The title of the document as a text. -/
def postTitle (_ : Node) (data : Entries) (context : Context) : Except Fault Value :=
  match currentDocument data context with
  | some d =>
    if d.title = "" then .ok (.str missingTitle) else (Markup.unescape? d.title).map .str
  | none => .ok (.str missingTitle)

/-- The excerpt of the document as a text, escaped. -/
def postExcerpt (_ : Node) (data : Entries) (context : Context) : Except Fault Value :=
  match currentDocument data context with
  | some d => .ok (.str (Markup.escape d.excerpt))
  | none => .ok (.str "")

/-- A link to the document. -/
def postPermalink (n : Node) (data : Entries) (context : Context) : Except Fault Value :=
  let address := match currentDocument data context with
    | some d => d.permalink
    | none => ""
  .ok (.node ((n.withType "link").setConfig (.str "href") (.str address)))

/-- Markup in the place of a node. -/
def markupNode (n : Node) (content : String) : Value :=
  .node ((n.withType "html").setConfig (.str "content") (.str content))

/-- The author of the document as markup. -/
def postByline (n : Node) (data : Entries) (context : Context) : Except Fault Value :=
  match currentDocument data context with
  | some d => .ok (markupNode n d.author)
  | none => .ok (markupNode n "")

/-- The text of the place for sharing. -/
def sharingText : String := "Share post"

/-- A place for sharing, as markup. -/
def postSharing (n : Node) (_ : Entries) (_ : Context) : Except Fault Value :=
  .ok (markupNode n sharingText)

/-- A link to a tag as markup. -/
def tagAnchor (t : Term) : String :=
  "<a href=\"" ++ Markup.escape t.link ++ "\">" ++ Markup.escape t.name ++ "</a>"

/-- The node of a tag. -/
def tagNode (t : Term) : Child :=
  .node (.mk "html" [(.str "content", .str (tagAnchor t))] [])

/-- The tags of the document as a fragment. -/
def postTags (n : Node) (data : Entries) (context : Context) : Except Fault Value :=
  let tags := match currentDocument data context with
    | some d => d.tags
    | none => []
  .ok (.node (.mk "" n.config (tags.map tagNode)))

/-- The configuration key that names the elements to be shown. -/
def tagsKey : Key := .str "content_tags"

/-- The elements that are shown unless others are configured. -/
def contentTags : List String := ["h2", "h3", "p", "blockquote", "img"]

/-- The names of the elements that a node shows. -/
def tagsOf (n : Node) : Value :=
  ((n.get? tagsKey).getD .null).orElse (.list (contentTags.map .str))

variable [MarkupLibrary]

/-- The body of the document in a container. -/
def postContent (n : Node) (data : Entries) (context : Context) : Except Fault Value :=
  match currentDocument data context with
  | none => .ok (.node (.mk "" [] []))
  | some d => do
    let nodes ← Markup.nodesOf d.content (tagsOf n)
    let config :=
      Entries.set (Entries.erase n.config tagsKey) (.str "theme_name") (.str "fullBleed")
    return .node (.mk "container" config (nodes.map .node))

/-- The module that the transforms for documents belong to. -/
def postHome : String := "component_tree_engine.components.post"

/-- The definitions for documents: the name of each, its description, and its transform with the
transform's own name. -/
def postTable :
    List (String × String × String × (Node → Entries → Context → Except Fault Value)) :=
  [("post/title", "Document title as a text leaf.", "post_title", postTitle),
    ("post/excerpt", "", "post_excerpt", postExcerpt),
    ("post/permalink", "Becomes a ``link`` node pointing at the document.",
      "post_permalink", postPermalink),
    ("post/byline", "", "post_byline", postByline),
    ("post/social-sharing", "Sharing placeholder rendered as an ``html`` node.",
      "post_social_sharing", postSharing),
    ("post/tags", "Expand into one ``html`` link node per tag.", "post_tags", postTags),
    ("post/content", "Convert the document body into child components inside a container.",
      "post_content", postContent)]

/-- The transforms for documents. -/
def postTransforms : List Transform :=
  postTable.map fun (_, description, name, apply) =>
    { name, home := postHome, doc := description, apply }

/-- The definitions for documents. -/
def postDefinitions : List Definition :=
  postTable.map fun (type, description, name, apply) =>
    { name := type
      defaults := []
      requirements := postRequirements
      action := some (.run { name, home := postHome, doc := description, apply })
      description := .str description
      source := some (postHome ++ ":" ++ name) }

end Builtin

end PageTree
