import PageTree.Builtin.Post
import PageTree.Image.Responsive

/-!
# The definition for images

An image shows the address that is configured, or else the featured image of the current document,
in a named size.
-/

namespace PageTree.Builtin

/-- The defaults of an image. -/
def imageDefaults : Entries :=
  [(.str "image_size", .str "full"), (.str "alt", .str ""), (.str "src", .str ""),
    (.str "srcset", .str ""), (.str "source_tags", .list []), (.str "original_url", .str ""),
    (.str "url", .str ""), (.str "crops", .map []), (.str "sources", .list []),
    (.str "retina", .bool true), (.str "aspect_ratio", .float 0.5625),
    (.str "lazyload", .bool true), (.str "picture", .bool false)]

/-- The configuration of an image with the featured image of the current document, unless an address
is configured. -/
def withFeatured (config data : Entries) (context : Context) : Entries :=
  if (Entries.lookup config "url").truthy then config
  else
    match (currentDocument data context).bind (·.featuredImage) with
    | some a => Image.applyAttachment config a
    | none => config

variable [UrlLibrary]

/-- Derives the fields of an image. -/
def showImage (settings : ImageSettings) (n : Node) (data : Entries) (context : Context) :
    Except Fault Value := do
  let config ← Image.configure (withFeatured n.config data context) settings .null .null
  return .node (n.withConfig config)

/-- The module that the transform of images belongs to. -/
def imageHome : String := "component_tree_engine.components.image"

/-- The definition for images with the sizes of a site. -/
def image (settings : ImageSettings) : Definition where
  name := "image"
  defaults := imageDefaults
  requirements := postRequirements
  action := some (.run {
    name := "image_definition.<locals>.transform"
    home := imageHome
    doc := ""
    apply := showImage settings })
  description := .str "Responsive image with srcset and picture sources"
  source := some imageHome

end PageTree.Builtin
