import PageTree.Definition.Basic
import PageTree.Settings
import PageTree.Surroundings

/-!
# Shipped declarations

The definitions that come as plain declarations: a layout wrapper, the footer of a site, raw markup
and links to social profiles.  Only the footer has a transform, which fills in its copyright line.
-/

namespace PageTree.Builtin

/-- A definition without data from the context, declared in a shipped file. -/
def declared (file name description : String) (defaults : Entries) (action : Option Action) :
    Definition where
  name := name
  defaults := defaults
  requirements := []
  action := action
  description := .str description
  source := some (Settings.shippedDefinitions ++ "/" ++ file)

/-- The layout wrapper. -/
def container : Definition :=
  declared "container.json" "container" "Layout wrapper for a list of children"
    [(.str "theme_name", .str "default"), (.str "max_width", .str "lg")] none

variable [Calendar]

/-- The copyright line of a holder, who may be missing. -/
def copyrightLine (holder : Value) : String :=
  let line := "Copyright © " ++ toString Calendar.year
  if holder.truthy then line ++ " - " ++ holder.text else line

/-- Fills in a copyright line unless one is configured. -/
def fillCopyright (n : Node) (_ : Entries) (_ : Context) : Except Fault Value :=
  if (Entries.lookup n.config "copyright").truthy then .ok (.node n)
  else
    let line := copyrightLine (Entries.lookup n.config "copyright_holder")
    .ok (.node (n.setConfig (.str "copyright") (.str line)))

/-- The transform of the footer. -/
def footerTransform : Transform where
  name := "footer"
  home := "component_tree_engine.components.site"
  doc := "Fill in a copyright line for the current year unless one is configured."
  apply := fillCopyright

/-- The footer of a site. -/
def footer : Definition :=
  declared "footer.yaml" "footer" "Site footer with a copyright line"
    [(.str "copyright", .str ""), (.str "copyright_holder", .str "")]
    (some (.run footerTransform))

/-- Raw markup, which clients render as it is. -/
def html : Definition :=
  declared "html.json" "html" "Raw markup rendered by the client as-is"
    [(.str "content", .str "")] none

/-- The names and titles of the social services. -/
def socialServices : Entries :=
  [(.str "facebook", .str "Facebook"), (.str "twitter", .str "Twitter"),
    (.str "linkedin", .str "LinkedIn"), (.str "pinterest", .str "Pinterest"),
    (.str "whatsapp", .str "WhatsApp")]

/-- Links to social profiles. -/
def socialLinks : Definition :=
  declared "social-links.json" "social-links" "Links to the site's social profiles"
    [(.str "services", .map socialServices), (.str "display_icons", .bool true)] none

/-- The shipped declarations in the order of their files. -/
def declaredDefinitions : List Definition :=
  [container, footer, html, socialLinks]

end PageTree.Builtin
