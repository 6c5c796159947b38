import PageTree.Proofs.Builtin.Idempotence
import PageTree.Proofs.Markup.Node
import PageTree.Proofs.Resolution.Rules
import PageTree.Proofs.Wire.Collision
import PageTree.Site.Page

/-!
# The page of a single document

The usual page of a document is a container with four parts, and each part is replaced by what it
shows: the title by a text, if it can be read, the author by raw markup, the body by a container of
the nodes of its markup, and the tags by a fragment of links.  `resolveTrees_article` says what
comes of the whole page where three levels of nesting may be resolved: the first is the page, the
second its parts, the third what the parts have become.

On the wire the fragment is gone and the keys are recased (`formChildren_article`).
-/

namespace PageTree

namespace Resolver

variable {context : Context} {r : Resolver}

/-- A node that becomes a text or is dropped at once. -/
lemma visitAt_of_ended {depth : Nat} (hlt : depth < r.maxDepth) {n : Node} {c : Option Child}
    (h : r.Round context n (.ok (.ended c))) : (visitAt context r depth n).result = .ok c := by
  have hcloses : Closes context r depth n (.ok (.ended c)) := .ended h
  obtain ⟨earlier, deepest, -, -, hvisit⟩ := visitAt_of_closes context r (.none n) hcloses hlt
  rw [hvisit]
  rfl

/-- A node that is changed once and then final is given the separate results of the children that it
has then. -/
lemma visitAt_of_changed {depth : Nat} (hlt : depth < r.maxDepth) {n m p : Node}
    (h : r.Round context n (.ok (.changed m))) (hm : r.Round context m (.ok (.settled p)))
    {os : List (Option Child)}
    (hos : p.children.map (fun c => (resolveChild (visitAt context r (depth + 1)) c).result) =
      os.map Except.ok) :
    (visitAt context r depth n).result =
      .ok (some (.node (rebuild p (os.flatMap Option.toList)))) := by
  have hcloses : Closes context r depth m (.ok (.settled depth p)) := .settled hm
  obtain ⟨earlier, deepest, -, -, hvisit⟩ :=
    visitAt_of_closes context r (.more h (.none m)) hcloses hlt
  rw [hvisit, Run.bind_of_ok rfl, finishPlace, descend_of_results _ hos]

/-- A node that is met at the bound is given back as it is. -/
lemma visitAt_maxDepth (n : Node) :
    (visitAt context r r.maxDepth n).result = .ok (some (.node n)) := by
  rw [visitAt_eq_place context r (Nat.le_refl _), place_maxDepth]
  rfl

/-- A node that is given back for each of its children. -/
lemma rebuild_self (n : Node) : rebuild n n.children = n := by
  rw [rebuild_eq, if_pos (Child.sameAll_refl n.children)]

/-- A single tree is resolved to what its root becomes. -/
lemma resolveTrees_of_root {n m : Node}
    (h : (visitAt context r 0 n).result = .ok (some (.node m))) :
    (r.resolveTrees context [.node n]).result = .ok [.node m] := by
  have htree : (r.resolveTree context (.node n)).result = .ok (some (.node m)) := by
    rw [resolveTree_eq]
    exact h
  rw [resolveTrees_cons, Run.bind_of_ok htree]
  rfl

/-- Without children there are no results of children. -/
lemma map_resolveChild_nil (visit : Node → Run (Option Child)) :
    ([] : List Child).map (fun c => (resolveChild visit c).result) =
      ([] : List (Option Child)).map Except.ok := rfl

/-- A node without configuration and children is left as it is if its transform fails and there are
no defaults. -/
lemma visitAt_of_failed {depth : Nat} (hlt : depth < r.maxDepth) {type : String} {f : Definition}
    {e : Fault} (hdefaults : f.defaults = [])
    (hf : r.Transforms context (.mk type [] []) f (.error e)) :
    (visitAt context r depth (.mk type [] [])).result = .ok (some (.node (.mk type [] []))) := by
  have hround : r.Round context (.mk type [] []) (.ok (.settled _)) := .failed f _ hf (.raised e)
  rw [hdefaults] at hround
  exact visitAt_of_settled context r hlt hround (map_resolveChild_nil _)

/-- Children that are their own results. -/
lemma map_resolveChild_self {visit : Node → Run (Option Child)} {cs : List Child}
    (h : ∀ n, Child.node n ∈ cs → (visit n).result = .ok (some (.node n))) :
    cs.map (fun c => (resolveChild visit c).result) = (cs.map some).map Except.ok := by
  rw [List.map_map]
  refine List.map_congr_left fun c hc => ?_
  cases c with
  | text s => rfl
  | node n => exact h n hc

/-- The results of children that are their own results are the children. -/
lemma flatMap_toList_map_some (cs : List Child) : (cs.map some).flatMap Option.toList = cs := by
  induction cs with
  | nil => rfl
  | cons c cs ih =>
    rw [List.map_cons, List.flatMap_cons, ih]
    rfl

end Resolver

namespace Builtin

open Resolver

/-! ## What a page shows -/

/-- What becomes of the title of a document: a line of its own if there is none, and the node that
asked for it, as it is, if the title cannot be read. -/
def titleChild (d : Document Key Value) : Child :=
  if d.title = "" then .text missingTitle
  else
    match Markup.unescape? d.title with
    | .ok title => .text title
    | .error _ => .node (.mk "post/title" [] [])

/-- What stands in the place of the title: nothing if it is the empty text. -/
def titleParts (d : Document Key Value) : List Child :=
  if (titleChild d).isEmpty then [] else [titleChild d]

/-- In the place of the title stands nothing, a text or the node that asked for it. -/
lemma titleParts_cases (d : Document Key Value) :
    titleParts d = [] ∨ (∃ title, titleParts d = [.text title]) ∨
      titleParts d = [.node (.mk "post/title" [] [])] := by
  rw [titleParts]
  split
  · exact .inl rfl
  · right
    unfold titleChild
    split
    · exact .inl ⟨missingTitle, rfl⟩
    · split
      · exact .inl ⟨_, rfl⟩
      · exact .inr rfl

/-- If the title cannot be read, then the node that asked for it stands in its place. -/
lemma titleParts_of_error {d : Document Key Value} {e : Fault}
    (h : Markup.unescape? d.title = .error e) :
    titleParts d = [.node (.mk "post/title" [] [])] := by
  have hne : d.title ≠ "" := by
    intro hempty
    rw [hempty] at h
    cases h
  have hchild : titleChild d = .node (.mk "post/title" [] []) := by rw [titleChild, if_neg hne, h]
  rw [titleParts, hchild]
  rfl

/-- Raw markup, as it is sent. -/
def htmlNode (content : String) : Node :=
  .mk "html" [(.str "content", .str content)] []

/-- A container with a theme, as it is sent. -/
def containerNode (theme : String) (cs : List Child) : Node :=
  .mk "container" [(.str "themeName", .str theme), (.str "maxWidth", .str "lg")] cs

/-- A node of a body as it is sent: the names of its attributes are recased. -/
def recased (n : Node) : Node :=
  .mk n.type (n.config.map fun e => (Wire.recaseKey e.1, e.2)) n.children

/-- The page of a document as it is sent, given the nodes of its body: title, author, body and
tags. -/
def articlePage (d : Document Key Value) (nodes : List Node) : Node :=
  containerNode "default"
    (titleParts d ++
      [.node (htmlNode d.author),
        .node (containerNode "fullBleed" (nodes.map fun n => .node (recased n)))] ++
      d.tags.map fun t => .node (htmlNode (tagAnchor t)))

/-! ## The parts of a page -/

/-- A container with a theme, as it is stored. -/
def stored (theme : String) (cs : List Child) : Node :=
  .mk "container" [(.str "theme_name", .str theme), (.str "max_width", .str "lg")] cs

/-- The document that is shown in a context, if there is one. -/
def shown (context : Context) : Option (Document Key Value) :=
  match dataFor context postRequirements with
  | .ok data => currentDocument data context
  | .error _ => none

/-- The tags that are shown in a context. -/
def tagsIn (context : Context) : List Term :=
  ((shown context).map (·.tags)).getD []

/-- In a context the identifier is that of a document, which is found. -/
def Shows (context : Context) (d : Document Key Value) : Prop :=
  ∃ data, dataFor context postRequirements = .ok data ∧ currentDocument data context = some d

/-- The document that is shown is the one of the data that is selected. -/
lemma shown_eq {context : Context} {data : Entries}
    (hdata : dataFor context postRequirements = .ok data) :
    shown context = currentDocument data context := by
  rw [shown, hdata]

/-- The tags that are shown are those of the document. -/
lemma tagsIn_of_shows {context : Context} {d : Document Key Value} (h : Shows context d) :
    tagsIn context = d.tags := by
  obtain ⟨data, hdata, hd⟩ := h
  rw [tagsIn, shown_eq hdata, hd]
  rfl

/-- Tags become links to the tags that are shown. -/
lemma postTags_eq (n : Node) {data : Entries} {context : Context}
    (hdata : dataFor context postRequirements = .ok data) :
    postTags n data context = .ok (.node (.mk "" n.config ((tagsIn context).map tagNode))) := by
  rw [postTags, tagsIn, shown_eq hdata]
  cases currentDocument data context <;> rfl

section Parts

variable [Surroundings] {settings : ImageSettings} {r : Resolver} {context : Context}
  {d : Document Key Value} {depth : Nat}
  (hr : ∀ name, r.registry.get? name = (registry settings).get? name)

include hr

/-- The transform of a part of a page is run on the part as it stands. -/
lemma transforms_part
    {e : String × String × String × (Node → Entries → Context → Except Fault Value)}
    (he : e ∈ postTable) {n : Node} (hn : n.type = e.1) {data : Entries}
    (hdata : dataFor context postRequirements = .ok data) :
    ∃ f, f.defaults = [] ∧
      r.Transforms context n f (e.2.2.2 (n.withDefaults []) data context) := by
  have hdefined : ∀ e ∈ postTable, ∃ f t, (registry settings).get? e.1 = some f ∧
      f.defaults = [] ∧ f.requirements = postRequirements ∧ f.action = some (.run t) ∧
      t.apply = e.2.2.2 := by
    simp only [postTable, List.forall_mem_cons, List.not_mem_nil, false_implies, implies_true,
      and_true]
    exact ⟨⟨_, _, rfl, rfl, rfl, rfl, rfl⟩, ⟨_, _, rfl, rfl, rfl, rfl, rfl⟩,
      ⟨_, _, rfl, rfl, rfl, rfl, rfl⟩, ⟨_, _, rfl, rfl, rfl, rfl, rfl⟩,
      ⟨_, _, rfl, rfl, rfl, rfl, rfl⟩, ⟨_, _, rfl, rfl, rfl, rfl, rfl⟩,
      ⟨_, _, rfl, rfl, rfl, rfl, rfl⟩⟩
  obtain ⟨f, t, hget, hdefaults, hrequirements, haction, happly⟩ := hdefined e he
  rw [← hn] at hget
  refine ⟨f, hdefaults, (hr n.type).trans hget, _, data, haction, by rw [hrequirements, hdata], ?_⟩
  rw [hdefaults, act, happly]

/-- Raw markup is final. -/
lemma round_html (content : String) :
    r.Round context (htmlNode content) (.ok (.settled (htmlNode content))) :=
  .inert html ((hr "html").trans rfl) rfl

/-- A container that has a theme only gets its width. -/
lemma round_container (theme : String) (cs : List Child) :
    r.Round context (.mk "container" [(.str "theme_name", .str theme)] cs)
      (.ok (.settled (stored theme cs))) :=
  .inert container ((hr "container").trans rfl) rfl

/-- Raw markup is its own result. -/
lemma visitAt_html (hlt : depth < r.maxDepth) (content : String) :
    (visitAt context r depth (htmlNode content)).result = .ok (some (.node (htmlNode content))) :=
  visitAt_of_settled context r hlt (round_html hr content) (map_resolveChild_nil _)

/-- The title becomes a text if it can be read. -/
lemma visitAt_title (hlt : depth < r.maxDepth) (hshows : Shows context d) :
    (visitAt context r depth (.mk "post/title" [] [])).result = .ok (some (titleChild d)) := by
  obtain ⟨data, hdata, hd⟩ := hshows
  obtain ⟨f, hdefaults, hf⟩ : ∃ f, f.defaults = [] ∧
      r.Transforms context (.mk "post/title" [] []) f
        (postTitle (.mk "post/title" [] []) data context) := transforms_part hr (.head _) rfl hdata
  rw [postTitle, hd] at hf
  dsimp only at hf
  unfold titleChild
  by_cases hempty : d.title = ""
  · rw [if_pos hempty] at hf ⊢
    exact visitAt_of_ended hlt (.text f _ hf)
  · rw [if_neg hempty] at hf ⊢
    cases htitle : Markup.unescape? d.title with
    | ok title =>
      rw [htitle] at hf
      exact visitAt_of_ended hlt (.text f title hf)
    | error e =>
      rw [htitle] at hf
      exact visitAt_of_failed hlt hdefaults hf

/-- The author becomes raw markup. -/
lemma visitAt_byline (hlt : depth < r.maxDepth) (hshows : Shows context d) :
    (visitAt context r depth (.mk "post/byline" [] [])).result =
      .ok (some (.node (htmlNode d.author))) := by
  obtain ⟨data, hdata, hd⟩ := hshows
  obtain ⟨f, -, hf⟩ : ∃ f, f.defaults = [] ∧ r.Transforms context (.mk "post/byline" [] []) f
      (postByline (.mk "post/byline" [] []) data context) :=
    transforms_part hr (.tail _ (.tail _ (.tail _ (.head _)))) rfl hdata
  have hmarkup : markupNode (.mk "post/byline" [] []) d.author = .node (htmlNode d.author) := rfl
  rw [postByline, hd] at hf
  dsimp only at hf
  rw [hmarkup] at hf
  have htype : "html" ≠ "post/byline" := by decide
  exact visitAt_of_changed hlt (changed_of_type_ne hf htype) (round_html hr d.author)
    (map_resolveChild_nil _)

/-- The nodes of a body are their own results. -/
lemma visitAt_flat (hlt : depth < r.maxDepth) {n : Node} (hn : Markup.Flat n) :
    (visitAt context r depth n).result = .ok (some (.node n)) := by
  have hundefined : ∀ name ∈ contentTags, (registry settings).get? name = none := by
    simp only [contentTags, List.forall_mem_cons, List.not_mem_nil, false_implies, implies_true,
      and_true]
    exact ⟨rfl, rfl, rfl, rfl, rfl⟩
  have hround : r.Round context n (.ok (.settled n)) :=
    .undefined ((hr n.type).trans (hundefined n.type hn.type))
  have hchildren : ∀ m, Child.node m ∈ n.children →
      (visitAt context r (depth + 1) m).result = .ok (some (.node m)) := by
    obtain ⟨texts, htexts⟩ := hn.children
    intro m hm
    rw [htexts] at hm
    obtain ⟨s, -, hs⟩ := List.mem_map.mp hm
    cases hs
  rw [visitAt_of_settled context r hlt hround (map_resolveChild_self hchildren),
    flatMap_toList_map_some, rebuild_self]

/-- What the transform for the body of a document makes of the place of the body. -/
lemma transforms_content (hshows : Shows context d) :
    ∃ f, f.defaults = [] ∧ r.Transforms context (.mk "post/content" [] []) f
      ((Markup.nodesOf d.content (.list (contentTags.map .str))).map fun nodes =>
        .node (.mk "container" [(.str "theme_name", .str "fullBleed")] (nodes.map .node))) := by
  obtain ⟨data, hdata, hd⟩ := hshows
  obtain ⟨f, hdefaults, hf⟩ : ∃ f, f.defaults = [] ∧
      r.Transforms context (.mk "post/content" [] []) f
      (postContent (.mk "post/content" [] []) data context) :=
    transforms_part hr
      (.tail _ (.tail _ (.tail _ (.tail _ (.tail _ (.tail _ (.head _))))))) rfl hdata
  have htags : tagsOf (.mk "post/content" [] []) = .list (contentTags.map .str) := rfl
  have hcontent : postContent (.mk "post/content" [] []) data context =
      (Markup.nodesOf d.content (.list (contentTags.map .str))).map fun nodes =>
        .node (.mk "container" [(.str "theme_name", .str "fullBleed")] (nodes.map .node)) := by
    rw [postContent, hd]
    dsimp only
    rw [htags]
    cases Markup.nodesOf d.content (.list (contentTags.map .str)) <;> rfl
  rw [hcontent] at hf
  exact ⟨f, hdefaults, hf⟩

/-- The body becomes a container of its nodes. -/
lemma visitAt_content (hlt : depth + 1 < r.maxDepth) (hshows : Shows context d) {nodes : List Node}
    (hnodes : Markup.nodesOf d.content (.list (contentTags.map .str)) = .ok nodes) :
    (visitAt context r depth (.mk "post/content" [] [])).result =
      .ok (some (.node (stored "fullBleed" (nodes.map .node)))) := by
  obtain ⟨f, -, hf⟩ := transforms_content hr hshows
  rw [hnodes] at hf
  have hchildren : ∀ m, Child.node m ∈ (stored "fullBleed" (nodes.map .node)).children →
      (visitAt context r (depth + 1) m).result = .ok (some (.node m)) := by
    intro m hm
    obtain ⟨n, hn, hnm⟩ := List.mem_map.mp hm
    cases hnm
    exact visitAt_flat hr hlt (Markup.flat_of_nodesOf hnodes _ hn)
  have htype : "container" ≠ "post/content" := by decide
  have hround := changed_of_type_ne hf htype
  rw [visitAt_of_changed (by omega) hround (round_container hr "fullBleed" (nodes.map .node))
    (map_resolveChild_self hchildren), flatMap_toList_map_some, rebuild_self]

/-- A node of any type for tags becomes a fragment of the links to the tags that are shown. -/
lemma visitAt_tags (hlt : depth < r.maxDepth) {n : Node} (hn : n.type = "post/tags") :
    (visitAt context r depth n).result =
      .ok (some (.node (.mk "" (Entries.merge [] n.config) ((tagsIn context).map tagNode)))) := by
  obtain ⟨data, hdata⟩ := exists_postData context
  obtain ⟨f, -, hf⟩ : ∃ f, f.defaults = [] ∧
      r.Transforms context n f (postTags (n.withDefaults []) data context) :=
    transforms_part hr (.tail _ (.tail _ (.tail _ (.tail _ (.tail _ (.head _)))))) hn hdata
  rw [postTags_eq _ hdata] at hf
  have hfragment : r.Round context
      (.mk "" (Entries.merge [] n.config) ((tagsIn context).map tagNode))
      (.ok (.settled (.mk "" (Entries.merge [] n.config) ((tagsIn context).map tagNode)))) :=
    .undefined ((hr "").trans rfl)
  have hchildren : ∀ m, Child.node m ∈ (tagsIn context).map tagNode →
      (visitAt context r (depth + 1) m).result = .ok (some (.node m)) := by
    intro m hm
    obtain ⟨t, -, ht⟩ := List.mem_map.mp hm
    cases ht
    have hbelow : depth + 1 ≤ r.maxDepth := hlt
    rcases Nat.lt_or_eq_of_le hbelow with hbelow | hbound
    · exact visitAt_html hr hbelow (tagAnchor t)
    · rw [hbound]
      exact visitAt_maxDepth _
  have htype : "" ≠ n.type := by
    rw [hn]
    decide
  have hround := changed_of_type_ne hf htype
  rw [visitAt_of_changed hlt hround hfragment (map_resolveChild_self hchildren),
    flatMap_toList_map_some]
  exact congrArg (fun m => Except.ok (some (Child.node m))) (rebuild_self _)

/-! ## The page -/

/-- The page of a document once it is resolved, given what its body has become. -/
def resolvedPage (d : Document Key Value) (body : Node) : Node :=
  stored "default"
    (titleParts d ++
      [.node (htmlNode d.author), .node body, .node (.mk "" [] (d.tags.map tagNode))])

omit [Surroundings] hr in
/-- The parts of a page take the place of what they were asked for by; an empty title is left
out. -/
lemma rebuild_page (d : Document Key Value) (body : Node) :
    rebuild (stored "default" [Page.leaf "post/title", Page.leaf "post/byline",
        Page.leaf "post/content", Page.leaf "post/tags"])
      [titleChild d, .node (htmlNode d.author), .node body,
        .node (.mk "" [] (d.tags.map tagNode))] =
      resolvedPage d body := by
  have hkept : kept [titleChild d, .node (htmlNode d.author), .node body,
      .node (.mk "" [] (d.tags.map tagNode))] =
      titleParts d ++ [.node (htmlNode d.author), .node body,
        .node (.mk "" [] (d.tags.map tagNode))] := by
    unfold titleParts
    cases hempty : (titleChild d).isEmpty with
    | true => exact List.filter_cons_of_neg (by rw [hempty]; exact Bool.false_ne_true)
    | false => exact List.filter_cons_of_pos (by rw [hempty]; rfl)
  rw [rebuild_eq, resolvedPage, ← hkept]
  refine if_neg ?_
  -- whatever the first part is, the second one is another node now
  change ¬ (Child.agree floatSame (titleChild d) (Page.leaf "post/title") && false) = true
  rw [Bool.and_false]
  exact Bool.false_ne_true

/-- The usual page of a document is resolved to its parts, whatever its body becomes. -/
theorem resolveTrees_page (hdepth : 2 ≤ r.maxDepth) (hshows : Shows context d) {body : Node}
    (hbody : (visitAt context r 1 (.mk "post/content" [] [])).result = .ok (some (.node body))) :
    (r.resolveTrees context [Page.article]).result = .ok [.node (resolvedPage d body)] := by
  have hround : r.Round context (.mk "container" []
      [Page.leaf "post/title", Page.leaf "post/byline", Page.leaf "post/content",
        Page.leaf "post/tags"])
      (.ok (.settled (stored "default" [Page.leaf "post/title", Page.leaf "post/byline",
        Page.leaf "post/content", Page.leaf "post/tags"]))) :=
    .inert container ((hr "container").trans rfl) rfl
  have hparts : (stored "default" [Page.leaf "post/title", Page.leaf "post/byline",
        Page.leaf "post/content", Page.leaf "post/tags"]).children.map
        (fun c => (resolveChild (visitAt context r (0 + 1)) c).result) =
      [some (titleChild d), some (.node (htmlNode d.author)), some (.node body),
        some (.node (.mk "" [] (d.tags.map tagNode)))].map Except.ok := by
    have htitle : (visitAt context r (0 + 1) (.mk "post/title" [] [])).result = _ :=
      visitAt_title hr (by omega) hshows
    have hbyline : (visitAt context r (0 + 1) (.mk "post/byline" [] [])).result = _ :=
      visitAt_byline hr (by omega) hshows
    have hcontent : (visitAt context r (0 + 1) (.mk "post/content" [] [])).result = _ := hbody
    have htags : (visitAt context r (0 + 1) (.mk "post/tags" [] [])).result = _ :=
      visitAt_tags hr (by omega) rfl
    rw [tagsIn_of_shows hshows] at htags
    simp only [stored, Node.children_mk, Node.config_mk, Entries.merge_nil, Page.leaf,
      List.map_cons, List.map_nil, resolveChild, htitle, hbyline, hcontent, htags]
  have hroot := visitAt_of_settled context r (by omega) hround hparts
  have hresults : ∀ a b c e : Child,
      [some a, some b, some c, some e].flatMap Option.toList = [a, b, c, e] := fun _ _ _ _ => rfl
  rw [hresults, rebuild_page] at hroot
  exact resolveTrees_of_root hroot

/-- The page of a document once it is resolved, given the nodes of its body. -/
def resolvedArticle (d : Document Key Value) (nodes : List Node) : Node :=
  resolvedPage d (stored "fullBleed" (nodes.map .node))

/-- The usual page of a document is resolved to its parts. -/
theorem resolveTrees_article (hdepth : 3 ≤ r.maxDepth) (hshows : Shows context d)
    {nodes : List Node}
    (hnodes : Markup.nodesOf d.content (.list (contentTags.map .str)) = .ok nodes) :
    (r.resolveTrees context [Page.article]).result = .ok [.node (resolvedArticle d nodes)] :=
  resolveTrees_page hr (by omega) hshows (visitAt_content hr (by omega) hshows hnodes)

end Parts

/-! ## The wire form -/

/-- Texts are sent as they are. -/
lemma formChildren_texts (texts : List String) :
    Wire.formChildren (texts.map .text) = texts.map .text := by
  induction texts with
  | nil => rfl
  | cons s texts ih => rw [List.map_cons, Wire.formChildren, ih]

/-- What stands in the place of the title is sent as it is. -/
lemma formChildren_titleParts (d : Document Key Value) :
    Wire.formChildren (titleParts d) = titleParts d := by
  rcases titleParts_cases d with h | ⟨title, h⟩ | h <;> rw [h] <;> rfl

/-- Of texts that are configured only the names are recased. -/
lemma formEntries_texts (attributes : List (String × String)) :
    Wire.formEntries (attributes.map fun a => (Key.str a.1, Value.str a.2)) =
      (attributes.map fun a => (Key.str a.1, Value.str a.2)).map
        fun e => (Wire.recaseKey e.1, e.2) := by
  induction attributes with
  | nil => rfl
  | cons a attributes ih =>
    rw [List.map_cons, Wire.formEntries, ih]
    rfl

/-- The nodes of a body are sent with the names of their attributes recased. -/
lemma formChildren_flat {nodes : List Node} (h : ∀ n ∈ nodes, Markup.Flat n) :
    Wire.formChildren (nodes.map .node) = nodes.map fun n => .node (recased n) := by
  induction nodes with
  | nil => rfl
  | cons n nodes ih =>
    rw [List.forall_mem_cons] at h
    obtain ⟨type, attributes, texts, hne, rfl⟩ := h.1.exists_mk
    rw [List.map_cons, Wire.formChildren, if_neg hne, ih h.2,
      formEntries_texts, formChildren_texts]
    rfl

/-- Links to tags are raw markup on the wire as well. -/
lemma formChildren_tags (tags : List Term) :
    Wire.formChildren (tags.map tagNode) = tags.map fun t => .node (htmlNode (tagAnchor t)) := by
  induction tags with
  | nil => rfl
  | cons t tags ih =>
    rw [List.map_cons, tagNode, Wire.formChildren, ih]
    rfl

/-- The page of a document as it is sent, given what is sent for its body. -/
def sentPage (d : Document Key Value) (body : Node) : Node :=
  containerNode "default"
    (titleParts d ++ [.node (htmlNode d.author), .node body] ++
      d.tags.map fun t => .node (htmlNode (tagAnchor t)))

/-- A container is sent with recased keys. -/
lemma formChildren_stored (theme : String) (cs rest : List Child) :
    Wire.formChildren (.node (stored theme cs) :: rest) =
      .node (containerNode theme (Wire.formChildren cs)) :: Wire.formChildren rest := by
  have htheme : Wire.recase "theme_name" = "themeName" := by decide
  have hwidth : Wire.recase "max_width" = "maxWidth" := by decide
  have hname : "container" ≠ "" := by decide
  rw [stored, Wire.formChildren, if_neg hname, containerNode, ← htheme, ← hwidth]
  rfl

/-- The page of a document is sent with the fragment of its tags replaced by the tags. -/
theorem formChildren_page (d : Document Key Value) {body sent : Node}
    (hbody : ∀ rest, Wire.formChildren (.node body :: rest) =
      .node sent :: Wire.formChildren rest) :
    Wire.formChildren [.node (resolvedPage d body)] = [.node (sentPage d sent)] := by
  have hhtml : ∀ content rest, Wire.formChildren (.node (htmlNode content) :: rest) =
      .node (htmlNode content) :: Wire.formChildren rest := fun _ _ => rfl
  have hfragment : ∀ cs, Wire.formChildren [.node (.mk "" [] cs)] = Wire.formChildren cs := by
    intro cs
    rw [Wire.formChildren, if_pos rfl, Wire.formChildren, List.append_nil]
  rw [resolvedPage, formChildren_stored, Wire.formChildren_append, formChildren_titleParts, hhtml,
    hbody, hfragment, formChildren_tags, sentPage, List.append_assoc]
  rfl

/-- The page of a document is sent as its parts. -/
theorem formChildren_article (d : Document Key Value) {nodes : List Node}
    (h : ∀ n ∈ nodes, Markup.Flat n) :
    Wire.formChildren [.node (resolvedArticle d nodes)] = [.node (articlePage d nodes)] := by
  refine formChildren_page d fun rest => ?_
  rw [formChildren_stored, formChildren_flat h]

end Builtin

end PageTree
