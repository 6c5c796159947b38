import PageTree.Proofs.Builtin.Article
import PageTree.Proofs.Markup.Escape
import PageTree.Proofs.Resolution.Invariant
import PageTree.Proofs.Resolution.Lookup
import PageTree.Proofs.Resolution.Settled
import PageTree.Standard

/-!
# Fields of documents in raw markup

The content of a node for raw markup is rendered as it is, so that a field of a document that gets
there should be escaped.  The links to the tags are: each is a single link to the address and with
the name of its tag, whatever these are.  The author is not (`visitAt_byline_of_type`).

`Origin` lists where a content can come from when a tree is resolved with the built-in definitions.
A round makes no other contents (`traced_of_makes`), and so no other ones are found anywhere in what
a tree is resolved to (`fields_in_markup`).
-/

namespace PageTree

namespace Resolver

variable {context : Context} {r : Resolver}

/-- What becomes of a node that is changed once and then final, if there is a result: a node with
other children at most. -/
lemma exists_of_changed {depth : Nat} (hlt : depth < r.maxDepth) {n m p : Node}
    (h : r.Round context n (.ok (.changed m))) (hm : r.Round context m (.ok (.settled p)))
    {o : Option Child} (ho : (visitAt context r depth n).result = .ok o) :
    ∃ t : Node, o = some (.node t) ∧ t.type = p.type ∧ t.config = p.config := by
  have hcloses : Closes context r depth m (.ok (.settled depth p)) := .settled hm
  obtain ⟨earlier, deepest, -, -, hvisit⟩ :=
    visitAt_of_closes context r (.more h (.none m)) hcloses hlt
  rw [hvisit, Run.bind_of_ok rfl, finishPlace] at ho
  obtain ⟨os, -, hos⟩ := results_of_descend _ ho
  refine ⟨_, hos, ?_⟩
  rw [rebuild_eq]
  split <;> exact ⟨rfl, rfl⟩

end Resolver

namespace Builtin

open Resolver

/-- The author that is shown in a context. -/
def authorIn (context : Context) : String :=
  ((shown context).map (·.author)).getD ""

/-- The author becomes markup as it is. -/
lemma postByline_eq (n : Node) {data : Entries} {context : Context}
    (hdata : dataFor context postRequirements = .ok data) :
    postByline n data context = .ok (markupNode n (authorIn context)) := by
  rw [postByline, authorIn, shown_eq hdata]
  cases currentDocument data context <;> rfl

/-! ## Configurations without new contents -/

/-- No content is in the second configuration that is not in the first. -/
def AddsNone (config made : Entries) : Prop :=
  ∀ v, (Key.str "content", v) ∈ made → (Key.str "content", v) ∈ config

/-- Setting an entry other than the content adds no content. -/
lemma addsNone_set {name : String} (hname : name ≠ "content") (config : Entries) (v : Value) :
    AddsNone config (Entries.set config (.str name) v) := by
  intro w hw
  refine (Entries.mem_of_mem_set hw).resolve_right fun hkey => ?_
  exact hname (Key.str.inj hkey.1)

/-- Filling in an entry other than the content adds no content. -/
lemma addsNone_fill {name : String} (hname : name ≠ "content") (config : Entries) (v : Value) :
    AddsNone config (Image.fill config name v) := by
  unfold Image.fill
  split
  · exact fun _ hw => hw
  · exact addsNone_set hname config v

/-- An attachment adds no content. -/
lemma addsNone_withFeatured (config data : Entries) (context : Context) :
    AddsNone config (withFeatured config data context) := by
  unfold withFeatured
  split
  · exact fun _ hw => hw
  · split
    · rw [Image.applyAttachment_eq]
      intro v hv
      have hcrops := addsNone_fill (by decide) _ _ v hv
      have haddress := addsNone_fill (by decide) _ _ v hcrops
      have hnumber := addsNone_set (by decide) _ _ v haddress
      exact addsNone_set (by decide) _ _ v hnumber
    · exact fun _ hw => hw

/-! ## The definitions -/

section Library

variable [Surroundings]

/-- Whatever the built-in definitions ask for can be looked up. -/
lemma lookable_registry (settings : ImageSettings) : (registry settings).Lookable := by
  intro name d hd q hq
  have hrequirements : d.requirements = [] ∨ d.requirements = postRequirements := by
    cases kind_of_get? hd with
    | inert d _ hnone => exact .inl hnone
    | footer => exact .inl rfl
    | post d hd =>
      obtain ⟨e, -, -, -, hpost, -⟩ := exists_of_mem_postDefinitions hd
      exact .inr hpost
    | image => exact .inr rfl
  rcases hrequirements with hnone | hpost
  · rw [hnone] at hq
    cases hq
  · rw [hpost] at hq
    rw [List.mem_singleton.mp hq]
    exact ⟨Option.some_ne_none _, Option.some_ne_none _⟩

/-! ## Where contents come from -/

/-- Where the content of a node can come from: from the tree that is resolved, from a definition,
from the author, the tags or the body of the document that is shown, and from nowhere else. -/
inductive Origin (context : Context) (root : Node) (v : Value) : Prop
  | given (level : Nat) (n : Node) (hn : Within level root n)
      (hv : (Key.str "content", v) ∈ n.config)
  | blank (hv : v = .str "")
  | sharing (hv : v = .str sharingText)
  | author (hv : v = .str (authorIn context))
  | tag (t : Term) (ht : t ∈ tagsIn context) (hv : v = .str (tagAnchor t))
  | body (d : Document Key Value) (names : Value) (nodes : List Node) (n : Node)
      (hd : shown context = some d) (hnodes : Markup.nodesOf d.content names = .ok nodes)
      (hn : n ∈ nodes) (hv : (Key.str "content", v) ∈ n.config)

/-- The contents in a node, wherever they stand, have an origin. -/
def Traced (context : Context) (root n : Node) : Prop :=
  ∀ level p, Within level n p → ∀ v, (Key.str "content", v) ∈ p.config → Origin context root v

variable {context : Context} {root n m : Node} {data : Entries}

/-- The contents in a node are its own and those in its children. -/
lemma traced_iff : Traced context root n ↔
    (∀ v, (Key.str "content", v) ∈ n.config → Origin context root v) ∧
      ∀ c, Child.node c ∈ n.children → Traced context root c := by
  constructor
  · intro h
    exact ⟨h 0 n (.here n), fun c hc level p hp => h (level + 1) p (.deeper hc hp)⟩
  · rintro ⟨hown, hchildren⟩ level p hp
    cases hp with
    | here => exact hown
    | deeper hc hp => exact hchildren _ hc _ p hp

/-- Another configuration has an origin for its content, or the content that was there. -/
lemma Traced.of_config (h : Traced context root n) (hchildren : m.children = n.children)
    (hconfig : ∀ v, (Key.str "content", v) ∈ m.config →
      (Key.str "content", v) ∈ n.config ∨ Origin context root v) : Traced context root m := by
  rw [traced_iff] at h ⊢
  rw [hchildren]
  exact ⟨fun v hv => (hconfig v hv).elim (h.1 v) id, h.2⟩

/-- Setting an entry other than the content keeps a node traced. -/
lemma Traced.setConfig (h : Traced context root n) {name : String} (hname : name ≠ "content")
    (v : Value) : Traced context root (n.setConfig (.str name) v) :=
  h.of_config rfl fun w hw => .inl (addsNone_set hname n.config v w hw)

/-- Markup with a content that has an origin is traced. -/
lemma Traced.markup (h : Traced context root n) {content : String}
    (hcontent : Origin context root (.str content)) :
    Traced context root ((n.withType "html").setConfig (.str "content") (.str content)) := by
  refine h.of_config rfl fun w hw => ?_
  refine (Entries.mem_of_mem_set hw).imp_right ?_
  rintro ⟨-, rfl⟩
  exact hcontent

/-- A node without nodes below it is traced if its contents have an origin. -/
lemma traced_of_texts (hown : ∀ v, (Key.str "content", v) ∈ n.config → Origin context root v)
    (hchildren : ∀ c, Child.node c ∉ n.children) : Traced context root n :=
  traced_iff.mpr ⟨hown, fun c hc => absurd hc (hchildren c)⟩

/-- The only content in the defaults of a definition is blank. -/
lemma eq_blank_of_mem_defaults {settings : ImageSettings} {name : String} {d : Definition}
    (h : (registry settings).get? name = some d) {v : Value}
    (hv : (Key.str "content", v) ∈ d.defaults) : v = .str "" := by
  have hdeclared : ∀ d ∈ declaredDefinitions, ∀ v, (Key.str "content", v) ∈ d.defaults →
      v = .str "" := by
    simp [declaredDefinitions, declared, container, footer, html, socialLinks]
  obtain ⟨hd, -⟩ := mem_definitions_of_get? h
  simp only [definitions, List.mem_append, List.mem_singleton] at hd
  rcases hd with (hd | hd) | rfl
  · exact hdeclared d hd v hv
  · obtain ⟨e, -, -, hdefaults, -⟩ := exists_of_mem_postDefinitions hd
    rw [hdefaults] at hv
    cases hv
  · simp [image, imageDefaults] at hv

/-- Filling in the defaults of a definition keeps a node traced. -/
lemma Traced.withDefaults {settings : ImageSettings} {name : String} {d : Definition}
    (h : Traced context root n) (hd : (registry settings).get? name = some d) :
    Traced context root (n.withDefaults d.defaults) := by
  refine h.of_config rfl fun v hv => ?_
  rcases Entries.mem_or_mem_of_mem_merge hv with hdefault | hown
  · exact .inr (.blank (eq_blank_of_mem_defaults hd hdefault))
  · exact .inl hown

/-! ## The transforms -/

/-- The node that a transform gives, if it gives one, is traced. -/
def GivesTraced (context : Context) (root : Node) (x : Except Fault Value) : Prop :=
  (∃ s, x = .ok (.str s)) ∨ (∃ e, x = .error e) ∨ ∃ m, x = .ok (.node m) ∧ Traced context root m

/-- Tags become links, each with its own content. -/
lemma givesTraced_postTags (hn : Traced context root n)
    (hdata : dataFor context postRequirements = .ok data) :
    GivesTraced context root (postTags n data context) := by
  refine .inr (.inr ⟨_, postTags_eq n hdata, traced_iff.mpr ⟨(traced_iff.mp hn).1, fun c hc => ?_⟩⟩)
  obtain ⟨t, ht, htag⟩ := List.mem_map.mp hc
  cases htag
  refine traced_of_texts (fun v hv => .tag t ht ?_) nofun
  exact (Prod.mk.inj (List.mem_singleton.mp hv)).2

/-- A body becomes a container of nodes that are made of its markup. -/
lemma givesTraced_postContent (hn : Traced context root n)
    (hdata : dataFor context postRequirements = .ok data) :
    GivesTraced context root (postContent n data context) := by
  unfold postContent
  rw [← shown_eq hdata]
  split
  · exact .inr (.inr ⟨_, rfl, traced_of_texts nofun nofun⟩)
  · rename_i d hd
    cases hnodes : Markup.nodesOf d.content (tagsOf n) with
    | error e => exact .inr (.inl ⟨e, rfl⟩)
    | ok nodes =>
      refine .inr (.inr ⟨_, rfl, traced_iff.mpr ⟨fun v hv => ?_, fun c hc => ?_⟩⟩)
      · rcases Entries.mem_of_mem_set hv with hv | ⟨hkey, -⟩
        · exact (traced_iff.mp hn).1 v (List.mem_filter.mp hv).1
        · exact absurd (Key.str.inj hkey) (by decide)
      · obtain ⟨p, hp, hpc⟩ := List.mem_map.mp hc
        obtain rfl := Child.node.inj hpc
        refine traced_of_texts (fun v hv => .body d _ nodes p hd hnodes hp hv) fun c hc => ?_
        obtain ⟨-, name, e, -, -, he⟩ := Markup.exists_element hnodes p hp
        obtain ⟨type, -, he⟩ := (bind_eq_ok_iff _ _ _).mp he
        cases he
        split at hc
        · cases hc
        · cases List.mem_singleton.mp hc

/-- The transforms for documents make contents of the document only. -/
lemma givesTraced_post (hn : Traced context root n)
    (hdata : dataFor context postRequirements = .ok data) :
    ∀ e ∈ postTable, GivesTraced context root (e.2.2.2 n data context) := by
  simp only [postTable, List.forall_mem_cons, List.not_mem_nil, false_implies, implies_true,
    and_true]
  refine ⟨?_, ?_, ?_, ?_, ?_, givesTraced_postTags hn hdata, givesTraced_postContent hn hdata⟩
  · cases htitle : postTitle n data context with
    | error e => exact .inr (.inl ⟨e, rfl⟩)
    | ok v =>
      obtain ⟨s, rfl⟩ := exists_text_of_postTitle htitle
      exact .inl ⟨s, rfl⟩
  · unfold postExcerpt
    split <;> exact .inl ⟨_, rfl⟩
  · have hlink : Traced context root (n.withType "link") := hn.of_config rfl fun _ hv => .inl hv
    exact .inr (.inr ⟨_, rfl, hlink.setConfig (by decide) _⟩)
  · exact .inr (.inr ⟨_, postByline_eq n hdata, hn.markup (.author rfl)⟩)
  · exact .inr (.inr ⟨_, rfl, hn.markup (.sharing rfl)⟩)

/-- Deriving the fields of an image adds no content. -/
lemma addsNone_configure {settings : ImageSettings} {config derived : Entries}
    (h : Image.configure config settings .null .null = .ok derived) :
    AddsNone config derived := by
  rw [Image.configure_eq] at h
  obtain ⟨name, -, h⟩ := (bind_eq_ok_iff _ _ _).mp h
  split at h
  · obtain ⟨fields, hfields, h⟩ := (bind_eq_ok_iff _ _ _).mp h
    cases h
    obtain ⟨sources, src, srcset, tags, original, room, rfl⟩ := Image.responsiveFields_spec hfields
    intro v hv
    refine (Entries.mem_or_mem_of_mem_merge hv).resolve_right ?_
    simp
  · cases h
    exact addsNone_set (by decide) config _

/-- An image keeps its content. -/
lemma givesTraced_showImage (hn : Traced context root n) (settings : ImageSettings) :
    GivesTraced context root (showImage settings n data context) := by
  rw [showImage_eq]
  cases hmade : imageConfig settings data context n.config with
  | error e => exact .inr (.inl ⟨e, rfl⟩)
  | ok made =>
    refine .inr (.inr ⟨_, rfl, hn.of_config rfl fun v hv => .inl ?_⟩)
    obtain ⟨derived, hderived, hmerge⟩ := (bind_eq_ok_iff _ _ _).mp hmade
    cases hmerge
    refine (Entries.mem_or_mem_of_mem_merge hv).elim id fun hmem => ?_
    exact addsNone_withFeatured _ data context v (addsNone_configure hderived v hmem)

/-- The footer of a site keeps its content. -/
lemma givesTraced_fillCopyright (hn : Traced context root n) :
    GivesTraced context root (fillCopyright n data context) := by
  refine .inr (.inr ⟨_, fillCopyright_eq n data context, hn.of_config rfl fun v hv => .inl ?_⟩)
  have hadds : AddsNone n.config (fillConfig n.config) := by
    unfold fillConfig
    split
    · exact fun _ hw => hw
    · exact addsNone_set (by decide) n.config _
  exact hadds v hv

/-! ## Rounds and resolutions -/

section Resolution

variable {settings : ImageSettings} {r : Resolver}
  (hr : ∀ name, r.registry.get? name = (registry settings).get? name)

include hr

/-- What a transform makes of a traced node is traced. -/
lemma givesTraced_of_transforms (hn : Traced context root n) {d : Definition}
    {x : Except Fault Value} (h : r.Transforms context n d x) : GivesTraced context root x := by
  obtain ⟨hd, a, data, ha, hdata, rfl⟩ := h
  rw [hr] at hd
  replace hn := hn.withDefaults hd
  cases kind_of_get? hd with
  | inert d haction =>
    rw [haction] at ha
    cases ha
  | footer =>
    cases ha
    change GivesTraced context root (fillCopyright _ data context)
    exact givesTraced_fillCopyright hn
  | post d hd =>
    obtain ⟨e, he, -, -, hrequirements, t, ht, happly⟩ := exists_of_mem_postDefinitions hd
    obtain rfl : Action.run t = a := Option.some.inj (ht.symm.trans ha)
    rw [hrequirements] at hdata
    rw [act, happly]
    exact givesTraced_post hn hdata e he
  | image =>
    cases ha
    exact givesTraced_showImage hn settings

/-- The node that a transform makes of a traced node is traced. -/
lemma traced_of_makes (hn : Traced context root n) {d : Definition} {x : Except Fault Value}
    (h : r.Transforms context n d x) (hm : Makes x m) : Traced context root m := by
  rcases givesTraced_of_transforms hr hn h with ⟨s, rfl⟩ | ⟨e, rfl⟩ | ⟨p, rfl, hp⟩
  · cases hm
  · cases hm
  · cases hm
    exact hp

/-- Being traced goes through a whole resolution. -/
lemma traced_preserves : Preserves context r (Traced context root) where
  settled n m hn hround := by
    cases hround with
    | undefined => exact hn
    | inert d hd => exact hn.withDefaults ((hr _).symm.trans hd)
    | failed d x hx => exact hn.withDefaults ((hr _).symm.trans hx.1)
    | kept d x m hx hm => exact traced_of_makes hr hn hx hm
  changed n m hn hround := by
    cases hround with
    | changed d x m hx hm => exact traced_of_makes hr hn hx hm
  children n hn c hc p hp := (traced_iff.mp hn).2 p (hp ▸ hc)
  withChildren n cs hn hcs := traced_iff.mpr
    ⟨(traced_iff.mp hn).1, fun c hc => hcs _ (List.mem_of_mem_filter hc) c rfl⟩

/-- A node of the type for the author becomes raw markup with the author as it is. -/
lemma visitAt_byline_of_type {depth : Nat} (hlt : depth < r.maxDepth)
    (hn : n.type = "post/byline") :
    ∃ m, (visitAt context r depth n).result = .ok (some (.node m)) ∧ m.type = "html" ∧
      m.get? (.str "content") = some (.str (authorIn context)) := by
  obtain ⟨data, hdata⟩ := exists_postData context
  obtain ⟨f, -, hf⟩ : ∃ f, f.defaults = [] ∧
      r.Transforms context n f (postByline (n.withDefaults []) data context) :=
    transforms_part hr (.tail _ (.tail _ (.tail _ (.head _)))) hn hdata
  rw [postByline_eq _ hdata] at hf
  have htype : "html" ≠ n.type := by
    rw [hn]
    decide
  have hlookable : r.registry.Lookable :=
    fun name d hd => lookable_registry settings name d ((hr name).symm.trans hd)
  obtain ⟨o, ho⟩ := exists_visit hlookable context (r.maxDepth - depth) n
  obtain ⟨t, rfl, htype, hconfig⟩ := exists_of_changed hlt (changed_of_type_ne hf htype)
    (.inert html ((hr "html").trans rfl) rfl) ho
  refine ⟨t, ho, htype, ?_⟩
  -- the configuration of any node with defaults is a mapping
  have hnil : Entries.Distinct ([] : Entries) := List.Pairwise.nil
  have hdistinct : Entries.Distinct (Entries.set (Entries.merge [] n.config) (.str "content")
      (.str (authorIn context))) := (hnil.merge n.config).set _ _
  have hcontent : t.config = Entries.merge html.defaults
      (Entries.set (Entries.merge [] n.config) (.str "content") (.str (authorIn context))) :=
    hconfig
  rw [Node.get?, hcontent, Entries.get?_merge _ hdistinct, Entries.get?_set, Key.same_refl,
    if_pos rfl]
  rfl

/-- With the built-in definitions, a node of the type for tags becomes a fragment of one node for
each tag, in order, whose content is a single link to the address and with the name of the tag.  A
node of the type for the author becomes raw markup with the author as it is; that says the author
exactly if the author has no active characters.  Every content in what a tree is resolved to comes
from the tree, from a definition, from the author, from a tag or from the body: no other field of
the document is rendered as markup. -/
theorem fields_in_markup (context : Context) :
    (∀ n depth, n.type = "post/tags" → depth < r.maxDepth →
      ∃ config, (visitAt context r depth n).result =
        .ok (some (.node (.mk "" config ((tagsIn context).map tagNode))))) ∧
    (∀ t : Term, ∃ content, tagNode t = .node (htmlNode content) ∧
      Markup.IsLink content t.link t.name) ∧
    (∀ n depth, n.type = "post/byline" → depth < r.maxDepth →
      ∃ m, (visitAt context r depth n).result = .ok (some (.node m)) ∧ m.type = "html" ∧
        m.get? (.str "content") = some (.str (authorIn context))) ∧
    (Markup.Says (authorIn context) (authorIn context) ↔
      ∀ c ∈ (authorIn context).toList, Markup.isActive c = false) ∧
    ∀ root m level p v, (r.resolveTree context (.node root)).result = .ok (some (.node m)) →
      Within level m p → (Key.str "content", v) ∈ p.config → Origin context root v := by
  refine ⟨?_, ?_, ?_, Markup.says_self_iff _, ?_⟩
  · intro n depth hn hlt
    exact ⟨_, visitAt_tags hr hlt hn⟩
  · intro t
    exact ⟨_, rfl, Markup.isLink_escape t.link t.name⟩
  · intro n depth hn hlt
    exact visitAt_byline_of_type hr hlt hn
  · intro root m level p v hm hp hv
    have hroot : ∀ n, rootOf (.node root) = .ok (.node n) → Traced context root n := by
      intro n hn
      cases hn
      exact fun level p hp v hv => .given level p hp hv
    exact (traced_preserves hr).resolveTree hroot _ hm m rfl level p hp v hv

end Resolution

end Library

open scoped Standard

/-- A document whose author and whose tag are written as markup. -/
def bold : Document Key Value :=
  ⟨1, "A", "", "", "/a/", "<b>Ann</b>", [⟨"<i>sea</i>", "/sea/?a=1&b=\""⟩], none, []⟩

/-- The context of a request for that document. -/
def boldContext : Context :=
  ⟨Context.seeded (.int 1) (.query ⟨[bold], false, false⟩)⟩

/-- The tag of that document becomes a link, and its author is left as it is, where only a single
level may be resolved. -/
theorem fields_in_markup_bold :
    (∃ config content, (visitAt boldContext (resolver .empty 1 .errors false) 0
        (.mk "post/tags" [] [])).result =
          .ok (some (.node (.mk "" config [.node (htmlNode content)]))) ∧
      Markup.IsLink content "/sea/?a=1&b=\"" "<i>sea</i>") ∧
    ∃ m, (visitAt boldContext (resolver .empty 1 .errors false) 0
        (.mk "post/byline" [] [])).result = .ok (some (.node m)) ∧
      m.get? (.str "content") = some (.str "<b>Ann</b>") ∧
      ∀ v, (Key.str "content", v) ∈ m.config →
        Origin boldContext (.mk "post/byline" [] []) v := by
  have hlt : 0 < (resolver .empty 1 .errors false).maxDepth := by decide
  have hregistry : ∀ name, (resolver .empty 1 .errors false).registry.get? name =
      (registry .empty).get? name := fun _ => rfl
  obtain ⟨htags, hlinks, hbyline, -, horigins⟩ := fields_in_markup hregistry boldContext
  refine ⟨?_, ?_⟩
  · obtain ⟨config, hresult⟩ := htags (.mk "post/tags" [] []) 0 rfl hlt
    obtain ⟨content, hcontent, hlink⟩ := hlinks ⟨"<i>sea</i>", "/sea/?a=1&b=\""⟩
    have hone : (tagsIn boldContext).map tagNode = [.node (htmlNode content)] := by
      rw [← hcontent]
      rfl
    rw [hone] at hresult
    exact ⟨config, content, hresult, hlink⟩
  · obtain ⟨m, hresult, -, hcontent⟩ := hbyline (.mk "post/byline" [] []) 0 rfl hlt
    have htree : ((resolver .empty 1 .errors false).resolveTree boldContext
        (.node (.mk "post/byline" [] []))).result = .ok (some (.node m)) := by
      rw [resolveTree_eq]
      exact hresult
    exact ⟨m, hresult, hcontent, fun v hv => horigins _ m 0 m v htree (.here m) hv⟩

/-- The author of that document is not escaped. -/
theorem bold_author_is_not_escaped :
    ((resolver .empty 32 .errors false).resolveTree boldContext
        (.node (.mk "post/byline" [] []))).result =
      .ok (some (.node (htmlNode "<b>Ann</b>"))) ∧
    authorIn boldContext = "<b>Ann</b>" ∧ '<' ∈ "<b>Ann</b>".toList ∧
    ¬ Markup.Says "<b>Ann</b>" "<b>Ann</b>" := by
  refine ⟨?_, rfl, by decide, ?_⟩
  · have hregistry : ∀ name, (resolver .empty 32 .errors false).registry.get? name =
        (registry .empty).get? name := fun _ => rfl
    have hshows : Shows boldContext bold := ⟨_, rfl, rfl⟩
    rw [resolveTree_eq]
    exact visitAt_byline hregistry (by decide) hshows
  · rw [Markup.says_self_iff]
    exact fun hplain => absurd (hplain '<' (by decide)) (by decide)

end Builtin

end PageTree
