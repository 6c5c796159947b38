import PageTree.Builtin.Library
import PageTree.Proofs.Image.Responsive
import PageTree.Proofs.Resolution.Idempotence

/-!
# Resolving twice with the built-in definitions

Every place settles at once if all definitions are built-in (`settlesAtOnce`).  Definitions without
a transform only fill in defaults.  A transform for documents makes a text, or a node of a type that
no transform takes, unless it fails (`Outcome`).  The transforms of the footer and of images work on
the configuration, and give back what they have made: a copyright line that is there stays
(`fillConfig_again`), and the fields of an image are derived once (`imageConfig_again`).

So a tree that was resolved with the built-in definitions is given back when it is resolved once
more (`resolution_idempotent`), whatever nodes it has, whatever the context holds, and also where
transforms failed or the bound on the depth was reached.
-/

namespace PageTree.Builtin

open Resolver

/-! ## Definitions for documents -/

/-- The identifier of the document is selected in every context. -/
lemma exists_postData (context : Context) :
    ∃ data, dataFor context postRequirements = .ok data := by
  refine exists_dataFor context fun e he => ?_
  rw [List.mem_singleton.mp he]
  exact ⟨_, _, rfl, rfl⟩

/-- The types that a transform for documents may give a node: no transform takes nodes of these
types. -/
def restTypes : List String :=
  ["link", "html", "", "container"]

/-- A title is a text if there is one. -/
lemma exists_text_of_postTitle {n : Node} {data : Entries} {context : Context} {v : Value}
    (h : postTitle n data context = .ok v) : ∃ s, v = .str s := by
  unfold postTitle at h
  split at h
  · split at h
    · cases h
      exact ⟨_, rfl⟩
    · obtain ⟨s, -, rfl⟩ := (map_eq_ok_iff _ _ _).mp h
      exact ⟨s, rfl⟩
  · cases h
    exact ⟨_, rfl⟩

/-- What a transform makes of a node: a text, a node of a type that no transform takes, or a fault
that does not depend on the children. -/
inductive Outcome (apply : Node → Except Fault Value) (n : Node) : Prop where
  | text (s : String) (h : apply n = .ok (.str s))
  | node (m : Node) (h : apply n = .ok (.node m)) (hm : m.type ∈ restTypes)
  | fault (e : Fault) (h : ∀ cs, apply (n.withChildren cs) = .error e)

/-- A title is a text, unless it cannot be read. -/
lemma outcome_title (data : Entries) (context : Context) (n : Node) :
    Outcome (fun m => postTitle m data context) n := by
  cases htitle : postTitle n data context with
  | error e => exact .fault e fun _ => htitle
  | ok v =>
    obtain ⟨s, rfl⟩ := exists_text_of_postTitle htitle
    exact .text s htitle

/-- An excerpt is a text. -/
lemma outcome_excerpt (data : Entries) (context : Context) (n : Node) :
    Outcome (fun m => postExcerpt m data context) n := by
  cases hd : currentDocument data context with
  | none => exact .text "" (by rw [postExcerpt, hd])
  | some d => exact .text _ (by rw [postExcerpt, hd])

/-- An author becomes markup. -/
lemma outcome_byline (data : Entries) (context : Context) (n : Node) :
    Outcome (fun m => postByline m data context) n := by
  obtain ⟨author, hmarkup⟩ : ∃ author, postByline n data context = .ok (markupNode n author) := by
    unfold postByline
    split <;> exact ⟨_, rfl⟩
  have hhtml : "html" ∈ restTypes := by decide
  exact .node _ hmarkup hhtml

variable [Surroundings]

/-- A body becomes a container, unless the elements to be shown cannot be read. -/
lemma outcome_content (data : Entries) (context : Context) (n : Node) :
    Outcome (fun m => postContent m data context) n := by
  cases hd : currentDocument data context with
  | none => exact .node (.mk "" [] []) (by rw [postContent, hd]) (by decide)
  | some d =>
    have hcontent : ∀ cs, postContent (n.withChildren cs) data context =
        (Markup.nodesOf d.content (tagsOf n)).bind fun nodes =>
          .ok (.node (.mk "container" (Entries.set (Entries.erase n.config tagsKey)
            (.str "theme_name") (.str "fullBleed")) (nodes.map .node))) := by
      intro cs
      rw [postContent, hd]
      rfl
    cases hnodes : Markup.nodesOf d.content (tagsOf n) with
    | error e => exact .fault e fun cs => by rw [hcontent, hnodes]; rfl
    | ok nodes =>
      rw [hnodes] at hcontent
      have hcontainer : "container" ∈ restTypes := by decide
      exact .node _ (hcontent n.children) hcontainer

/-- Every transform for documents has one of these outcomes. -/
lemma outcome_post (data : Entries) (context : Context) (n : Node) :
    ∀ e ∈ postTable, Outcome (fun m => e.2.2.2 m data context) n := by
  have hlink : "link" ∈ restTypes := by decide
  have hhtml : "html" ∈ restTypes := by decide
  have hfragment : "" ∈ restTypes := by decide
  simp only [postTable, List.forall_mem_cons, List.not_mem_nil, false_implies, implies_true,
    and_true]
  exact ⟨outcome_title data context n, outcome_excerpt data context n, .node _ rfl hlink,
    outcome_byline data context n, .node _ rfl hhtml, .node _ rfl hfragment,
    outcome_content data context n⟩

/-- A definition for documents stands in the table. -/
lemma exists_of_mem_postDefinitions {d : Definition} (h : d ∈ postDefinitions) :
    ∃ e ∈ postTable, d.name = e.1 ∧ d.defaults = [] ∧ d.requirements = postRequirements ∧
      ∃ t, d.action = some (.run t) ∧ t.apply = e.2.2.2 := by
  obtain ⟨e, he, rfl⟩ := List.mem_map.mp h
  exact ⟨e, he, rfl, rfl, rfl, _, rfl, rfl⟩

/-! ## The registry -/

/-- The registry that is filled with the built-in definitions. -/
def registry (settings : ImageSettings) : Registry :=
  ((Filling.storeBuiltins settings).run Shelf.empty).2.registry

/-- A resolver with the built-in definitions. -/
def resolver (settings : ImageSettings) (maxDepth : Nat) (level : TraceLevel) (strict : Bool) :
    Resolver where
  registry := registry settings
  maxDepth := maxDepth
  traceLevel := level
  strict := strict

/-- Each definition is stored under its name. -/
lemma registry_eq (settings : ImageSettings) :
    registry settings = ⟨(definitions settings).map fun d => (d.name, d), false⟩ :=
  rfl

/-- The definition of a type is a built-in one of that name. -/
lemma mem_definitions_of_get? {settings : ImageSettings} {name : String} {d : Definition}
    (h : (registry settings).get? name = some d) : d ∈ definitions settings ∧ d.name = name := by
  rw [registry_eq] at h
  obtain ⟨e, he, rfl⟩ := Option.map_eq_some_iff.mp h
  have hname := List.find?_some he
  obtain ⟨d, hd, rfl⟩ := List.mem_map.mp (List.mem_of_find?_eq_some he)
  exact ⟨hd, eq_of_beq hname⟩

/-- The kinds of built-in definitions.  Only the footer, images and the definitions for documents
have a transform. -/
inductive Kind (settings : ImageSettings) : Definition → Prop where
  | inert (d : Definition) (haction : d.action = none) (hrequirements : d.requirements = [])
      (hdefaults : Entries.Distinct d.defaults) : Kind settings d
  | footer : Kind settings footer
  | post (d : Definition) (hd : d ∈ postDefinitions) : Kind settings d
  | image : Kind settings (image settings)

/-- The definition of a type is of one of these kinds. -/
lemma kind_of_get? {settings : ImageSettings} {name : String} {d : Definition}
    (h : (registry settings).get? name = some d) : Kind settings d := by
  obtain ⟨hd, -⟩ := mem_definitions_of_get? h
  simp only [definitions, List.mem_append, List.mem_singleton] at hd
  rcases hd with (hd | hd) | rfl
  · simp only [declaredDefinitions, List.mem_cons, List.not_mem_nil, or_false] at hd
    rcases hd with rfl | rfl | rfl | rfl
    · exact .inert container rfl rfl (by unfold Entries.Distinct; decide)
    · exact .footer
    · exact .inert html rfl rfl (by unfold Entries.Distinct; decide)
    · exact .inert socialLinks rfl rfl (by unfold Entries.Distinct; decide)
  · exact .post d hd
  · exact .image

/-! ## Nodes that settle -/

variable {settings : ImageSettings} {maxDepth : Nat} {level : TraceLevel} {strict : Bool}
  {context : Context}

/-- A node of a type that no transform takes comes to rest. -/
lemma comesToRest_restTypes {n : Node} (h : n.type ∈ restTypes) :
    ComesToRest context (resolver settings maxDepth level strict) n := by
  have hhtml : Entries.Distinct html.defaults := by unfold Entries.Distinct; decide
  have hcontainer : Entries.Distinct container.defaults := by unfold Entries.Distinct; decide
  simp only [restTypes, List.mem_cons, List.not_mem_nil, or_false] at h
  rcases h with h | h | h | h
  · exact comesToRest_undefined (by rw [h]; rfl)
  · exact comesToRest_inert (d := html) (by rw [h]; rfl) rfl hhtml
  · exact comesToRest_undefined (by rw [h]; rfl)
  · exact comesToRest_inert (d := container) (by rw [h]; rfl) rfl hcontainer

/-- A node of a type for documents settles at once. -/
lemma settlesAtOnce_post {n : Node} {d : Definition}
    (h : (registry settings).get? n.type = some d) (hd : d ∈ postDefinitions) :
    SettlesAtOnce context (resolver settings maxDepth level strict) n := by
  obtain ⟨e, he, hname, hdefaults, hrequirements, t, ha, ht⟩ := exists_of_mem_postDefinitions hd
  obtain ⟨data, hdata⟩ := exists_postData context
  rw [← hrequirements] at hdata
  have htransforms : (resolver settings maxDepth level strict).Transforms context n d
      (e.2.2.2 (n.withDefaults d.defaults) data context) :=
    ⟨h, _, data, ha, hdata, by rw [act, ht]⟩
  cases outcome_post data context (n.withDefaults d.defaults) e he with
  | text s hs => exact .rests (.text s (.text d s (hs ▸ htransforms)))
  | node m hm hrest =>
    refine settlesAtOnce_of_type_ne (hm ▸ htransforms) ?_ (comesToRest_restTypes hrest)
    have hnames : ∀ e ∈ postTable, e.1 ∉ restTypes := by simp [postTable, restTypes]
    rintro htype
    refine hnames e he ?_
    rw [← hname, (mem_definitions_of_get? h).2, ← htype]
    exact hrest
  | fault x hx =>
    refine .rests (comesToRest_failed h ha hdata ?_ (e := x) fun cs => ?_)
    · rw [hdefaults]
      exact List.Pairwise.nil
    · rw [act, ht]
      exact hx cs

/-! ## The footer -/

/-- The configuration of a footer with a copyright line. -/
def fillConfig (config : Entries) : Entries :=
  if (Entries.lookup config "copyright").truthy then config
  else
    Entries.set config (.str "copyright")
      (.str (copyrightLine (Entries.lookup config "copyright_holder")))

/-- The transform of the footer works on the configuration. -/
lemma fillCopyright_eq (n : Node) (data : Entries) (context : Context) :
    fillCopyright n data context =
      .ok (.node (.mk n.type (fillConfig n.config) n.children)) := by
  unfold fillCopyright fillConfig
  split
  · cases n
    rfl
  · rfl

/-- A copyright line counts as true. -/
lemma copyrightLine_truthy (holder : Value) : (Value.str (copyrightLine holder)).truthy = true := by
  have hne : ∀ s t : String, s ≠ "" → s ++ t ≠ "" := by
    intro s t hs
    simp [hs]
  rw [Value.truthy, bne_iff_ne, copyrightLine]
  split
  · exact hne _ _ (hne _ _ (hne _ _ (by decide)))
  · exact hne _ _ (by decide)

/-- A copyright line is filled in once. -/
lemma fillConfig_again (config : Entries) : fillConfig (fillConfig config) = fillConfig config := by
  have htruthy : (Entries.lookup (fillConfig config) "copyright").truthy = true := by
    unfold fillConfig
    split
    · assumption
    · rw [Entries.lookup, Entries.find?_set, if_pos rfl]
      exact copyrightLine_truthy _
  conv_lhs => rw [fillConfig, if_pos htruthy]

/-- Filling in a copyright line extends a configuration. -/
lemma extends_fillConfig (config : Entries) : Entries.Extends config (fillConfig config) := by
  unfold fillConfig
  split
  · exact .refl config
  · exact Entries.extends_set config _ _

/-- A footer settles at once. -/
lemma settlesAtOnce_footer {n : Node} (h : (registry settings).get? n.type = some footer) :
    SettlesAtOnce context (resolver settings maxDepth level strict) n := by
  have hdefaults : Entries.Distinct footer.defaults := by
    unfold Entries.Distinct footer declared
    dsimp only
    decide
  have hdata : dataFor context footer.requirements = .ok [] := rfl
  refine settlesAtOnce_of_config (f := fun config => .ok (fillConfig config)) h rfl hdata hdefaults
    (fun m => fillCopyright_eq m [] context) fun c g hg => ?_
  cases hg
  have hextends := (Entries.extends_merge footer.defaults c).trans (extends_fillConfig _)
  rw [hextends.merge_eq hdefaults, fillConfig_again]

/-! ## Images -/

/-- The configuration that the transform of images makes. -/
def imageConfig (settings : ImageSettings) (data : Entries) (context : Context)
    (config : Entries) : Except Fault Entries :=
  (Image.configure (withFeatured config data context) settings .null .null).bind fun fields =>
    .ok (Entries.merge config fields)

/-- The transform of images works on the configuration. -/
lemma showImage_eq (settings : ImageSettings) (n : Node) (data : Entries) (context : Context) :
    showImage settings n data context =
      (imageConfig settings data context n.config).map fun config =>
        .node (.mk n.type config n.children) := by
  unfold showImage imageConfig
  cases Image.configure (withFeatured n.config data context) settings .null .null <;> rfl

omit [Surroundings] in
/-- The featured image extends the configuration of an image. -/
lemma extends_withFeatured (config data : Entries) (context : Context) :
    Entries.Extends config (withFeatured config data context) := by
  unfold withFeatured
  split
  · exact .refl config
  · split
    · exact Image.extends_applyAttachment config _
    · exact .refl config

omit [Surroundings] in
/-- The featured image is shown by what is derived from a configuration with it. -/
lemma withFeatured_again {config derived data : Entries} {context : Context}
    (h : Image.Keeps (withFeatured config data context) derived) :
    withFeatured derived data context = derived := by
  have haddress := Entries.lookup_congr h.address
  cases htruthy : (Entries.lookup (withFeatured config data context) "url").truthy with
  | true => rw [withFeatured, haddress, htruthy, if_pos rfl]
  | false =>
    -- no address was configured, since it would still be there
    have hmissing : (Entries.lookup config "url").truthy = false := by
      cases hconfig : (Entries.lookup config "url").truthy with
      | false => rfl
      | true => rw [withFeatured, hconfig, if_pos rfl, hconfig] at htruthy; cases htruthy
    rw [withFeatured, haddress, htruthy, if_neg Bool.false_ne_true]
    rw [withFeatured, hmissing, if_neg Bool.false_ne_true] at h
    split
    · rename_i a ha
      rw [ha] at h
      exact ((Image.shows_applyAttachment config a).of_keeps h).applyAttachment
    · rfl

/-- The configuration of an image is made once. -/
lemma imageConfig_again {settings : ImageSettings} {data config made : Entries} {context : Context}
    (hdistinct : Entries.Distinct config)
    (h : imageConfig settings data context config = .ok made) :
    Entries.Extends config made ∧ imageConfig settings data context made = .ok made := by
  obtain ⟨derived, hderived, h⟩ := (bind_eq_ok_iff _ _ _).mp h
  cases h
  obtain ⟨hextends, hkeeps, hagain⟩ := Image.configure_keeps hderived
  have hwhole := (extends_withFeatured config data context).trans hextends
  rw [hwhole.merge_eq hdistinct]
  refine ⟨hwhole, ?_⟩
  rw [imageConfig, withFeatured_again hkeeps, hagain]
  exact congrArg Except.ok ((Entries.Extends.refl derived).merge_eq (hwhole.2 hdistinct))

/-- An image settles at once. -/
lemma settlesAtOnce_image {n : Node} (h : (registry settings).get? n.type = some (image settings)) :
    SettlesAtOnce context (resolver settings maxDepth level strict) n := by
  have hdefaults : Entries.Distinct (image settings).defaults := by
    unfold Entries.Distinct image
    dsimp only
    decide
  obtain ⟨data, hdata⟩ := exists_postData context
  refine settlesAtOnce_of_config (f := imageConfig settings data context) h rfl hdata hdefaults
    (fun m => showImage_eq settings m data context) fun c g hg => ?_
  have hdistinct := hdefaults.merge c
  obtain ⟨hextends, hagain⟩ := imageConfig_again hdistinct hg
  rw [((Entries.extends_merge _ c).trans hextends).merge_eq hdefaults]
  exact hagain

/-! ## All definitions -/

/-- Every place settles at once. -/
theorem settlesAtOnce (n : Node) :
    SettlesAtOnce context (resolver settings maxDepth level strict) n := by
  cases h : (registry settings).get? n.type with
  | none => exact .rests (comesToRest_undefined h)
  | some d =>
    cases kind_of_get? h with
    | inert d haction _ hdefaults => exact .rests (comesToRest_inert h haction hdefaults)
    | footer => exact settlesAtOnce_footer h
    | post d hd => exact settlesAtOnce_post h hd
    | image => exact settlesAtOnce_image h

/-- A tree of any nodes that is resolved with the built-in definitions is given back to the letter
when the result is resolved again in the same context, whatever the settings for images, the context
and the bound on the depth are. -/
theorem resolution_idempotent (settings : ImageSettings) (context : Context) (maxDepth : Nat)
    (level : TraceLevel) (strict : Bool) (t : Child) :
    ∃ u : Child,
      ((resolver settings maxDepth level strict).resolveTree context t.toValue).result =
        .ok (some u) ∧
      ((resolver settings maxDepth level strict).resolveTree context u.toValue).result =
        .ok (some u) :=
  resolveTree_again settlesAtOnce t

end PageTree.Builtin
